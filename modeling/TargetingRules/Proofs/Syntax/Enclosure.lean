import TargetingRules.Proofs.Syntax.Locality
import TargetingRules.Proofs.Syntax.Quoting

/-!
# Texts between equal quotes

The lexer and the decoder of literals read the same images in two ways. The lexer looks for the first
quote that no backslash hides; the decoder looks at the first and the last character, and then drops
backslashes in between. Each complete literal is decoded to what the lexer says. The decoder goes on to
accept every other text between equal quotes: where a bare quote closes the literal before its end, and
where the quote at its end is hidden.
-/

namespace TargetingRules

namespace Text

/-- The inside of a text between two of the given quotes that is no complete literal. -/
inductive Broken (quote : Char) : List Char → Prop where
  /-- A bare quote closes the literal early. -/
  | early {front back} (inside : Inside quote front) : Broken quote (front ++ quote :: back)
  /-- A backslash at the end hides the closing quote. -/
  | hidden {front} (inside : Inside quote front) : Broken quote (front ++ ['\\'])

theorem Broken.plain {quote c : Char} {cs : List Char} (noQuote : c ≠ quote) (noBackslash : c ≠ '\\')
    (rest : Broken quote cs) : Broken quote (c :: cs) := by
  cases rest with
  | early inside =>
    rw [← List.cons_append]
    exact .early (.plain noQuote noBackslash inside)
  | hidden inside =>
    rw [← List.cons_append]
    exact .hidden (.plain noQuote noBackslash inside)

theorem Broken.escaped {quote c : Char} {cs : List Char} (rest : Broken quote cs) :
    Broken quote ('\\' :: c :: cs) := by
  cases rest with
  | early inside =>
    rw [← List.cons_append, ← List.cons_append]
    exact .early (.escaped inside)
  | hidden inside =>
    rw [← List.cons_append, ← List.cons_append]
    exact .hidden (.escaped inside)

/-- The inside of a text between quotes is that of a complete literal or broken. -/
theorem inside_or_broken (quote : Char) (cs : List Char) : Inside quote cs ∨ Broken quote cs := by
  induction cs using Lexer.stringRun?.induct quote with
  | case1 c cs ih => exact ih.imp .escaped .escaped
  | case2 cs noEscape =>
    rw [← List.nil_append (quote :: cs)]
    exact .inr (.early .nil)
  | case3 c cs noEscape differs ih =>
    by_cases backslash : c = '\\'
    · -- a backslash with nothing after it
      subst backslash
      cases cs with
      | nil =>
        rw [← List.nil_append ['\\']]
        exact .inr (.hidden .nil)
      | cons d cs => exact absurd rfl (noEscape d cs rfl)
    · exact ih.imp (.plain differs backslash) (.plain differs backslash)
  | case4 => exact .inl .nil

/-- Decoding looks at the quotes at both ends alone. -/
theorem unquote?_eq_some_iff {cs v : List Char} :
    unquote? cs = some v ↔ ∃ quote inside, isQuote quote = true ∧
      cs = quote :: (inside ++ [quote]) ∧ unescape inside = v := by
  constructor
  · intro decoded
    cases cs with
    | nil => cases decoded
    | cons quote cs =>
      simp only [unquote?, Option.ite_none_right_eq_some, Bool.and_eq_true, beq_iff_eq] at decoded
      obtain ⟨⟨quoted, last⟩, decoded⟩ := decoded
      obtain ⟨inside, rfl⟩ := List.getLast?_eq_some_iff.mp last
      rw [List.dropLast_concat, Option.some.injEq] at decoded
      exact ⟨quote, inside, quoted, rfl, decoded⟩
  · rintro ⟨quote, inside, quoted, rfl, rfl⟩
    simp only [unquote?, quoted, List.getLast?_concat, List.dropLast_concat, BEq.rfl, Bool.and_self,
      ↓reduceIte]

end Text

namespace Lexer

variable {quote : Char} {cs : List Char}

/-- The lexer goes over a bare quote in no literal, and stops at no hidden one. -/
theorem stringRun?_ne_of_broken (isQuote : Text.isQuote quote = true) (broken : Text.Broken quote cs) :
    stringRun? quote (cs ++ [quote]) ≠ some (cs.length + 1) := by
  cases broken with
  | @early front back inside =>
    rw [List.append_assoc, List.cons_append, stringRun?_of_inside isQuote inside]
    simp only [Option.some.injEq, List.length_append, List.length_cons, ne_eq]
    omega
  | hidden inside =>
    rw [List.append_assoc, stringRun?_append_of_inside inside]
    exact Option.some_ne_none _ ∘ Eq.symm

/-- A literal that ends with its text has a complete inside. -/
theorem stringRun?_eq_length_iff (isQuote : Text.isQuote quote = true) :
    stringRun? quote (cs ++ [quote]) = some (cs.length + 1) ↔ Text.Inside quote cs := by
  constructor
  · intro run
    rcases Text.inside_or_broken quote cs with inside | broken
    · exact inside
    · exact absurd run (stringRun?_ne_of_broken isQuote broken)
  · exact fun inside => stringRun?_of_inside isQuote inside []

theorem wordKind_ne_str (word s : String) : wordKind word ≠ .str s := by
  have keyword : ∀ entry ∈ keywords, ∀ s, entry.2 ≠ .str s := by simp [keywords]
  rcases wordKind_cases word with ⟨entry, member, same⟩ | same
  · exact same ▸ keyword entry member s
  · exact same ▸ TokenKind.noConfusion

/-- The images that are string literals for the lexer. -/
theorem lexes_str_iff {image s : String} :
    Lexes image (.str s) ↔ ∃ quote inside, Text.isQuote quote = true ∧
      image.toList = quote :: (inside ++ [quote]) ∧ Text.Inside quote inside ∧
        Text.unescape inside = s.toList := by
  constructor
  · intro lexes
    obtain ⟨quote, cs, chars, _, isLexeme⟩ := lexes.isLexeme
    generalize isStr : TokenKind.str s = kind at isLexeme
    generalize whole : cs.length = length at isLexeme
    cases isLexeme with
    | number => cases isStr
    | string noDigit isQuote run =>
      have last := (stringRun?_append (ne_backslash_of_isQuote isQuote) run []).2.2
      rw [← whole, List.take_length] at last
      obtain ⟨inside, rfl⟩ := List.getLast?_eq_some_iff.mp last
      rw [← whole, List.take_length, List.dropLast_concat] at isStr
      cases isStr
      rw [← whole, List.length_append, List.length_singleton] at run
      exact ⟨quote, inside, isQuote, chars, (stringRun?_eq_length_iff isQuote).mp run,
        String.toList_ofList.symm⟩
    | word => exact absurd isStr.symm (wordKind_ne_str _ s)
    | symbol => cases isStr
  · rintro ⟨quote, inside, isQuote, chars, complete, text⟩
    have lexes := lexes_of_inside isQuote complete
    rwa [← chars, text, String.ofList_toList, String.ofList_toList] at lexes

/-- An image between equal quotes, of which one closes it early or the last is hidden. -/
structure IsLoose (image : String) (quote : Char) (inside : List Char) : Prop where
  isQuote : Text.isQuote quote = true
  between : image.toList = quote :: (inside ++ [quote])
  broken : Text.Broken quote inside

/-- No loose image is a string literal for the lexer. -/
theorem IsLoose.not_lexes {image s : String} {quote : Char} {inside : List Char}
    (loose : IsLoose image quote inside) : ¬ Lexes image (.str s) := by
  intro lexes
  obtain ⟨quote', inside', _, between', complete, _⟩ := lexes_str_iff.mp lexes
  obtain ⟨rfl, same⟩ := List.cons.inj (loose.between.symm.trans between')
  rw [List.append_left_inj] at same
  subst same
  exact stringRun?_ne_of_broken loose.isQuote loose.broken
    ((stringRun?_eq_length_iff loose.isQuote).mpr complete)

/-- Decoding an image gives what its only token says if this token is a string literal of the whole
image. Beyond these it decodes the loose images, and no others. -/
theorem unquote?_eq_some_iff_tokenize (image s : String) :
    (Text.unquote? image.toList = some s.toList ↔
      tokenize image = .ok [⟨.str s, ⟨0, Text.byteLength image.toList⟩, image⟩] ∨
        ∃ quote inside, IsLoose image quote inside ∧ Text.unescape inside = s.toList) ∧
      ∀ quote inside, IsLoose image quote inside →
        tokenize image ≠ .ok [⟨.str s, ⟨0, Text.byteLength image.toList⟩, image⟩] := by
  rw [tokenize_eq]
  constructor
  · constructor
    · intro decoded
      obtain ⟨quote, inside, isQuote, between, text⟩ := Text.unquote?_eq_some_iff.mp decoded
      rcases Text.inside_or_broken quote inside with complete | broken
      · exact .inl (lexes_str_iff.mpr ⟨quote, inside, isQuote, between, complete, text⟩)
      · exact .inr ⟨quote, inside, ⟨isQuote, between, broken⟩, text⟩
    · rintro (lexes | ⟨quote, inside, loose, text⟩)
      · obtain ⟨quote, inside, isQuote, between, _, text⟩ := lexes_str_iff.mp lexes
        exact Text.unquote?_eq_some_iff.mpr ⟨quote, inside, isQuote, between, text⟩
      · exact Text.unquote?_eq_some_iff.mpr ⟨quote, inside, loose.isQuote, loose.between, text⟩
  · intro quote inside loose
    exact loose.not_lexes

/-- A hidden quote inside a literal, and a bare one inside an image that is no literal. -/
theorem unquote?_quoteInside :
    tokenize "'it\\'s'" = .ok [⟨.str "it's", ⟨0, 7⟩, "'it\\'s'"⟩] ∧
      Text.unquote? "'it\\'s'".toList = some "it's".toList ∧
      IsLoose "'a'b'" '\x27' ['a', '\x27', 'b'] ∧
      tokenize "'a'b'" ≠ .ok [⟨.str "a'b", ⟨0, 5⟩, "'a'b'"⟩] := by
  have literal : tokenize "'it\\'s'" = .ok [⟨.str "it's", ⟨0, 7⟩, "'it\\'s'"⟩] := by
    have split : split? 1 0 "'it\\'s'".toList = some [⟨.str "it's", ⟨0, 7⟩, "'it\\'s'"⟩] := by
      decide +kernel
    rw [tokenize_eq]
    exact tokens_of_split? split
  have inside : Text.Inside '\x27' ['a'] := .plain (by decide) (by decide) .nil
  have loose : IsLoose "'a'b'" '\x27' ['a', '\x27', 'b'] := ⟨rfl, rfl, .early inside⟩
  exact ⟨literal, (unquote?_eq_some_iff_tokenize _ _).1.mpr (.inl literal), loose,
    (unquote?_eq_some_iff_tokenize _ _).2 _ _ loose⟩

/-- A bare quote in the middle and a hidden quote at the end: decoding accepts both, and the lexer reads
neither. -/
theorem unquote?_loose :
    Text.unquote? "'a'b'".toList = some "a'b".toList ∧
      tokenize "'a'b'" = .error (.unterminatedString 4) ∧
      Text.unquote? "'\\'".toList = some "\\".toList ∧
      tokenize "'\\'" = .error (.unterminatedString 0) := by
  refine ⟨by decide +kernel, ?_, by decide +kernel, ?_⟩
  · have chars : "'a'b'".toList = ['\x27', 'a', '\x27', 'b', '\x27'] := rfl
    have literal : lexeme 0 '\x27' ['a', '\x27', 'b', '\x27'] = .ok (.str "a", 2) := by
      decide +kernel
    have name : lexeme 3 'b' ['\x27'] = .ok (.ident "b", 0) := by decide +kernel
    have unclosed : tokens 4 ['\x27'] = .error (.unterminatedString 4) :=
      tokens_of_error (by decide) (by decide +kernel)
    have rest : tokens 3 ['b', '\x27'] = .error (.unterminatedString 4) := by
      rw [tokens_of_lexeme (by decide) name]
      exact congrArg (Except.map _) unclosed
    rw [tokenize_eq, chars, tokens_of_lexeme (by decide) literal]
    exact congrArg (Except.map _) rest
  · have chars : "'\\'".toList = ['\x27', '\\', '\x27'] := rfl
    rw [tokenize_eq, chars]
    exact tokens_of_error (by decide) (by decide +kernel)

end Lexer

end TargetingRules
