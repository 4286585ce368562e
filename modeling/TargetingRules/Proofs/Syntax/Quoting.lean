import TargetingRules.Proofs.Syntax.Partition

/-!
# Writing string literals

Every text has a literal: it stands between two quotes of one kind, with a backslash before each of these
quotes and each backslash inside. The lexer, which looks for the closing quote, and the decoder, which
drops the backslashes, see the same pairs of a backslash and the character it hides, so that the closing
quote is found and the text comes back, however many backslashes it has in a row or at its end.
-/

namespace TargetingRules

namespace Text

/-- The inside of a literal between the given quotes that stands for a text. -/
def escape (quote : Char) : List Char → List Char
  | [] => []
  | c :: cs => if c = quote ∨ c = '\\' then '\\' :: c :: escape quote cs else c :: escape quote cs

/-- The literal between the given quotes that stands for a text. -/
def quoted (quote : Char) (s : String) : String :=
  String.ofList (quote :: (escape quote s.toList ++ [quote]))

theorem toList_quoted (quote : Char) (s : String) :
    (quoted quote s).toList = quote :: (escape quote s.toList ++ [quote]) :=
  String.toList_ofList

/-- The inside of a complete literal: each of the given quotes is hidden by a backslash before it, and
no backslash at the end would hide the closing quote. -/
inductive Inside (quote : Char) : List Char → Prop where
  | nil : Inside quote []
  | plain {c cs} (noQuote : c ≠ quote) (noBackslash : c ≠ '\\') (rest : Inside quote cs) :
      Inside quote (c :: cs)
  | escaped {c cs} (rest : Inside quote cs) : Inside quote ('\\' :: c :: cs)

/-- What is written for a text is the inside of a literal. -/
theorem inside_escape (quote : Char) (cs : List Char) : Inside quote (escape quote cs) := by
  induction cs with
  | nil => exact .nil
  | cons c cs ih =>
    rw [escape]
    split
    next special => exact .escaped ih
    next plain =>
      rw [not_or] at plain
      exact .plain plain.1 plain.2 ih

theorem unescape_cons {c : Char} (plain : c ≠ '\\') (cs : List Char) :
    unescape (c :: cs) = c :: unescape cs :=
  unescape.eq_2 _ _ fun _ _ backslash _ => plain backslash

/-- What is written inside a literal is read again. -/
theorem unescape_escape {quote : Char} (isQuote : isQuote quote = true) (cs : List Char) :
    unescape (escape quote cs) = cs := by
  induction cs with
  | nil => rfl
  | cons c cs ih =>
    rw [escape]
    split
    next special =>
      have hidden : (Text.isQuote c || c == '\\') = true := by
        rcases special with rfl | rfl
        · rw [isQuote, Bool.true_or]
        · rfl
      rw [unescape, if_pos hidden, ih]
    next plain =>
      rw [not_or] at plain
      rw [unescape_cons plain.2, ih]

/-- A literal is decoded to the text that it was written for. -/
theorem unquote?_quoted {quote : Char} (isQuote : isQuote quote = true) (s : String) :
    unquote? (quoted quote s).toList = some s.toList := by
  rw [toList_quoted, unquote?, isQuote, List.getLast?_concat, List.dropLast_concat,
    unescape_escape isQuote]
  simp only [BEq.rfl, Bool.and_self, ↓reduceIte]

end Text

namespace Lexer

theorem stringRun?_cons {quote c : Char} (plain : c ≠ '\\') (cs : List Char) :
    stringRun? quote (c :: cs) = if c = quote then some 1 else (stringRun? quote cs).map (· + 1) :=
  stringRun?.eq_2 _ _ _ fun _ _ backslash _ => plain backslash

/-- The closing quote is looked for after the inside of a literal. -/
theorem stringRun?_append_of_inside {quote : Char} {cs : List Char} (inside : Text.Inside quote cs)
    (rest : List Char) :
    stringRun? quote (cs ++ rest) = (stringRun? quote rest).map (· + cs.length) := by
  induction inside with
  | nil => cases run : stringRun? quote rest <;> simp [run]
  | @plain c cs noQuote noBackslash _ ih =>
    rw [List.cons_append, stringRun?_cons noBackslash, if_neg noQuote, ih, Option.map_map]
    rfl
  | @escaped c cs _ ih =>
    rw [List.cons_append, List.cons_append, stringRun?, ih, Option.map_map]
    rfl

/-- The closing quote of a literal is found right after its inside. -/
theorem stringRun?_of_inside {quote : Char} (isQuote : Text.isQuote quote = true) {cs : List Char}
    (inside : Text.Inside quote cs) (rest : List Char) :
    stringRun? quote (cs ++ quote :: rest) = some (cs.length + 1) := by
  rw [stringRun?_append_of_inside inside, stringRun?_cons (ne_backslash_of_isQuote isQuote),
    if_pos rfl, Option.map_some, Nat.add_comm]

theorem isDigit_of_isQuote {c : Char} (quote : Text.isQuote c = true) : c.isDigit = false := by
  simp only [Text.isQuote, Bool.or_eq_true, beq_iff_eq] at quote
  rcases quote with rfl | rfl <;> rfl

/-- A complete literal is one token, which says what its inside stands for. -/
theorem lexes_of_inside {quote : Char} (isQuote : Text.isQuote quote = true) {cs : List Char}
    (inside : Text.Inside quote cs) :
    Lexes (String.ofList (quote :: (cs ++ [quote]))) (.str (String.ofList (Text.unescape cs))) := by
  have lexeme := IsLexeme.string (isDigit_of_isQuote isQuote) isQuote
    (stringRun?_of_inside isQuote inside [])
  have all : (cs ++ [quote]).take (cs.length + 1) = cs ++ [quote] :=
    List.take_of_length_le (by rw [List.length_append, List.length_singleton])
  have lexes := lexeme.lexes (isBlank_of_isQuote isQuote)
  rwa [all, List.dropLast_concat] at lexes

/-- A literal is one token, which says what the literal was written for. -/
theorem lexes_quoted {quote : Char} (isQuote : Text.isQuote quote = true) (s : String) :
    Lexes (Text.quoted quote s) (.str s) := by
  have lexes := lexes_of_inside isQuote (Text.inside_escape quote s.toList)
  rwa [Text.unescape_escape isQuote, String.ofList_toList] at lexes

end Lexer

end TargetingRules
