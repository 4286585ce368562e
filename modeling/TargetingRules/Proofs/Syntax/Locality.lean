import TargetingRules.Proofs.Syntax.Scanning
import TargetingRules.Proofs.Syntax.Spelling

/-!
# Tokens and the text around them

Nothing that the lexer does reaches over a blank or past the end of its range: no token, no look at the
characters ahead, and no error. A text with blanks after it has its own tokens whatever comes after the
blanks, and what comes after them is read as if nothing came before, only further on.
-/

namespace TargetingRules

/-- The span so many bytes further on. -/
def Span.shift (k : Nat) (span : Span) : Span :=
  ⟨span.start + k, span.stop + k⟩

/-- The token so many bytes further on. -/
def Token.shift (k : Nat) (token : Token) : Token :=
  { token with span := token.span.shift k }

/-- The error so many bytes further on. -/
def ParseError.shift (k : Nat) : ParseError → ParseError
  | .unexpectedChar c pos => .unexpectedChar c (pos + k)
  | .unterminatedString pos => .unterminatedString (pos + k)
  | .invalidNumber text pos => .invalidNumber text (pos + k)
  | .unexpectedToken found expected pos => .unexpectedToken found expected (pos + k)
  | .trailingInput found pos => .trailingInput found (pos + k)
  | .tooDeep pos => .tooDeep (pos + k)
  | .empty => .empty
  | .unexpectedEnd expected => .unexpectedEnd expected
  | .tree fault => .tree fault

namespace Lexer

/-- What a text is read as so many bytes further on. -/
def shifted (k : Nat) : Except ParseError (List Token) → Except ParseError (List Token)
  | .ok ts => .ok (ts.map (Token.shift k))
  | .error e => .error (e.shift k)

/-- The tokens of a whole text. -/
def tokenize (text : String) : Except ParseError (List Token) :=
  tokensBetween text 0 (Text.byteLength text.toList)

/-! ## Places -/

theorem lexeme_shift (pos k : Nat) (c : Char) (cs : List Char) :
    lexeme (pos + k) c cs = (lexeme pos c cs).mapError (ParseError.shift k) := by
  simp only [lexeme]
  split
  next => cases Number.read? (c :: cs.take (numberRun cs)) <;> rfl
  next =>
    split
    next => cases stringRun? c cs <;> rfl
    next =>
      split
      next => rfl
      next => cases symbol? (c :: cs) <;> rfl

theorem shifted_map_cons (k : Nat) (token : Token) (result : Except ParseError (List Token)) :
    shifted k (result.map (token :: ·)) = (shifted k result).map (token.shift k :: ·) := by
  cases result <;> rfl

/-- Characters further on in a text have the same tokens there, or the same error. -/
theorem tokens_shift (pos k : Nat) (cs : List Char) :
    tokens (pos + k) cs = shifted k (tokens pos cs) := by
  induction size : cs.length using Nat.strongRecOn generalizing pos cs with
  | ind size ih =>
    subst size
    cases cs with
    | nil => rw [tokens.eq_def, tokens.eq_def]; rfl
    | cons c cs =>
      have rest (stop length : Nat) := ih (cs.drop length).length
        (by simp only [List.length_drop, List.length_cons]; omega) stop _ rfl
      cases blank : Text.isBlank c with
      | true =>
        rw [tokens_of_blank blank, tokens_of_blank blank, Nat.add_right_comm]
        exact rest (pos + c.utf8Size) 0
      | false =>
        have moved := lexeme_shift pos k c cs
        cases read : lexeme pos c cs with
        | error e =>
          rw [read] at moved
          rw [tokens_of_error blank read, tokens_of_error blank moved]
          rfl
        | ok answer =>
          obtain ⟨kind, length⟩ := answer
          rw [read] at moved
          rw [tokens_of_lexeme blank read, tokens_of_lexeme blank moved, Nat.add_right_comm, rest,
            shifted_map_cons]
          rfl

/-! ## Blanks -/

/-- A text whose tokens are known is read first if a blank follows it, and then what follows. -/
theorem Splits.tokens_append {pos : Nat} {cs ds : List Char} {ts : List Token}
    (splits : Splits pos cs ts) (blank : ∀ d ∈ ds.head?, Text.isBlank d = true) :
    tokens pos (cs ++ ds) = (tokens (pos + Text.byteLength cs) ds).map (ts ++ ·) := by
  induction splits with
  | nil =>
    rw [List.nil_append, Text.byteLength_nil, Nat.add_zero]
    cases tokens _ ds <;> rfl
  | @blank pos c cs ts isBlank _ ih =>
    rw [List.cons_append, tokens_of_blank isBlank, ih, Text.byteLength_cons, Nat.add_assoc]
  | @lexeme pos c cs kind length stop ts visible isLexeme isStop _ ih =>
    have front : (cs ++ ds).take length = cs.take length :=
      List.take_append_of_le_length isLexeme.length_le
    have back : (cs ++ ds).drop length = cs.drop length ++ ds :=
      List.drop_append_of_le_length isLexeme.length_le
    have whole := isLexeme.append (Piece.parts_of_isBlank blank) fun _ => blank
    have parts := congrArg Text.byteLength (List.take_append_drop length cs)
    rw [Text.byteLength_append] at parts
    have stops : stop + Text.byteLength (cs.drop length) = pos + Text.byteLength (c :: cs) := by
      simp only [isStop, Text.byteLength_cons]
      omega
    rw [List.cons_append, tokens_of_lexeme visible (lexeme_eq_ok_iff.mpr whole), front, back, ← isStop,
      ih, stops]
    cases tokens _ ds <;> rfl

theorem stringRun?_of_noQuote {quote : Char} {cs : List Char} (noQuote : ∀ c ∈ cs, c ≠ quote) :
    stringRun? quote cs = none := by
  induction cs using stringRun?.induct quote with
  | case1 c cs ih =>
    simp only [List.forall_mem_cons] at noQuote
    rw [stringRun?, ih noQuote.2.2]
    rfl
  | case2 cs noEscape => exact absurd rfl (noQuote _ List.mem_cons_self)
  | case3 c cs noEscape differs ih =>
    simp only [List.forall_mem_cons] at noQuote
    rw [stringRun?.eq_2 _ _ _ noEscape, if_neg differs, ih noQuote.2]
    rfl
  | case4 => rfl

/-- A literal without its closing quote does not get one from characters that are no quotes. -/
theorem stringRun?_append_none {quote : Char} {cs tail : List Char}
    (run : stringRun? quote cs = none) (noQuote : ∀ c ∈ tail, c ≠ quote) :
    stringRun? quote (cs ++ tail) = none := by
  induction cs using stringRun?.induct quote with
  | case1 c cs ih =>
    rw [stringRun?, Option.map_eq_none_iff] at run
    rw [List.cons_append, List.cons_append, stringRun?, ih run]
    rfl
  | case2 cs noEscape =>
    rw [stringRun?.eq_2 _ _ _ noEscape, if_pos rfl] at run
    cases run
  | case3 c cs noEscape differs ih =>
    rw [stringRun?.eq_2 _ _ _ noEscape, if_neg differs, Option.map_eq_none_iff] at run
    by_cases escapes : c = '\\' ∧ cs = []
    · -- the backslash at the end now hides the first of the other characters
      obtain ⟨rfl, rfl⟩ := escapes
      cases tail with
      | nil => exact stringRun?_of_noQuote (by simpa using differs)
      | cons d tail =>
        simp only [List.forall_mem_cons] at noQuote
        rw [List.singleton_append, stringRun?, stringRun?_of_noQuote noQuote.2]
        rfl
    · have noEscape' : ∀ head more, c = '\\' → cs ++ tail = head :: more → False := by
        intro head more backslash split
        cases cs with
        | nil => exact escapes ⟨backslash, rfl⟩
        | cons head' more' => exact noEscape head' more' backslash rfl
      rw [List.cons_append, stringRun?.eq_2 _ _ _ noEscape', if_neg differs, ih run]
      rfl
  | case4 => exact stringRun?_of_noQuote noQuote

theorem lexeme_append_blanks {gap : List Char} (blank : ∀ c ∈ gap, Text.isBlank c = true)
    (pos : Nat) (c : Char) (cs : List Char) : lexeme pos c (cs ++ gap) = lexeme pos c cs := by
  have startsBlank : ∀ d ∈ gap.head?, Text.isBlank d = true :=
    fun d member => blank d (List.mem_of_head? member)
  have parts : Parts gap := Piece.parts_of_isBlank startsBlank
  have number : (cs ++ gap).take (numberRun cs) = cs.take (numberRun cs) :=
    List.take_append_of_le_length (numberRun_le cs)
  have word : (cs ++ gap).take (wordRun cs) = cs.take (wordRun cs) :=
    List.take_append_of_le_length (wordRun_le cs)
  unfold lexeme
  simp only [numberRun_append parts, number, startsName_append parts, wordRun_append parts, word]
  rw [← List.cons_append, symbol?_append startsBlank]
  refine ite_congr rfl (fun _ => rfl) fun _ => ite_congr rfl (fun isQuote => ?_) fun _ => rfl
  cases run : stringRun? c cs with
  | some length =>
    obtain ⟨same, bound, _⟩ := stringRun?_append (ne_backslash_of_isQuote isQuote) run gap
    simp only [same, List.take_append_of_le_length bound]
  | none =>
    have noQuote : ∀ d ∈ gap, d ≠ c := by
      rintro d member rfl
      exact absurd (blank d member) (by simp [isBlank_of_isQuote isQuote])
    rw [stringRun?_append_none run noQuote]

/-- Blanks at the end have no tokens, and change no error. -/
theorem tokens_append_blanks {gap : List Char} (blank : ∀ c ∈ gap, Text.isBlank c = true)
    (pos : Nat) (cs : List Char) : tokens pos (cs ++ gap) = tokens pos cs := by
  fun_induction tokens pos cs with
  | case1 pos => exact tokens_eq_nil_iff.mpr blank
  | case2 pos c cs isBlank ih => rw [List.cons_append, tokens_of_blank isBlank, ih]
  | case3 pos c cs visible e failed =>
    rw [← lexeme_append_blanks blank] at failed
    rw [List.cons_append, tokens_of_error (Bool.eq_false_iff.mpr visible) failed]
  | case4 pos c cs visible kind length read text stop e failed =>
    rename_i ih
    have bound := (lexeme_eq_ok_iff.mp read).length_le
    rw [← lexeme_append_blanks blank] at read
    rw [List.cons_append, tokens_of_lexeme (Bool.eq_false_iff.mpr visible) read,
      List.take_append_of_le_length bound, List.drop_append_of_le_length bound, ih, failed]
    rfl
  | case5 pos c cs visible kind length read text stop rest others =>
    rename_i ih
    have bound := (lexeme_eq_ok_iff.mp read).length_le
    rw [← lexeme_append_blanks blank] at read
    rw [List.cons_append, tokens_of_lexeme (Bool.eq_false_iff.mpr visible) read,
      List.take_append_of_le_length bound, List.drop_append_of_le_length bound, ih, others]
    rfl

/-! ## Texts -/

theorem tokenize_eq (text : String) : tokenize text = tokens 0 text.toList :=
  tokensBetween_eq (Text.slice?_whole _)

/-- A result goes on from some tokens with another result, so many bytes further on. -/
structure GoesOn (ts : List Token) (k : Nat) (second joined : Except ParseError (List Token)) : Prop where
  /-- Both succeed or neither does. -/
  succeeds : (∃ vs, joined = .ok vs) ↔ ∃ us, second = .ok us
  /-- The tokens of the second come after those that are there. -/
  tokens : ∀ us, second = .ok us → joined = .ok (ts ++ us.map (Token.shift k))
  /-- The error of the second is the error. -/
  error : ∀ e, second = .error e → joined = .error (e.shift k)

theorem goesOn_map (ts : List Token) (k : Nat) (second : Except ParseError (List Token)) :
    GoesOn ts k second ((shifted k second).map (ts ++ ·)) := by
  cases second with
  | error e =>
    constructor
    case succeeds =>
      constructor
      · rintro ⟨vs, success⟩
        cases success
      · rintro ⟨us, success⟩
        cases success
    case tokens =>
      intro us success
      cases success
    case error =>
      intro e' failed
      cases failed
      rfl
  | ok us =>
    constructor
    case succeeds => exact ⟨fun _ => ⟨us, rfl⟩, fun _ => ⟨_, rfl⟩⟩
    case tokens =>
      intro us' success
      cases success
      rfl
    case error =>
      intro e failed
      cases failed

theorem tokenize_append {first gap : String} {ts : List Token}
    (blank : ∀ c ∈ gap.toList, Text.isBlank c = true) (nonempty : gap ≠ "")
    (read : tokenize first = .ok ts) (second : String) :
    tokenize (first ++ gap ++ second) =
      (shifted (Text.byteLength (first ++ gap).toList) (tokenize second)).map (ts ++ ·) := by
  have startsBlank : ∀ d ∈ (gap.toList ++ second.toList).head?, Text.isBlank d = true := by
    obtain ⟨c, rest, split⟩ := List.exists_cons_of_ne_nil (mt String.toList_eq_nil_iff.mp nonempty)
    rw [split] at blank ⊢
    intro d member
    cases member
    exact blank c List.mem_cons_self
  rw [tokenize_eq] at read
  rw [tokenize_eq, tokenize_eq, String.toList_append, String.toList_append, List.append_assoc,
    (splits_of_tokens read).tokens_append startsBlank, tokens_skip blank, Nat.add_assoc, tokens_shift,
    Text.byteLength_append]

/-- Two texts with blanks between them are read one after the other, and a part of a text is read as it
is on its own; the places are further on by what comes before. -/
theorem tokenize_apart :
    (∀ (first gap second : String) (ts : List Token), (∀ c ∈ gap.toList, Text.isBlank c = true) →
      gap ≠ "" → tokenize first = .ok ts →
        GoesOn ts (Text.byteLength (first ++ gap).toList) (tokenize second)
          (tokenize (first ++ gap ++ second))) ∧
      ∀ (text : String) (start stop : Nat) (inside : List Char),
        Text.slice? start stop text.toList = some inside →
          tokensBetween text start stop = shifted start (tokenize (String.ofList inside)) ∧
            Scanner.scan text.toList start stop =
              settled ((tokensBetween text start stop).map (List.map Token.bare)) := by
  constructor
  · intro first gap second ts blank nonempty read
    rw [tokenize_append blank nonempty read]
    exact goesOn_map ts _ _
  · intro text start stop inside range
    rw [tokensBetween_eq range]
    refine ⟨?_, Scanner.scan_eq range⟩
    rw [tokenize_eq, String.toList_ofList, ← tokens_shift, Nat.zero_add]

/-- A name before a no-break space, which has two bytes, and before the text of a literal or of a literal
without its closing quote; and a name between parentheses. -/
theorem tokenize_apart_noBreakSpace :
    tokenize "é" = .ok [⟨.ident "é", ⟨0, 2⟩, "é"⟩] ∧
      tokenize ("é" ++ "\u00a0" ++ "'x'") =
        .ok [⟨.ident "é", ⟨0, 2⟩, "é"⟩, ⟨.str "x", ⟨4, 7⟩, "'x'"⟩] ∧
      tokenize ("é" ++ "\u00a0" ++ "'x") = .error (.unterminatedString 4) ∧
      Text.slice? 1 3 "(é)".toList = some "é".toList ∧
      tokensBetween "(é)" 1 3 = .ok [⟨.ident "é", ⟨1, 3⟩, "é"⟩] := by
  have name : tokenize "é" = .ok [⟨.ident "é", ⟨0, 2⟩, "é"⟩] := by
    have split : split? 1 0 "é".toList = some [⟨.ident "é", ⟨0, 2⟩, "é"⟩] := by decide +kernel
    rw [tokenize_eq]
    exact tokens_of_split? split
  have literal : tokenize "'x'" = .ok [⟨.str "x", ⟨0, 3⟩, "'x'"⟩] := by
    have split : split? 1 0 "'x'".toList = some [⟨.str "x", ⟨0, 3⟩, "'x'"⟩] := by decide +kernel
    rw [tokenize_eq]
    exact tokens_of_split? split
  have unclosed : tokenize "'x" = .error (.unterminatedString 0) := by
    have chars : "'x".toList = ['\x27', 'x'] := rfl
    rw [tokenize_eq, chars]
    exact tokens_of_error (by decide) (by decide +kernel)
  have range : Text.slice? 1 3 "(é)".toList = some "é".toList := by decide +kernel
  have blank : ∀ c ∈ "\u00a0".toList, Text.isBlank c = true := by
    have chars : "\u00a0".toList = ['\u00a0'] := rfl
    rw [chars, List.forall_mem_singleton]
    decide
  have closed := tokenize_apart.1 "é" "\u00a0" "'x'" _ blank (by decide) name
  have unfinished := tokenize_apart.1 "é" "\u00a0" "'x" _ blank (by decide) name
  have inner := (tokenize_apart.2 "(é)" 1 3 _ range).1
  rw [String.ofList_toList, name] at inner
  exact ⟨name, closed.tokens _ literal, unfinished.error _ unclosed, range, inner⟩

end Lexer

end TargetingRules
