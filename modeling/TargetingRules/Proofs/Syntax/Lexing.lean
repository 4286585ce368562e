import Mathlib.Data.List.Find
import TargetingRules.Syntax.Lexer

/-!
# What the lexer reads

A lexeme by its class, apart from where it stands; a lexeme is no other when more characters follow,
unless these could belong to it. Tokens stand in the order of the text and do not overlap.
-/

namespace TargetingRules.Lexer

/-! ## Characters -/

/-- The ranges of the blanks. -/
def blanks : List (Nat × Nat) :=
  [(9, 13), (0x20, 0x20), (0x85, 0x85), (0xA0, 0xA0), (0x1680, 0x1680), (0x2000, 0x200A),
    (0x2028, 0x2029), (0x202F, 0x202F), (0x205F, 0x205F), (0x3000, 0x3000)]

theorem inRanges_blanks {c : Char} (blank : Text.isBlank c = true) :
    Text.inRanges blanks c = true := by
  simp only [Text.isBlank, Bool.or_eq_true, Bool.and_eq_true, decide_eq_true_eq, beq_iff_eq] at blank
  simp only [Text.inRanges, blanks, List.any_cons, List.any_nil, Bool.or_eq_true, Bool.and_eq_true,
    decide_eq_true_eq]
  omega

/-- No range of one list meets a range of the other. -/
def areApart (ranges ranges' : List (Nat × Nat)) : Bool :=
  ranges.all fun range => ranges'.all fun range' =>
    Nat.blt range.2 range'.1 || Nat.blt range'.2 range.1

theorem not_inRanges_of_areApart {ranges ranges' : List (Nat × Nat)}
    (apart : areApart ranges ranges' = true) {c : Char} (inside : Text.inRanges ranges c = true) :
    Text.inRanges ranges' c = false := by
  obtain ⟨range, listed, within⟩ := List.any_eq_true.mp inside
  apply List.any_eq_false.mpr
  intro range' listed'
  have separate := List.all_eq_true.mp (List.all_eq_true.mp apart range listed) range' listed'
  simp only [Bool.or_eq_true, Bool.and_eq_true, decide_eq_true_eq, Nat.blt_eq] at within separate ⊢
  omega

theorem isAlphanumeric_of_isBlank {c : Char} (blank : Text.isBlank c = true) :
    Text.isAlphanumeric c = false := by
  have inside := inRanges_blanks blank
  have letters : areApart blanks ((65, 90) :: (97, 122) :: Text.Table.alphabetic) = true := by
    decide +kernel
  have numerals : areApart blanks ((48, 57) :: Text.Table.numeric) = true := by decide +kernel
  have noLetter := not_inRanges_of_areApart letters inside
  have noNumeral := not_inRanges_of_areApart numerals inside
  simp only [Text.inRanges, List.any_cons, Bool.or_eq_false_iff, Bool.and_eq_false_iff,
    decide_eq_false_iff_not] at noLetter noNumeral
  obtain ⟨noUpper, noLower, noOther⟩ := noLetter
  obtain ⟨noDigit, noNumber⟩ := noNumeral
  have alphabetic : Text.isAlphabetic c = false := by
    unfold Text.isAlphabetic
    split
    next =>
      unfold Char.isAlpha Char.isUpper Char.isLower
      simp only [Char.reduceVal, ge_iff_le, UInt32.le_iff_toNat_le, UInt32.reduceToNat,
        Char.toNat_val, Bool.or_eq_false_iff, Bool.decide_and, Bool.and_eq_false_iff,
        decide_eq_false_iff_not]
      omega
    next => exact noOther
  have numeric : Text.isNumeric c = false := by
    unfold Text.isNumeric
    split
    next =>
      simp only [Char.isDigit, Char.reduceVal, ge_iff_le, UInt32.le_iff_toNat_le,
        UInt32.reduceToNat, Char.toNat_val, Bool.and_eq_false_iff, decide_eq_false_iff_not]
      omega
    next => exact noNumber
  simp only [Text.isAlphanumeric, alphabetic, numeric, Bool.or_self]

/-- A character that can stand in a number. -/
def isNumberPart (c : Char) : Bool :=
  isNamePart c || c == '.' || c == '+' || c == '-'

theorem isNumberPart_of_isNamePart {c : Char} (namePart : isNamePart c = true) :
    isNumberPart c = true := by
  simp only [isNumberPart, namePart, Bool.true_or]

theorem isNamePart_of_isDigit {c : Char} (digit : c.isDigit = true) : isNamePart c = true := by
  have small : c.toNat < 0x80 := by
    simp only [Char.isDigit, Bool.and_eq_true, decide_eq_true_eq] at digit
    exact Nat.lt_of_le_of_lt (UInt32.le_iff_toNat_le.mp digit.2) (by decide)
  simp only [isNamePart, Text.isAlphanumeric, Text.isNumeric, small, ↓reduceIte, digit,
    Bool.or_true, Bool.true_or]

/-- Blanks stand in no token but a string literal. -/
theorem isNumberPart_of_isBlank {c : Char} (blank : Text.isBlank c = true) :
    isNumberPart c = false := by
  have others : ∀ d, Text.isBlank d = false → (c == d) = false := by
    intro d visible
    rw [beq_eq_false_iff_ne]
    rintro rfl
    rw [blank] at visible
    cases visible
  simp only [isNumberPart, isNamePart, isAlphanumeric_of_isBlank blank, others '_' rfl,
    others '$' rfl, others '.' rfl, others '+' rfl, others '-' rfl, Bool.or_self]

theorem not_mem_symbols_of_isBlank {c : Char} (blank : Text.isBlank c = true) :
    ∀ entry ∈ symbols, c ∉ entry.1 := by
  intro entry member inside
  have all : (symbols.all fun entry => entry.1.all fun c => !Text.isBlank c) = true := by
    decide +kernel
  have visible := List.all_eq_true.mp (List.all_eq_true.mp all entry member) c inside
  exact absurd blank (by simpa using visible)

theorem isBlank_of_isQuote {c : Char} (quote : Text.isQuote c = true) : Text.isBlank c = false := by
  simp only [Text.isQuote, Bool.or_eq_true, beq_iff_eq] at quote
  rcases quote with rfl | rfl <;> decide

/-! ## Lexemes by class -/

/-- A character and the ones after it start with a lexeme of so many more characters. -/
inductive IsLexeme (c : Char) (cs : List Char) : TokenKind → Nat → Prop where
  | number {x} (digit : c.isDigit = true)
      (read : Number.read? (c :: cs.take (numberRun cs)) = some x) :
      IsLexeme c cs (.number x) (numberRun cs)
  | string {length} (noDigit : c.isDigit = false) (quote : Text.isQuote c = true)
      (run : stringRun? c cs = some length) :
      IsLexeme c cs (.str (String.ofList (Text.unescape (cs.take length).dropLast))) length
  | word (noDigit : c.isDigit = false) (noQuote : Text.isQuote c = false)
      (starts : startsName c cs = true) :
      IsLexeme c cs (wordKind (String.ofList (c :: cs.take (wordRun cs)))) (wordRun cs)
  | symbol {mark length} (noDigit : c.isDigit = false) (noQuote : Text.isQuote c = false)
      (noWord : startsName c cs = false) (found : symbol? (c :: cs) = some (mark, length)) :
      IsLexeme c cs (.mark mark) (length - 1)

theorem lexeme_eq_ok_iff {pos : Nat} {c : Char} {cs : List Char} {kind : TokenKind} {length : Nat} :
    lexeme pos c cs = .ok (kind, length) ↔ IsLexeme c cs kind length := by
  constructor
  · intro success
    simp only [lexeme] at success
    split at success
    next digit =>
      split at success
      next x read => cases success; exact .number digit read
      next => cases success
    next noDigit =>
      rw [Bool.not_eq_true] at noDigit
      split at success
      next quote =>
        split at success
        next run => cases success; exact .string noDigit quote run
        next => cases success
      next noQuote =>
        rw [Bool.not_eq_true] at noQuote
        split at success
        next starts => cases success; exact .word noDigit noQuote starts
        next noWord =>
          rw [Bool.not_eq_true] at noWord
          split at success
          next found => cases success; exact .symbol noDigit noQuote noWord found
          next => cases success
  · intro isLexeme
    cases isLexeme with
    | number digit read => simp only [lexeme, digit, ↓reduceIte, read]
    | string noDigit quote run =>
      simp only [lexeme, noDigit, quote, run, Bool.false_eq_true, ↓reduceIte]
    | word noDigit noQuote starts =>
      simp only [lexeme, noDigit, noQuote, starts, Bool.false_eq_true, ↓reduceIte]
    | symbol noDigit noQuote noWord found =>
      simp only [lexeme, noDigit, noQuote, noWord, found, Bool.false_eq_true, ↓reduceIte]

/-! ## Characters after a lexeme -/

/-- The first character, if there is one, can belong to no number or name before it. -/
def Parts (tail : List Char) : Prop :=
  ∀ d ∈ tail.head?, isNumberPart d = false

theorem takeWhile_append_of_head {p : Char → Bool} (cs : List Char) {tail : List Char}
    (stops : ∀ d ∈ tail.head?, p d = false) : (cs ++ tail).takeWhile p = cs.takeWhile p := by
  induction cs with
  | nil =>
    cases tail with
    | nil => rfl
    | cons d tail => simp only [List.nil_append, List.takeWhile_cons, stops d rfl,
        Bool.false_eq_true, ↓reduceIte, List.takeWhile_nil]
  | cons c cs ih => simp only [List.cons_append, List.takeWhile_cons, ih]

theorem fractionRun_eq_zero {c : Char} {cs : List Char} (noPoint : c ≠ '.') :
    fractionRun (c :: cs) = 0 := by
  unfold fractionRun
  split
  next same => exact absurd (List.cons.inj same).1 noPoint
  next => rfl

theorem digitRun_le (cs : List Char) : digitRun cs ≤ cs.length :=
  (List.takeWhile_prefix _).length_le

theorem wordRun_le (cs : List Char) : wordRun cs ≤ cs.length :=
  (List.takeWhile_prefix _).length_le

theorem fractionRun_le (cs : List Char) : fractionRun cs ≤ cs.length := by
  unfold fractionRun
  split
  next cs =>
    have := digitRun_le cs
    split <;> simp only [List.length_cons] <;> omega
  next => exact Nat.zero_le _

theorem signRun_le (cs : List Char) : signRun cs ≤ cs.length := by
  cases cs with
  | nil => exact Nat.le_refl _
  | cons c cs =>
    simp only [signRun, List.length_cons]
    split <;> omega

theorem exponentRun_le (cs : List Char) : exponentRun cs ≤ cs.length := by
  cases cs with
  | nil => exact Nat.le_refl _
  | cons c cs =>
    have sign := signRun_le cs
    have digits := digitRun_le (cs.drop (signRun cs))
    simp only [List.length_drop] at digits
    simp only [exponentRun, List.length_cons]
    split <;> omega

theorem numberRun_le (cs : List Char) : numberRun cs ≤ cs.length := by
  have whole := digitRun_le cs
  have fraction := fractionRun_le (cs.drop (digitRun cs))
  have exponent := exponentRun_le (cs.drop (digitRun cs + fractionRun (cs.drop (digitRun cs))))
  simp only [List.length_drop] at fraction exponent
  simp only [numberRun]
  omega

section Parts

variable {tail : List Char} (parts : Parts tail)
include parts

theorem Parts.notNamePart : ∀ d ∈ tail.head?, isNamePart d = false := by
  intro d member
  cases namePart : isNamePart d with
  | false => rfl
  | true => exact absurd (isNumberPart_of_isNamePart namePart) (by simp [parts d member])

theorem Parts.notDigit : ∀ d ∈ tail.head?, d.isDigit = false := by
  intro d member
  cases digit : d.isDigit with
  | false => rfl
  | true =>
    exact absurd (isNamePart_of_isDigit digit) (by simp [parts.notNamePart d member])

theorem Parts.head_ne {d : Char} (numberPart : isNumberPart d = true) :
    ∀ e ∈ tail.head?, e ≠ d := by
  rintro e member rfl
  exact absurd numberPart (by simp [parts e member])

theorem digitRun_append (cs : List Char) : digitRun (cs ++ tail) = digitRun cs := by
  rw [digitRun, digitRun, takeWhile_append_of_head cs parts.notDigit]

theorem wordRun_append (cs : List Char) : wordRun (cs ++ tail) = wordRun cs := by
  rw [wordRun, wordRun, takeWhile_append_of_head cs parts.notNamePart]

theorem fractionRun_append (cs : List Char) : fractionRun (cs ++ tail) = fractionRun cs := by
  cases cs with
  | nil =>
    cases tail with
    | nil => rfl
    | cons d tail => rw [List.nil_append, fractionRun_eq_zero (parts.head_ne (by decide) d rfl)]; rfl
  | cons c cs =>
    by_cases point : c = '.'
    · subst point
      simp only [List.cons_append, fractionRun, digitRun_append parts]
    · rw [List.cons_append, fractionRun_eq_zero point, fractionRun_eq_zero point]

theorem signRun_append (cs : List Char) : signRun (cs ++ tail) = signRun cs := by
  cases cs with
  | nil =>
    cases tail with
    | nil => rfl
    | cons d tail =>
      have noPlus := parts.head_ne (d := '+') (by decide) d rfl
      have noMinus := parts.head_ne (d := '-') (by decide) d rfl
      simp only [List.nil_append, signRun, noPlus, noMinus, or_self, ↓reduceIte]
  | cons c cs => rfl

theorem exponentRun_append (cs : List Char) : exponentRun (cs ++ tail) = exponentRun cs := by
  cases cs with
  | nil =>
    cases tail with
    | nil => rfl
    | cons d tail =>
      have noSmall := parts.head_ne (d := 'e') (by decide) d rfl
      have noCapital := parts.head_ne (d := 'E') (by decide) d rfl
      simp only [List.nil_append, exponentRun, noSmall, noCapital, or_self, false_and, ↓reduceIte]
  | cons c cs =>
    simp only [List.cons_append, exponentRun, signRun_append parts,
      List.drop_append_of_le_length (signRun_le cs), digitRun_append parts]

theorem numberRun_append (cs : List Char) : numberRun (cs ++ tail) = numberRun cs := by
  have whole := digitRun_le cs
  have fraction := fractionRun_le (cs.drop (digitRun cs))
  rw [List.length_drop] at fraction
  simp only [numberRun, digitRun_append parts, List.drop_append_of_le_length whole,
    fractionRun_append parts]
  rw [List.drop_append_of_le_length (by omega), exponentRun_append parts]

theorem startsName_append (c : Char) (cs : List Char) :
    startsName c (cs ++ tail) = startsName c cs := by
  cases cs with
  | nil =>
    cases tail with
    | nil => rfl
    | cons d tail =>
      have noPart := parts.notNamePart d rfl
      simp only [isNamePart, Bool.or_eq_false_iff] at noPart
      simp only [startsName, List.nil_append, List.head?_cons, Option.any_some, noPart,
        Bool.or_self, List.head?_nil, Option.any_none]
  | cons c cs => rfl

end Parts

theorem ne_backslash_of_isQuote {c : Char} (quote : Text.isQuote c = true) : c ≠ '\\' := by
  rintro rfl
  cases quote

/-- A string literal ends with its closing quote, whatever follows. -/
theorem stringRun?_append {quote : Char} (noEscape : quote ≠ '\\') {cs : List Char} {length : Nat}
    (run : stringRun? quote cs = some length) (tail : List Char) :
    stringRun? quote (cs ++ tail) = some length ∧ length ≤ cs.length ∧
      (cs.take length).getLast? = some quote := by
  induction cs using stringRun?.induct quote generalizing length with
  | case1 c cs ih =>
    simp only [stringRun?, Option.map_eq_some_iff] at run
    obtain ⟨shorter, run, rfl⟩ := run
    obtain ⟨same, bound, last⟩ := ih run
    refine ⟨by simp only [List.cons_append, stringRun?, same, Option.map_some], ?_, ?_⟩
    · simp only [List.length_cons]; omega
    · simp only [List.take_succ_cons, List.getLast?_cons, last, Option.getD_some]
  | case2 cs noBackslash =>
    rw [stringRun?.eq_2 _ _ _ noBackslash, if_pos rfl] at run
    cases run
    refine ⟨?_, by simp, by simp⟩
    rw [List.cons_append, stringRun?.eq_2 _ _ _ fun _ _ same _ => noEscape same, if_pos rfl]
  | case3 c cs noBackslash differs ih =>
    rw [stringRun?.eq_2 _ _ _ noBackslash, if_neg differs, Option.map_eq_some_iff] at run
    obtain ⟨shorter, run, rfl⟩ := run
    obtain ⟨same, bound, last⟩ := ih run
    have noBackslash' : ∀ head more, c = '\\' → cs ++ tail = head :: more → False := by
      intro head more backslash split
      cases cs with
      | nil => cases run
      | cons head' more' => exact noBackslash head' more' backslash rfl
    refine ⟨?_, ?_, ?_⟩
    · rw [List.cons_append, stringRun?.eq_2 _ _ _ noBackslash', if_neg differs, same,
        Option.map_some]
    · simp only [List.length_cons]; omega
    · simp only [List.take_succ_cons, List.getLast?_cons, last, Option.getD_some]
  | case4 => cases run

theorem isPrefixOf_append_cons {d : Char} (more : List Char) {symbol : List Char}
    (absent : d ∉ symbol) (cs : List Char) :
    symbol.isPrefixOf (cs ++ d :: more) = symbol.isPrefixOf cs := by
  induction symbol generalizing cs with
  | nil => simp
  | cons c symbol ih =>
    simp only [List.mem_cons, not_or] at absent
    cases cs with
    | nil =>
      have differs : (c == d) = false := by simpa using fun same => absent.1 (Eq.symm same)
      simp only [List.nil_append, List.isPrefixOf, differs, Bool.false_and]
    | cons e cs => simp only [List.cons_append, List.isPrefixOf, ih absent.2]

theorem symbol?_append {tail : List Char} (blank : ∀ d ∈ tail.head?, Text.isBlank d = true)
    (cs : List Char) : symbol? (cs ++ tail) = symbol? cs := by
  cases tail with
  | nil => rw [List.append_nil]
  | cons d more =>
    have absent := not_mem_symbols_of_isBlank (blank d rfl)
    rw [symbol?, symbol?]
    congr 1
    exact List.find?_congr fun entry member => isPrefixOf_append_cons more (absent entry member) cs

/-- The symbol of a mark is a prefix of the text. -/
theorem symbol?_eq_some {cs : List Char} {mark : Mark} {length : Nat}
    (found : symbol? cs = some (mark, length)) :
    ∃ symbol, (symbol, mark) ∈ symbols ∧ symbol <+: cs ∧ length = symbol.length := by
  simp only [symbol?, Option.map_eq_some_iff, Prod.mk.injEq] at found
  obtain ⟨⟨symbol, mark'⟩, found, rfl, rfl⟩ := found
  have front := List.find?_some found
  exact ⟨symbol, List.mem_of_find?_eq_some found, List.isPrefixOf_iff_prefix.mp front, rfl⟩

namespace IsLexeme

variable {c : Char} {cs : List Char} {kind : TokenKind} {length : Nat}

theorem length_le (isLexeme : IsLexeme c cs kind length) : length ≤ cs.length := by
  cases isLexeme with
  | number digit read => exact numberRun_le cs
  | string noDigit quote run => exact (stringRun?_append (ne_backslash_of_isQuote quote) run []).2.1
  | word noDigit noQuote starts => exact wordRun_le cs
  | symbol noDigit noQuote noWord found =>
    obtain ⟨symbol, _, front, rfl⟩ := symbol?_eq_some found
    have := front.length_le
    simp only [List.length_cons] at this
    omega

/-- A lexeme is the same before characters that cannot belong to it. -/
theorem append (isLexeme : IsLexeme c cs kind length) {tail : List Char} (parts : Parts tail)
    (blank : (∃ mark, kind = .mark mark) → ∀ d ∈ tail.head?, Text.isBlank d = true) :
    IsLexeme c (cs ++ tail) kind length := by
  have front : (cs ++ tail).take length = cs.take length :=
    List.take_append_of_le_length isLexeme.length_le
  cases isLexeme with
  | number digit read =>
    rw [← numberRun_append parts] at front read ⊢
    exact .number digit (by rwa [front])
  | string noDigit quote run =>
    rw [← front]
    exact .string noDigit quote (stringRun?_append (ne_backslash_of_isQuote quote) run tail).1
  | word noDigit noQuote starts =>
    rw [← front, ← wordRun_append parts]
    exact .word noDigit noQuote (by rwa [startsName_append parts])
  | symbol noDigit noQuote noWord found =>
    refine .symbol noDigit noQuote (by rwa [startsName_append parts]) ?_
    rw [← List.cons_append, symbol?_append (blank ⟨_, rfl⟩), found]

/-- A lexeme that is all of a text does not end with a blank. -/
theorem last_not_blank {before : List Char} {d : Char}
    (isLexeme : IsLexeme c (before ++ [d]) kind length) (all : length = (before ++ [d]).length) :
    Text.isBlank d = false := by
  cases blank : Text.isBlank d with
  | false => rfl
  | true =>
    have parts : Parts [d] := fun _ member => by
      cases member
      exact isNumberPart_of_isBlank blank
    rw [List.length_append, List.length_singleton] at all
    cases isLexeme with
    | number digit read =>
      have := numberRun_le before
      rw [numberRun_append parts] at all
      omega
    | string noDigit quote run =>
      have last := (stringRun?_append (ne_backslash_of_isQuote quote) run []).2.2
      rw [all, ← List.length_singleton (a := d), ← List.length_append, List.take_length,
        List.getLast?_concat] at last
      cases last
      exact absurd blank (by simp [isBlank_of_isQuote quote])
    | word noDigit noQuote starts =>
      have := wordRun_le before
      rw [wordRun_append parts] at all
      omega
    | symbol noDigit noQuote noWord found =>
      have onlyBlank : ∀ e ∈ [d].head?, Text.isBlank e = true := fun _ member => by
        cases member
        exact blank
      rw [← List.cons_append, symbol?_append onlyBlank] at found
      obtain ⟨symbol, _, front, rfl⟩ := symbol?_eq_some found
      have := front.length_le
      simp only [List.length_cons] at this
      omega

end IsLexeme

/-! ## Texts and their tokens -/

theorem tokens_of_blank {c : Char} (blank : Text.isBlank c = true) (pos : Nat) (cs : List Char) :
    tokens pos (c :: cs) = tokens (pos + c.utf8Size) cs := by
  rw [tokens.eq_def]
  simp only [blank, ↓reduceIte]

theorem tokens_of_lexeme {c : Char} (visible : Text.isBlank c = false) {pos : Nat} {cs : List Char}
    {kind : TokenKind} {length : Nat} (read : lexeme pos c cs = .ok (kind, length)) :
    tokens pos (c :: cs) =
      (tokens (pos + Text.byteLength (c :: cs.take length)) (cs.drop length)).map
        (⟨kind, ⟨pos, pos + Text.byteLength (c :: cs.take length)⟩,
          String.ofList (c :: cs.take length)⟩ :: ·) := by
  rw [tokens.eq_def]
  simp only [visible, Bool.false_eq_true, ↓reduceIte, read]
  cases tokens _ (cs.drop length) <;> rfl

theorem tokens_of_error {c : Char} (visible : Text.isBlank c = false) {pos : Nat} {cs : List Char}
    {e : ParseError} (failed : lexeme pos c cs = .error e) : tokens pos (c :: cs) = .error e := by
  rw [tokens.eq_def]
  simp only [visible, Bool.false_eq_true, ↓reduceIte, failed]

/-- Blanks at the front move what follows them. -/
theorem tokens_skip {gap : List Char} (blank : ∀ c ∈ gap, Text.isBlank c = true) (pos : Nat)
    (cs : List Char) : tokens pos (gap ++ cs) = tokens (pos + Text.byteLength gap) cs := by
  induction gap generalizing pos with
  | nil => rfl
  | cons c gap ih =>
    simp only [List.forall_mem_cons] at blank
    rw [List.cons_append, tokens_of_blank blank.1, ih blank.2, Text.byteLength_cons, Nat.add_assoc]

/-- A text that starts at byte `pos` consists of the given tokens and blanks. -/
inductive Splits : Nat → List Char → List Token → Prop where
  | nil {pos} : Splits pos [] []
  | blank {pos c cs ts} (blank : Text.isBlank c = true)
      (rest : Splits (pos + c.utf8Size) cs ts) : Splits pos (c :: cs) ts
  | lexeme {pos c cs kind length stop ts} (visible : Text.isBlank c = false)
      (isLexeme : IsLexeme c cs kind length)
      (isStop : stop = pos + Text.byteLength (c :: cs.take length))
      (rest : Splits stop (cs.drop length) ts) :
      Splits pos (c :: cs) (⟨kind, ⟨pos, stop⟩, String.ofList (c :: cs.take length)⟩ :: ts)

theorem splits_of_tokens {pos : Nat} {cs : List Char} {ts : List Token}
    (success : tokens pos cs = .ok ts) : Splits pos cs ts := by
  fun_induction tokens pos cs generalizing ts with
  | case1 pos =>
    cases success
    exact .nil
  | case2 pos c cs blank ih => exact .blank blank (ih success)
  | case3 pos c cs visible e failed => cases success
  | case4 pos c cs visible kind length read text stop e failed => cases success
  | case5 pos c cs visible kind length read text stop rest others =>
    rename_i ih
    cases success
    exact .lexeme (Bool.eq_false_iff.mpr visible) (lexeme_eq_ok_iff.mp read) rfl (ih others)

theorem tokens_of_splits {pos : Nat} {cs : List Char} {ts : List Token}
    (splits : Splits pos cs ts) : tokens pos cs = .ok ts := by
  induction splits with
  | nil => rw [tokens.eq_def]
  | blank blank rest ih => rw [tokens_of_blank blank, ih]
  | lexeme visible isLexeme isStop rest ih =>
    subst isStop
    rw [tokens_of_lexeme visible (lexeme_eq_ok_iff.mpr isLexeme), ih]
    rfl

theorem tokens_eq_ok_iff {pos : Nat} {cs : List Char} {ts : List Token} :
    tokens pos cs = .ok ts ↔ Splits pos cs ts :=
  ⟨splits_of_tokens, tokens_of_splits⟩

/-- The tokens of a text with at most so many pieces: tokens, and blanks between them. Unlike `tokens`
this can be computed on a given text. -/
def split? : Nat → Nat → List Char → Option (List Token)
  | _, _, [] => some []
  | 0, _, _ :: _ => none
  | n + 1, pos, c :: cs =>
    if Text.isBlank c then split? n (pos + c.utf8Size) cs
    else
      match lexeme pos c cs with
      | .error _ => none
      | .ok (kind, length) =>
        let stop := pos + Text.byteLength (c :: cs.take length)
        (split? n stop (cs.drop length)).map
          (⟨kind, ⟨pos, stop⟩, String.ofList (c :: cs.take length)⟩ :: ·)

theorem tokens_of_split? {n pos : Nat} {cs : List Char} {ts : List Token}
    (found : split? n pos cs = some ts) : tokens pos cs = .ok ts := by
  refine tokens_of_splits ?_
  fun_induction split? n pos cs generalizing ts with
  | case1 =>
    cases found
    exact .nil
  | case2 => cases found
  | case3 n pos c cs blank ih => exact .blank blank (ih found)
  | case4 => cases found
  | case5 n pos c cs visible kind length read stop =>
    rename_i ih
    obtain ⟨rest, split, rfl⟩ := Option.map_eq_some_iff.mp found
    exact .lexeme (Bool.eq_false_iff.mpr visible) (lexeme_eq_ok_iff.mp read) rfl (ih split)

/-- Blanks at the front have no tokens. -/
theorem Splits.skip {pos : Nat} {lead cs : List Char} {ts : List Token}
    (blank : ∀ c ∈ lead, Text.isBlank c = true)
    (splits : Splits (pos + Text.byteLength lead) cs ts) : Splits pos (lead ++ cs) ts := by
  apply splits_of_tokens
  rw [tokens_skip blank, tokens_of_splits splits]

/-- The texts without tokens are the blank ones. -/
theorem tokens_eq_nil_iff {pos : Nat} {cs : List Char} :
    tokens pos cs = .ok [] ↔ ∀ c ∈ cs, Text.isBlank c = true := by
  constructor
  · intro none
    obtain ⟨ts, noTokens, splits⟩ : ∃ ts, ts = [] ∧ Splits pos cs ts :=
      ⟨[], rfl, splits_of_tokens none⟩
    clear none
    induction splits with
    | nil => simp
    | blank isBlank _ ih => exact List.forall_mem_cons.mpr ⟨isBlank, ih noTokens⟩
    | lexeme => cases noTokens
  · intro blank
    have splits : Splits pos (cs ++ []) [] := .skip blank .nil
    rw [List.append_nil] at splits
    exact tokens_of_splits splits

/-- Tokens stand one after the other. -/
def Ordered (pos : Nat) : List Token → Prop
  | [] => True
  | token :: ts => pos ≤ token.span.start ∧ token.span.start < token.span.stop ∧
      Ordered token.span.stop ts

theorem Ordered.mono {pos pos' : Nat} {ts : List Token} (ordered : Ordered pos ts)
    (before : pos' ≤ pos) : Ordered pos' ts := by
  cases ts with
  | nil => trivial
  | cons token ts => exact ⟨Nat.le_trans before ordered.1, ordered.2⟩

/-- The tokens of a text stand in its order and do not overlap. -/
theorem Splits.ordered {pos : Nat} {cs : List Char} {ts : List Token}
    (splits : Splits pos cs ts) : Ordered pos ts := by
  induction splits with
  | nil => trivial
  | blank blank rest ih => exact ih.mono (Nat.le_add_right _ _)
  | @lexeme pos c cs kind length stop ts visible isLexeme isStop rest ih =>
    have positive := c.utf8Size_pos
    refine ⟨Nat.le_refl _, ?_, ih⟩
    simp only [isStop, Text.byteLength_cons]
    omega

theorem wordKind_cases (word : String) :
    (∃ entry ∈ keywords, wordKind word = entry.2) ∨ wordKind word = .ident word := by
  cases found : keywords.lookup word with
  | none => exact .inr (by rw [wordKind, found]; rfl)
  | some kind =>
    obtain ⟨before, after, split, _⟩ := List.lookup_eq_some_iff.mp found
    refine .inl ⟨(word, kind), ?_, by rw [wordKind, found]; rfl⟩
    rw [split]
    exact List.mem_append_right before List.mem_cons_self

/-- The text of a token says again what the token says. -/
structure Decodes (token : Token) : Prop where
  number : ∀ x, token.kind = .number x → Number.read? token.text.toList = some x
  string : ∀ s, token.kind = .str s → Text.unquote? token.text.toList = some s.toList

theorem IsLexeme.decodes {c : Char} {cs : List Char} {kind : TokenKind} {length : Nat}
    (isLexeme : IsLexeme c cs kind length) (span : Span) :
    Decodes ⟨kind, span, String.ofList (c :: cs.take length)⟩ := by
  cases isLexeme with
  | number digit read =>
    constructor
    · intro x same
      cases same
      rwa [String.toList_ofList]
    · intro s same
      cases same
  | string noDigit quote run =>
    constructor
    · intro x same
      cases same
    · intro s same
      cases same
      have last := (stringRun?_append (ne_backslash_of_isQuote quote) run []).2.2
      simp only [String.toList_ofList, Text.unquote?, quote, last, BEq.rfl, Bool.and_self,
        ↓reduceIte]
  | word noDigit noQuote starts =>
    have notLiteral : ∀ entry ∈ keywords,
        (∀ x, entry.2 ≠ .number x) ∧ ∀ s, entry.2 ≠ .str s := by simp [keywords]
    rcases wordKind_cases (String.ofList (c :: cs.take (wordRun cs))) with ⟨entry, member, same⟩ | same
    · rw [same]
      constructor
      · exact fun x isNumber => absurd isNumber ((notLiteral entry member).1 x)
      · exact fun s isString => absurd isString ((notLiteral entry member).2 s)
    · rw [same]
      constructor
      · exact fun x isNumber => TokenKind.noConfusion isNumber
      · exact fun s isString => TokenKind.noConfusion isString
  | symbol noDigit noQuote noWord found =>
    constructor
    · intro x same
      cases same
    · intro s same
      cases same

theorem Splits.decodes {pos : Nat} {cs : List Char} {ts : List Token} (splits : Splits pos cs ts) :
    ∀ token ∈ ts, Decodes token := by
  induction splits with
  | nil => simp
  | blank blank rest ih => exact ih
  | lexeme visible isLexeme isStop rest ih =>
    simp only [List.forall_mem_cons]
    exact ⟨isLexeme.decodes _, ih⟩

/-- A text is one token. -/
def Lexes (text : String) (kind : TokenKind) : Prop :=
  tokens 0 text.toList = .ok [⟨kind, ⟨0, Text.byteLength text.toList⟩, text⟩]

theorem Lexes.isLexeme {text : String} {kind : TokenKind} (lexes : Lexes text kind) :
    ∃ c cs, text.toList = c :: cs ∧ Text.isBlank c = false ∧ IsLexeme c cs kind cs.length := by
  have splits := tokens_eq_ok_iff.mp lexes
  generalize single : [(⟨kind, ⟨0, Text.byteLength text.toList⟩, text⟩ : Token)] = ts at splits
  generalize chars : text.toList = cs at splits
  cases splits with
  | nil => cases single
  | @blank _ c cs _ blank rest =>
    subst single
    have after := rest.ordered.1
    have positive := c.utf8Size_pos
    simp only at after
    omega
  | @lexeme _ c cs _ length _ _ visible isLexeme isStop rest =>
    cases single
    rw [String.toList_ofList, List.cons.injEq] at chars
    have all := congrArg List.length chars.2
    rw [List.length_take] at all
    have bound := isLexeme.length_le
    obtain rfl : length = cs.length := by omega
    exact ⟨c, cs, by simp, visible, isLexeme⟩

end TargetingRules.Lexer
