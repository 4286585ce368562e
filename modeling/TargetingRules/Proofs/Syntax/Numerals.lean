import TargetingRules.Proofs.Syntax.Scanning

/-!
# Numerals

A numeral is digits, then perhaps a point with digits, then perhaps an exponent. The lexer tries the
point and the exponent and goes back where no digits follow, so that it stops after a numeral; numbers
are read from more spellings than these, and from all of these. A number token is therefore never
refused.
-/

namespace TargetingRules

namespace Number

/-- One or more digits. -/
def IsDigits (cs : List Char) : Prop :=
  cs ≠ [] ∧ ∀ c ∈ cs, c.isDigit = true

/-- A point and digits after it, or nothing. -/
inductive IsFraction : List Char → Prop where
  | absent : IsFraction []
  | present {digits} (isDigits : IsDigits digits) : IsFraction ('.' :: digits)

/-- A sign, or nothing. -/
def IsSign (cs : List Char) : Prop :=
  cs = [] ∨ cs = ['+'] ∨ cs = ['-']

/-- The letter of an exponent, a sign and digits, or nothing. -/
inductive IsExponent : List Char → Prop where
  | absent : IsExponent []
  | present {letter sign digits} (isLetter : letter = 'e' ∨ letter = 'E') (isSign : IsSign sign)
      (isDigits : IsDigits digits) : IsExponent (letter :: (sign ++ digits))

/-- Digits with a fraction and an exponent. -/
inductive IsNumeral : List Char → Prop where
  | parts {whole fraction exponent} (isWhole : IsDigits whole) (isFraction : IsFraction fraction)
      (isExponent : IsExponent exponent) : IsNumeral (whole ++ fraction ++ exponent)

end Number

/-! ## What the lexer takes for a number -/

namespace Lexer

open Number

theorem take_digitRun (cs : List Char) : cs.take (digitRun cs) = cs.takeWhile Char.isDigit := by
  exact (List.prefix_iff_eq_take.mp (List.takeWhile_prefix _)).symm

/-- What starts with a digit starts with digits. -/
theorem isDigits_take {cs : List Char} (some : digitRun cs ≠ 0) : IsDigits (cs.take (digitRun cs)) := by
  rw [take_digitRun]
  refine ⟨?_, List.all_eq_true.mp List.all_takeWhile⟩
  rw [← List.length_pos_iff]
  exact Nat.pos_of_ne_zero some

theorem isFraction_take (cs : List Char) : IsFraction (cs.take (fractionRun cs)) := by
  unfold fractionRun
  split
  next cs =>
    split
    next => exact .absent
    next some =>
      rw [Nat.add_comm, List.take_succ_cons]
      exact .present (isDigits_take some)
  next => exact .absent

theorem isSign_take (cs : List Char) : IsSign (cs.take (signRun cs)) := by
  cases cs with
  | nil => exact .inl rfl
  | cons c cs =>
    rw [signRun]
    split
    next sign =>
      rcases sign with rfl | rfl
      · exact .inr (.inl rfl)
      · exact .inr (.inr rfl)
    next => exact .inl rfl

theorem isExponent_take (cs : List Char) : IsExponent (cs.take (exponentRun cs)) := by
  cases cs with
  | nil => exact .absent
  | cons letter cs =>
    simp only [exponentRun]
    split
    next found =>
      obtain ⟨isLetter, some⟩ := found
      rw [Nat.add_assoc, Nat.add_comm, List.take_succ_cons, List.take_add]
      exact .present isLetter (isSign_take cs) (isDigits_take some)
    next => exact .absent

/-- The lexer goes on from a digit to the end of a numeral. -/
theorem isNumeral_take {c : Char} (digit : c.isDigit = true) (cs : List Char) :
    IsNumeral (c :: cs.take (numberRun cs)) := by
  have isWhole : IsDigits (c :: cs.take (digitRun cs)) := by
    refine ⟨List.cons_ne_nil _ _, List.forall_mem_cons.mpr ⟨digit, ?_⟩⟩
    rw [take_digitRun]
    exact List.all_eq_true.mp List.all_takeWhile
  have parts := IsNumeral.parts isWhole (isFraction_take (cs.drop (digitRun cs)))
    (isExponent_take (cs.drop (digitRun cs + fractionRun (cs.drop (digitRun cs)))))
  rw [List.cons_append, List.cons_append] at parts
  simp only [numberRun, List.take_add]
  exact parts

end Lexer

/-! ## What is read as a number -/

namespace Number

theorem splitSign_of_isDigit {c : Char} (digit : c.isDigit = true) (cs : List Char) :
    splitSign (c :: cs) = (false, c :: cs) := by
  unfold splitSign
  split
  next same =>
    cases same
    cases digit
  next same =>
    cases same
    cases digit
  next => rfl

theorem splitSign_append {sign digits : List Char} (isSign : IsSign sign) (isDigits : IsDigits digits) :
    (splitSign (sign ++ digits)).2 = digits := by
  rcases isSign with rfl | rfl | rfl
  · obtain ⟨nonempty, digits⟩ := isDigits
    obtain ⟨c, cs, rfl⟩ := List.exists_cons_of_ne_nil nonempty
    rw [List.nil_append, splitSign_of_isDigit (digits c List.mem_cons_self)]
  · rfl
  · rfl

theorem isSome_exponentValue? {exponent : List Char} (isExponent : IsExponent exponent) :
    (exponentValue? exponent).isSome = true := by
  cases isExponent with
  | absent => rfl
  | @present letter sign digits isLetter isSign isDigits =>
    have letters : (letter == 'e' || letter == 'E') = true := by
      rw [Bool.or_eq_true, beq_iff_eq, beq_iff_eq]
      exact isLetter
    have nonempty : digits.isEmpty = false := List.isEmpty_eq_false_iff.mpr isDigits.1
    have all : digits.all Char.isDigit = true := List.all_eq_true.mpr isDigits.2
    simp only [exponentValue?, splitSign_append isSign isDigits, letters, nonempty, all,
      Bool.not_false, Bool.and_self, ↓reduceIte, Option.isSome_some]

theorem head_of_isExponent {exponent : List Char} (isExponent : IsExponent exponent) :
    ∀ c ∈ exponent.head?, c.isDigit = false ∧ c ≠ '.' := by
  cases isExponent with
  | absent => simp
  | present isLetter _ _ =>
    intro c member
    cases member
    rcases isLetter with rfl | rfl <;> decide

/-- Digits end where something else follows. -/
theorem span_digits {digits rest : List Char} (isDigits : ∀ c ∈ digits, c.isDigit = true)
    (stops : ∀ c ∈ rest.head?, c.isDigit = false) :
    (digits ++ rest).takeWhile Char.isDigit = digits ∧
      (digits ++ rest).dropWhile Char.isDigit = rest := by
  rw [List.takeWhile_append_of_pos isDigits, List.dropWhile_append_of_pos isDigits]
  cases rest with
  | nil => simp
  | cons c rest =>
    have noDigit := stops c rfl
    rw [List.takeWhile_cons, List.dropWhile_cons, noDigit]
    simp

/-- A numeral is taken apart into its digits and its exponent. -/
theorem splitDigits_append {whole fraction exponent : List Char} (isWhole : IsDigits whole)
    (isFraction : IsFraction fraction) (isExponent : IsExponent exponent) :
    splitDigits (whole ++ fraction ++ exponent) = (whole, fraction.tail, exponent) := by
  have head := head_of_isExponent isExponent
  rw [List.append_assoc, splitDigits]
  cases isFraction with
  | absent =>
    obtain ⟨digits, rest⟩ := span_digits isWhole.2 fun c member => (head c member).1
    rw [List.nil_append, digits, rest]
    split
    next same => exact absurd rfl (head '.' rfl).2
    next => rfl
  | @present fraction isDigits =>
    have point : ∀ c ∈ ('.' :: (fraction ++ exponent)).head?, c.isDigit = false := by
      intro c member
      cases member
      rfl
    obtain ⟨digits, rest⟩ := span_digits isWhole.2 point
    obtain ⟨digits', rest'⟩ := span_digits isDigits.2 fun c member => (head c member).1
    rw [List.cons_append, digits, rest]
    simp only [digits', rest', List.tail_cons]

/-- Every numeral is read as a number. -/
theorem isSome_read? {cs : List Char} (numeral : IsNumeral cs) : (read? cs).isSome = true := by
  obtain ⟨isWhole, isFraction, isExponent⟩ := numeral
  obtain ⟨value, known⟩ := Option.isSome_iff_exists.mp (isSome_exponentValue? isExponent)
  have parts := splitDigits_append isWhole isFraction isExponent
  obtain ⟨nonempty, digits⟩ := isWhole
  obtain ⟨c, whole, rfl⟩ := List.exists_cons_of_ne_nil nonempty
  have unsigned := splitSign_of_isDigit (digits c List.mem_cons_self)
  simp only [List.cons_append] at parts ⊢
  simp only [read?, unsigned, decimal?, parts, List.isEmpty_cons, Bool.false_and, Bool.false_eq_true,
    ↓reduceIte, known, Option.map_some, Option.some_or, Option.isSome_some]

end Number

/-! ## Refusals of the lexer -/

namespace Lexer

/-- A character starts no lexeme: it is a quote and the closing quote is missing, or nothing starts with
it. -/
inductive Refuses (pos : Nat) (c : Char) (cs : List Char) : ParseError → Prop where
  | string (quote : Text.isQuote c = true) (run : stringRun? c cs = none) :
      Refuses pos c cs (.unterminatedString pos)
  | char (noDigit : c.isDigit = false) (noQuote : Text.isQuote c = false)
      (noWord : startsName c cs = false) (noSymbol : symbol? (c :: cs) = none) :
      Refuses pos c cs (.unexpectedChar c pos)

/-- Digits are never refused. -/
theorem refuses_of_lexeme {pos : Nat} {c : Char} {cs : List Char} {e : ParseError}
    (failed : lexeme pos c cs = .error e) : Refuses pos c cs e := by
  simp only [lexeme] at failed
  split at failed
  next digit =>
    obtain ⟨x, read⟩ := Option.isSome_iff_exists.mp (Number.isSome_read? (isNumeral_take digit cs))
    rw [read] at failed
    cases failed
  next noDigit =>
    split at failed
    next quote =>
      split at failed
      next => cases failed
      next run =>
        cases failed
        exact .string quote run
    next noQuote =>
      split at failed
      next => cases failed
      next noWord =>
        split at failed
        next => cases failed
        next noSymbol =>
          cases failed
          exact .char (Bool.eq_false_iff.mpr noDigit) (Bool.eq_false_iff.mpr noQuote)
            (Bool.eq_false_iff.mpr noWord) noSymbol

/-- Characters without tokens have one among them at which the lexer stops. -/
theorem refuses_of_tokens {pos : Nat} {cs : List Char} {e : ParseError}
    (failed : tokens pos cs = .error e) : ∃ before c after, cs = before ++ c :: after ∧
      Text.isBlank c = false ∧ Refuses (pos + Text.byteLength before) c after e := by
  fun_induction tokens pos cs with
  | case1 pos => cases failed
  | case2 pos c cs blank ih =>
    obtain ⟨before, d, after, rfl, visible, refuses⟩ := ih failed
    refine ⟨c :: before, d, after, rfl, visible, ?_⟩
    rwa [Text.byteLength_cons, ← Nat.add_assoc]
  | case3 pos c cs visible e' refused =>
    cases failed
    exact ⟨[], c, cs, rfl, Bool.eq_false_iff.mpr visible, refuses_of_lexeme refused⟩
  | case4 pos c cs visible kind length read text stop e' refused =>
    rename_i ih
    cases failed
    obtain ⟨before, d, after, split, visible', refuses⟩ := ih refused
    refine ⟨text ++ before, d, after, ?_, visible', ?_⟩
    · rw [List.append_assoc, ← split, List.cons_append, List.take_append_drop]
    · rwa [Text.byteLength_append, ← Nat.add_assoc]
  | case5 => cases failed

/-- No number token is refused. -/
theorem tokensBetween_ne_invalidNumber (text : String) (start stop : Nat) (image : String) (pos : Nat) :
    tokensBetween text start stop ≠ .error (.invalidNumber image pos) := by
  intro failed
  obtain ⟨_, _, _, _, _, refuses⟩ := refuses_of_tokens failed
  cases refuses

end Lexer

end TargetingRules
