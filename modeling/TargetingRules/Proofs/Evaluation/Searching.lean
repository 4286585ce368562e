import TargetingRules.Proofs.Evaluation.Cutting
import TargetingRules.Proofs.Text.Lowering

/-!
# Searches in texts

The functions that say whether a text stands in another, where it does for the first time, and whether that
is at the start. They search in different ways, the position by bytes that are then counted as characters,
and agree: the position is one at which the text can be cut out again.

The search that ignores case compares lower-case forms, each of them made of one text alone. It finds what
is found otherwise, unless a capital sigma has another form in the text that is searched for than in the one
that it stands in.
-/

namespace TargetingRules.Library

variable {s t : String} {n : Nat}

theorem chars_string (s : String) : (Value.string s).chars = s.toList := rfl

theorem indexOf_eq (s t : String) :
    indexOf (.string s) (.string t) = (Text.indexOf? t.toList s.toList).elim (-1) Float.ofNat := by
  rw [indexOf, chars_string, chars_string]
  cases Text.indexOf? t.toList s.toList <;> rfl

theorem call_indexOf (s t : String) :
    FunctionTable.standard.call "fn:indexOf" [.string s, .string t] =
      .ok (.number (indexOf (.string s) (.string t))) :=
  Native.call_standard .indexOf [.string s, .string t]

theorem call_contains (s t : String) :
    FunctionTable.standard.call "fn:contains" [.string s, .string t] =
      .ok (.bool (Text.occursIn t.toList s.toList)) :=
  Native.call_standard .contains [.string s, .string t]

theorem call_startsWith (s t : String) :
    FunctionTable.standard.call "fn:startsWith" [.string s, .string t] =
      .ok (.bool (t.toList.isPrefixOf s.toList)) :=
  Native.call_standard .startsWith [.string s, .string t]

theorem call_length (t : String) :
    FunctionTable.standard.call "fn:length" [.string t] = .ok (.ofNat t.toList.length) :=
  Native.call_standard .length [.string t]

/-- The part of a text that begins at a position and has the length of another text. -/
def cutOut (s t : String) (position : Float) : Evaluated := do
  let size ← FunctionTable.standard.call "fn:length" [.string t]
  let stop ← ArithmeticOp.add.apply (.number position) size
  FunctionTable.standard.call "fn:substring" [.string s, .number position, stop]

theorem cutOut_of_standsAt (short : s.length < 2 ^ 53) (stands : Text.StandsAt t.toList s.toList n) :
    cutOut s t (Float.ofNat n) = .ok (.string t) := by
  have inside : n + t.toList.length ≤ s.length := stands.add_length_le
  have sum : Float.ofNat n + Float.ofNat t.toList.length = Float.ofNat (n + t.toList.length) :=
    Number.ofNat_add (Nat.lt_of_le_of_lt inside short)
  have added : ArithmeticOp.add.apply (.number (Float.ofNat n)) (.ofNat t.toList.length) =
      .ok (.ofNat (n + t.toList.length)) :=
    congrArg (Except.ok ∘ Value.number) sum
  calc
    cutOut s t (Float.ofNat n) = substring (.string s) (.ofNat n) (.ofNat (n + t.toList.length)) := by
      simp only [cutOut, call_length, added, bind, Except.bind]
      exact call_substring (.string s) (.ofNat n) (.ofNat (n + t.toList.length))
    _ = .ok (.ofChars ((s.toList.take (n + t.toList.length)).drop n)) := by
      rw [substring_ofNat short, Nat.min_eq_left inside, Nat.min_eq_left (by omega)]
    _ = .ok (.string t) := by
      rw [stands.drop_take, Value.ofChars, String.ofList_toList]

/-- The answers to searches for a text in another: a position, whether it is found, and whether it is at the
start. -/
structure SearchesAgree (s t : String) (position : Float) (found starts : Bool) : Prop where
  /-- The text is found if it stands anywhere. -/
  occurs : found = true ↔ ∃ n, Text.StandsAt t.toList s.toList n
  /-- Otherwise the position is -1. -/
  absent : found = false → position = -1
  /-- This is equal to no position of a text that is found. -/
  absent_iff : (position == -1) = !found
  /-- The position counts the characters before the first occurrence, and their bytes lead to the one at which
  it is found. -/
  first : found = true → ∃ n, position = Float.ofNat n ∧
    Text.find? t.toList s.toList = some (Text.byteLength (s.toList.take n)) ∧
    Text.StandsAt t.toList s.toList n ∧ ∀ m < n, ¬ Text.StandsAt t.toList s.toList m
  /-- What has the length of the text and begins there is the text. -/
  cut : found = true → cutOut s t position = .ok (.string t)
  /-- It is at the start if the position is zero. -/
  front : (position == 0) = starts

theorem searchesAgree_of_absent (none : Text.indexOf? t.toList s.toList = .none) :
    SearchesAgree s t (-1) false (t.toList.isPrefixOf s.toList) where
  occurs := by
    rw [← Text.occursIn_iff, Text.occursIn, none, Option.isSome_none]
  absent _ := rfl
  absent_iff := by decide
  first := nofun
  cut := nofun
  front := by
    have notFirst : t.toList.isPrefixOf s.toList = false := by
      rw [Bool.eq_false_iff]
      intro isFirst
      have stands := Text.standsAt_zero.mpr (List.isPrefixOf_iff_prefix.mp isFirst)
      have occurs := Text.occursIn_iff.mpr ⟨0, stands⟩
      rw [Text.occursIn, none] at occurs
      cases occurs
    rw [notFirst]
    decide

theorem searchesAgree_of_standsAt (short : s.length < 2 ^ 53)
    (position : Text.indexOf? t.toList s.toList = some n) :
    SearchesAgree s t (Float.ofNat n) true (t.toList.isPrefixOf s.toList) := by
  obtain ⟨stands, earliest⟩ := Text.indexOf?_eq_some_iff.mp position
  exact {
    occurs := iff_of_true rfl ⟨n, stands⟩
    absent := nofun
    absent_iff := Number.ofNat_beq_negOne n
    first := fun _ => ⟨n, rfl, by rw [Text.find?_eq_map, position, Option.map_some], stands, earliest⟩
    cut := fun _ => cutOut_of_standsAt short stands
    front := by
      rw [Number.ofNat_beq_zero, Bool.eq_iff_iff, beq_iff_eq, List.isPrefixOf_iff_prefix,
        ← Text.standsAt_zero]
      constructor
      · rintro rfl
        exact stands
      · intro atStart
        exact (Nat.eq_zero_or_pos n).resolve_right fun later => earliest 0 later atStart }

theorem searchesAgree (short : s.length < 2 ^ 53) (t : String) : ∃ position found starts,
    FunctionTable.standard.call "fn:indexOf" [.string s, .string t] = .ok (.number position) ∧
    FunctionTable.standard.call "fn:contains" [.string s, .string t] = .ok (.bool found) ∧
    FunctionTable.standard.call "fn:startsWith" [.string s, .string t] = .ok (.bool starts) ∧
    SearchesAgree s t position found starts := by
  refine ⟨_, _, _, call_indexOf s t, call_contains s t, call_startsWith s t, ?_⟩
  rw [indexOf_eq, Text.occursIn]
  cases position : Text.indexOf? t.toList s.toList with
  | none => exact searchesAgree_of_absent position
  | some n => exact searchesAgree_of_standsAt short position

/-- Two characters before the text take three bytes. -/
theorem searchesAgree_accented : ∃ position found starts,
    FunctionTable.standard.call "fn:indexOf" [.string "née", .string "e"] = .ok (.number position) ∧
    FunctionTable.standard.call "fn:contains" [.string "née", .string "e"] = .ok (.bool found) ∧
    FunctionTable.standard.call "fn:startsWith" [.string "née", .string "e"] = .ok (.bool starts) ∧
    SearchesAgree "née" "e" position found starts :=
  searchesAgree (by decide) "e"

/-! ## Case -/

theorem call_containsIgnoreCase (s t : String) :
    FunctionTable.standard.call "fn:containsIgnoreCase" [.string s, .string t] =
      .ok (.bool (Text.occursIn (Text.lower t.toList) (Text.lower s.toList))) :=
  Native.call_standard .containsIgnoreCase [.string s, .string t]

theorem occursIn_of_call_contains
    (found : FunctionTable.standard.call "fn:contains" [.string s, .string t] = .ok (.bool true)) :
    Text.occursIn t.toList s.toList = true := by
  rw [call_contains] at found
  injection found with value
  injection value

/-- What is found as it is spelled is found in lower case too, or has a capital sigma that turns wherever it
stands. -/
theorem containsIgnoreCase_of_contains
    (found : FunctionTable.standard.call "fn:contains" [.string s, .string t] = .ok (.bool true)) :
    FunctionTable.standard.call "fn:containsIgnoreCase" [.string s, .string t] = .ok (.bool true) ∨
      Text.TurnsEverywhere t.toList s.toList := by
  rw [call_containsIgnoreCase]
  exact (Text.occursIn_lower (occursIn_of_call_contains found)).imp_left fun lowered => by rw [lowered]

/-- The sigma ends the word in both. -/
theorem containsIgnoreCase_of_contains_ending :
    FunctionTable.standard.call "fn:contains" [.string "ΟΔΟΣ", .string "ΔΟΣ"] = .ok (.bool true) ∧
    FunctionTable.standard.call "fn:containsIgnoreCase" [.string "ΟΔΟΣ", .string "ΔΟΣ"] =
      .ok (.bool true) := by
  have found : FunctionTable.standard.call "fn:contains" [.string "ΟΔΟΣ", .string "ΔΟΣ"] =
      .ok (.bool true) :=
    (call_contains _ _).trans rfl
  refine ⟨found, (containsIgnoreCase_of_contains found).resolve_right fun turned => ?_⟩
  have steady : ¬ Text.TurnsSigma ['Ο'] ['Δ', 'Ο', 'Σ'] [] :=
    Text.lowerBetween_eq_lower_iff.mp (by decide +kernel)
  exact steady (turned.turns ['Ο'] [] rfl)

/-- A sigma alone is no end of a word, and the one in the text is. -/
theorem contains_not_containsIgnoreCase :
    FunctionTable.standard.call "fn:contains" [.string "aΣ", .string "Σ"] = .ok (.bool true) ∧
    FunctionTable.standard.call "fn:containsIgnoreCase" [.string "aΣ", .string "Σ"] = .ok (.bool false) :=
  ⟨(call_contains _ _).trans rfl, (call_containsIgnoreCase _ _).trans rfl⟩

/-- Without a capital sigma in what is searched for, ignoring case finds more. -/
theorem containsIgnoreCase_of_not_mem
    (found : FunctionTable.standard.call "fn:contains" [.string s, .string t] = .ok (.bool true))
    (none : 'Σ' ∉ t.toList) :
    FunctionTable.standard.call "fn:containsIgnoreCase" [.string s, .string t] = .ok (.bool true) := by
  rw [call_containsIgnoreCase]
  rcases Text.occursIn_lower (occursIn_of_call_contains found) with lowered | turned
  · rw [lowered]
  · obtain ⟨n, before, after, whole, -⟩ := turned.stands
    exact absurd (Text.mem_of_turnsSigma (turned.turns before after whole)) none

end TargetingRules.Library
