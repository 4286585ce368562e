import Mathlib.Data.List.Basic
import TargetingRules.Text.Search

/-!
# Occurrences of a text

Where a text stands in another, by what is before and after it. The search goes from the start to the end,
so the position that it finds is the first one, also for the empty text, which stands everywhere.
-/

namespace TargetingRules.Text

/-- A text stands in another behind so many characters. -/
def StandsAt (needle haystack : List Char) (n : Nat) : Prop :=
  ∃ before after, haystack = before ++ needle ++ after ∧ before.length = n

variable {needle haystack : List Char} {n : Nat}

theorem standsAt_zero : StandsAt needle haystack 0 ↔ needle <+: haystack := by
  constructor
  · rintro ⟨before, after, whole, first⟩
    obtain rfl := List.eq_nil_of_length_eq_zero first
    exact ⟨after, whole.symm⟩
  · rintro ⟨after, whole⟩
    exact ⟨[], after, whole.symm, rfl⟩

theorem standsAt_cons_succ {c : Char} :
    StandsAt needle (c :: haystack) (n + 1) ↔ StandsAt needle haystack n := by
  constructor
  · rintro ⟨before, after, whole, later⟩
    obtain ⟨d, before, rfl⟩ := List.exists_cons_of_length_eq_add_one later
    exact ⟨before, after, (List.cons.inj whole).2, Nat.succ.inj later⟩
  · rintro ⟨before, after, rfl, rfl⟩
    exact ⟨c :: before, after, rfl, rfl⟩

theorem standsAt_nil : StandsAt needle [] n ↔ needle = [] ∧ n = 0 := by
  constructor
  · rintro ⟨before, after, whole, rfl⟩
    obtain ⟨front, -⟩ := List.append_eq_nil_iff.mp whole.symm
    obtain ⟨rfl, rfl⟩ := List.append_eq_nil_iff.mp front
    exact ⟨rfl, rfl⟩
  · rintro ⟨rfl, rfl⟩
    exact ⟨[], [], rfl, rfl⟩

namespace StandsAt

theorem add_length_le (stands : StandsAt needle haystack n) : n + needle.length ≤ haystack.length := by
  obtain ⟨before, after, rfl, rfl⟩ := stands
  simp only [List.length_append]
  omega

/-- What is cut out at the position, as long as the text, is the text. -/
theorem drop_take (stands : StandsAt needle haystack n) :
    (haystack.take (n + needle.length)).drop n = needle := by
  obtain ⟨before, after, rfl, rfl⟩ := stands
  rw [← List.length_append, List.take_left, List.drop_left]

end StandsAt

/-! ## The search -/

/-- The position that is found is the first at which the text stands. -/
theorem indexOf?_eq_some_iff :
    indexOf? needle haystack = some n ↔
      StandsAt needle haystack n ∧ ∀ m < n, ¬ StandsAt needle haystack m := by
  induction haystack generalizing n with
  | nil =>
    simp only [indexOf?, standsAt_nil, List.isEmpty_iff]
    grind
  | cons c cs ih =>
    rw [indexOf?]
    by_cases first : needle <+: c :: cs
    · have atZero := standsAt_zero.mpr first
      rw [if_pos (List.isPrefixOf_iff_prefix.mpr first), Option.some.injEq]
      constructor
      · rintro rfl
        exact ⟨atZero, fun m earlier => absurd earlier (Nat.not_lt_zero m)⟩
      · rintro ⟨-, none⟩
        exact (Nat.eq_zero_or_pos n).elim Eq.symm fun later => absurd atZero (none 0 later)
    · have notAtZero : ¬ StandsAt needle (c :: cs) 0 := fun stands => first (standsAt_zero.mp stands)
      rw [if_neg fun isPrefix => first (List.isPrefixOf_iff_prefix.mp isPrefix)]
      cases n with
      | zero => simp [notAtZero]
      | succ n =>
        simp only [Option.map_eq_some_iff, Nat.add_right_cancel_iff, exists_eq_right, ih, standsAt_cons_succ]
        refine and_congr_right fun _ => ⟨fun none m earlier => ?_, fun none m earlier => ?_⟩
        · cases m with
          | zero => exact notAtZero
          | succ m => exact fun stands => none m (Nat.lt_of_succ_lt_succ earlier) (standsAt_cons_succ.mp stands)
        · exact fun stands => none (m + 1) (Nat.succ_lt_succ earlier) (standsAt_cons_succ.mpr stands)

theorem indexOf?_le_length (found : indexOf? needle haystack = some n) : n ≤ haystack.length :=
  Nat.le_of_add_right_le (indexOf?_eq_some_iff.mp found).1.add_length_le

/-- A position is found if there is one. -/
theorem occursIn_iff : occursIn needle haystack = true ↔ ∃ n, StandsAt needle haystack n := by
  constructor
  · intro found
    obtain ⟨n, position⟩ := Option.isSome_iff_exists.mp found
    exact ⟨n, (indexOf?_eq_some_iff.mp position).1⟩
  · rintro ⟨n, stands⟩
    induction haystack generalizing n with
    | nil =>
      obtain ⟨rfl, -⟩ := standsAt_nil.mp stands
      rfl
    | cons c cs ih =>
      rw [occursIn, indexOf?]
      split
      next => rfl
      next notFirst =>
        rw [Option.isSome_map]
        cases n with
        | zero => exact absurd (List.isPrefixOf_iff_prefix.mpr (standsAt_zero.mp stands)) notFirst
        | succ n => exact ih n (standsAt_cons_succ.mp stands)

end TargetingRules.Text
