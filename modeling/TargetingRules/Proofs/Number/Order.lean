import Mathlib

/-!
# The order of numbers

Two numbers are compared part by part, with an ordering as the answer, or none if one of them is not a
number. Less and equal are what the answer can be, so that of less, equal and greater no two hold, and one of
them holds where there is an answer. From the other side the answer is swapped.
-/

namespace TargetingRules.Number

open Float.Model (UnpackedFloat)

/-- The order of two numbers, if they have one. -/
def compare? (x y : Float) : Option Ordering :=
  x.toModel.unpack.compare y.toModel.unpack

theorem unpackedCompare_swap (a b : UnpackedFloat) :
    b.compare a = (a.compare b).map Ordering.swap := by
  rcases a with ⟨⟨⟩⟩ | _ | ⟨⟨⟩⟩ | ⟨⟨⟩, m, e, _⟩ <;>
    rcases b with ⟨⟨⟩⟩ | _ | ⟨⟨⟩⟩ | ⟨⟨⟩, m', e', _⟩ <;>
    first
    | rfl
    | simp only [UnpackedFloat.compare, Option.map_some, Ordering.swap_then, Int.compare_swap,
        Nat.compare_swap]

theorem compare?_swap (x y : Float) : compare? y x = (compare? x y).map Ordering.swap :=
  unpackedCompare_swap _ _

theorem lt_iff (x y : Float) : x < y ↔ compare? x y = some .lt := by
  change decide ((compare? x y == some .lt) = true) = true ↔ _
  rw [decide_eq_true_iff, beq_iff_eq]

theorem beq_eq (x y : Float) : (x == y) = (compare? x y == some .eq) := rfl

end TargetingRules.Number
