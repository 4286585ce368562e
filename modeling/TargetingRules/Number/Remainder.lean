import TargetingRules.Number.Binary

/-!
# Exact remainders

The remainder of a division that truncates toward zero, computed without rounding on the mantissas
brought to a common power of two.
-/

namespace TargetingRules.Number

/-- The remainder of `x` by `y`, which has the sign of `x` and is smaller than `y` in magnitude.
There is none if `x` is infinite or `y` is zero. -/
def remainder (x y : Float) : Float :=
  if x.isNaN || y.isNaN || x.isInf || y == 0 then nan
  else if y.isInf then x
  else
    let shared := min (exponent x) (exponent y)
    let dividend := mantissa x * Nat.pow 2 (exponent x - shared).toNat
    let divisor := mantissa y * Nat.pow 2 (exponent y - shared).toNat
    ofParts (isNegative x) (dividend % divisor) shared

end TargetingRules.Number
