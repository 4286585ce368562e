/-!
# The parts of a binary number

A finite number is a whole mantissa times a power of two. This module reads the sign, mantissa and
exponent off the bits of a number and puts small mantissas back together, which is all that exact
printing and exact remainders need.
-/

namespace TargetingRules.Number

/-- The sign bit. -/
def isNegative (x : Float) : Bool :=
  x.toBits.toNat / Nat.pow 2 63 == 1

/-- The eleven exponent bits. -/
def exponentField (x : Float) : Nat :=
  x.toBits.toNat / Nat.pow 2 52 % Nat.pow 2 11

/-- The fifty-two fraction bits. -/
def fractionField (x : Float) : Nat :=
  x.toBits.toNat % Nat.pow 2 52

/-- The whole number `m` for which a finite number is `m * 2 ^ exponent` in magnitude. -/
def mantissa (x : Float) : Nat :=
  if exponentField x = 0 then fractionField x else Nat.pow 2 52 + fractionField x

/-- The power of two that belongs to `mantissa`. -/
def exponent (x : Float) : Int :=
  (max (exponentField x) 1 : Nat) - 1075

/-- A power of two between the least positive number and the largest finite one. -/
def powerOfTwo (e : Int) : Float :=
  if e < -1022 then Float.ofBits (1 <<< (e + 1074).toNat).toUInt64
  else Float.ofBits ((e + 1023).toNat * Nat.pow 2 52).toUInt64

/-- The number `m * 2 ^ e` with a sign, exact for `m` below `2 ^ 53` and `e` from -1074 to 971. -/
def ofParts (negative : Bool) (m : Nat) (e : Int) : Float :=
  let magnitude := Float.ofNat m * powerOfTwo e
  if negative then -magnitude else magnitude

/-- Infinity. -/
def infinity : Float := Float.ofBits 0x7FF0000000000000

/-- The number that is none. -/
def nan : Float := Float.ofBits 0x7FF8000000000000

/-- A finite number without a fraction. -/
def isIntegral (x : Float) : Bool :=
  x.isFinite && (x.abs >= 4503599627370496 || x.abs.toUInt64.toFloat == x.abs)

end TargetingRules.Number
