import TargetingRules.Number.Shortest

/-!
# Numbers as text

A number is written with its shortest digits and never with an exponent. Where a value is shown
inside a rule, whole numbers of ordinary size are written as integers, so that minus zero is `0`.
-/

namespace TargetingRules.Number

/-- Decimal digits with the point after so many of them counted from the right; zeros at the end
of the fraction are dropped. -/
def withPoint (digits : List Char) (places : Nat) : List Char :=
  let padded := List.replicate (places + 1 - digits.length) '0' ++ digits
  let whole := padded.take (padded.length - places)
  let fraction := ((padded.drop (padded.length - places)).reverse.dropWhile (· == '0')).reverse
  if fraction.isEmpty then whole else whole ++ '.' :: fraction

/-- Positional notation of a decimal number. -/
def Decimal.positional (d : Decimal) : List Char :=
  if d.exponent < 0 then withPoint (Nat.toDigits 10 d.digits) (-d.exponent).toNat
  else Nat.toDigits 10 d.digits ++ List.replicate d.exponent.toNat '0'

/-- Positional notation of the magnitude of a finite number. -/
def magnitudeText (x : Float) : List Char :=
  if mantissa x = 0 then ['0'] else (shortest (mantissa x) (exponent x)).positional

/-- The text of a number: its sign, then its shortest digits in positional notation. -/
def text (x : Float) : String :=
  if x.isNaN then "NaN"
  else
    let magnitude := if x.isInf then ['i', 'n', 'f'] else magnitudeText x
    String.ofList (if isNegative x then '-' :: magnitude else magnitude)

/-- Integral numbers from this size on are not shown as integers. -/
def integerLimit : Float := 1e15

/-- The text of a number as a value shows it. -/
def display (x : Float) : String :=
  if isIntegral x && x.abs < integerLimit then
    let magnitude := Nat.toDigits 10 x.abs.toUInt64.toNat
    String.ofList (if x < 0 then '-' :: magnitude else magnitude)
  else text x

end TargetingRules.Number
