import TargetingRules.Number.Binary

/-!
# Reading decimal numbers

The spellings of numbers: an optional sign, digits with an optional point, an optional exponent, or
one of the words for the infinities and for the number that is none. The value is the number
nearest to what the digits say.
-/

namespace TargetingRules.Number

/-- The whole number that decimal digits spell. -/
def digitsValue (digits : List Char) : Nat :=
  digits.foldl (fun value c => 10 * value + (c.toNat - '0'.toNat)) 0

/-- The number nearest to `digits * 10 ^ exponent`. Magnitudes beyond all finite numbers, and below
half of the least positive one, are told by the number of digits alone. -/
def nearest (digits : List Char) (exponent : Int) : Float :=
  let significant := digits.dropWhile (· == '0')
  let size := significant.length + exponent
  if significant.isEmpty then 0
  else if 400 < size then infinity
  else if size < -400 then 0
  else if exponent < 0 then Float.ofScientific (digitsValue significant) true (-exponent).toNat
  else Float.ofScientific (digitsValue significant) false exponent.toNat

/-- A text without its sign, and whether the sign is a minus. -/
def splitSign : List Char → Bool × List Char
  | '-' :: cs => (true, cs)
  | '+' :: cs => (false, cs)
  | cs => (false, cs)

/-- Digits with an optional point among them, as whole digits, fraction digits and the rest. -/
def splitDigits (cs : List Char) : List Char × List Char × List Char :=
  let whole := cs.takeWhile Char.isDigit
  match cs.dropWhile Char.isDigit with
  | '.' :: rest => (whole, rest.takeWhile Char.isDigit, rest.dropWhile Char.isDigit)
  | rest => (whole, [], rest)

/-- The value of an exponent that ends the text; nothing at all is the exponent zero. -/
def exponentValue? : List Char → Option Int
  | [] => some 0
  | e :: cs =>
    let (negative, digits) := splitSign cs
    if (e == 'e' || e == 'E') && !digits.isEmpty && digits.all Char.isDigit then
      some (if negative then -(digitsValue digits : Int) else digitsValue digits)
    else none

/-- The value of an unsigned decimal spelling, which has at least one digit beside the point. -/
def decimal? (cs : List Char) : Option Float :=
  let (whole, fraction, rest) := splitDigits cs
  if whole.isEmpty && fraction.isEmpty then none
  else (exponentValue? rest).map fun e => nearest (whole ++ fraction) (e - fraction.length)

/-- The words that name a number, in any case of their letters. -/
def named? (cs : List Char) : Option Float :=
  match String.ofList (cs.map Char.toLower) with
  | "inf" => some infinity
  | "infinity" => some infinity
  | "nan" => some nan
  | _ => none

/-- The number that a text spells. -/
def read? (cs : List Char) : Option Float :=
  let (negative, unsigned) := splitSign cs
  ((decimal? unsigned).or (named? unsigned)).map fun x => if negative then -x else x

end TargetingRules.Number
