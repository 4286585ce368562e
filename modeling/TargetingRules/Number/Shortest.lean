import TargetingRules.Number.Binary

/-!
# Shortest decimal digits

The decimal number with the fewest digits among those that read back as a given binary number,
and among these the nearest to it. The search tries one digit, then two, and so on: on each decimal
grid only the two neighbours of the number can qualify.
-/

namespace TargetingRules.Number

/-- The number `digits * 10 ^ exponent`. -/
structure Decimal where
  /-- The digits, read as a whole number. -/
  digits : Nat
  /-- The power of ten by which the digits are scaled. -/
  exponent : Int
  deriving DecidableEq, Repr

/-- The number of decimal digits of a whole number. -/
def digitCount (n : Nat) : Nat :=
  (Nat.toDigits 10 n).length

/-- A positive fraction. -/
structure Ratio where
  /-- The numerator. -/
  num : Nat
  /-- The denominator. -/
  den : Nat

/-- A whole number times a power of two. -/
def Ratio.scaled (n : Nat) (e : Int) : Ratio :=
  if e < 0 then ⟨n, Nat.pow 2 (-e).toNat⟩ else ⟨n * Nat.pow 2 e.toNat, 1⟩

/-- The largest `e` with `10 ^ e` at most a positive fraction. -/
def Ratio.decimalExponent (r : Ratio) : Int :=
  if r.den ≤ r.num then digitCount (r.num / r.den) - 1
  else -(digitCount ((r.den - 1) / r.num) : Int)

/-- A fraction divided by a power of ten. -/
def Ratio.descale (r : Ratio) (e : Int) : Ratio :=
  if e < 0 then ⟨r.num * Nat.pow 10 (-e).toNat, r.den⟩
  else ⟨r.num, r.den * Nat.pow 10 e.toNat⟩

/-- The numbers that read as `m * 2 ^ e`, in quarters of `2 ^ e`: between the midpoints to the two
neighbouring numbers, ends included if `m` is even. -/
structure ReadingRange where
  /-- Four times the lower midpoint. -/
  low : Nat
  /-- Four times the upper midpoint. -/
  high : Nat
  /-- Whether the midpoints themselves read back. -/
  closed : Bool

/-- The reading range of a positive number. The neighbour below a power of two is twice as near,
unless it is one of the numbers with the least exponent. -/
def ReadingRange.of (m : Nat) (e : Int) : ReadingRange where
  low := if m = Nat.pow 2 52 ∧ -1074 < e then 4 * m - 1 else 4 * m - 2
  high := 4 * m + 2
  closed := m % 2 == 0

/-- Whether `candidate * 10 ^ p` lies in a reading range whose unit is the fraction `unit`, scaled
already by `10 ^ p`. -/
def ReadingRange.holds (range : ReadingRange) (unit : Ratio) (candidate : Nat) : Bool :=
  let point := candidate * unit.den
  if range.closed then range.low * unit.num ≤ point && point ≤ range.high * unit.num
  else range.low * unit.num < point && point < range.high * unit.num

/-- The neighbour of `m * 2 ^ e` on the grid of the multiples of `10 ^ p` that reads back, if one
does; of two the nearer, and the upper one if both are equally near. -/
def neighbour? (m : Nat) (e : Int) (p : Int) : Option Nat :=
  let range := ReadingRange.of m e
  let unit := (Ratio.scaled 1 (e - 2)).descale p
  let below := 4 * m * unit.num / unit.den
  let rest := 4 * m * unit.num % unit.den
  match range.holds unit below, range.holds unit (below + 1) with
  | true, true => some (if 2 * rest < unit.den then below else below + 1)
  | true, false => some below
  | false, true => some (below + 1)
  | false, false => none

/-- The first grid at `p`, `p - 1`, … that has a neighbour, among so many further grids. -/
def firstGrid (m : Nat) (e : Int) : (further : Nat) → (p : Int) → Decimal
  | 0, p => ⟨(neighbour? m e p).getD 0, p⟩
  | further + 1, p =>
    match neighbour? m e p with
    | some digits => ⟨digits, p⟩
    | none => firstGrid m e further (p - 1)

/-- The shortest decimal that reads back as the positive number `m * 2 ^ e`. Seventeen digits
always suffice. -/
def shortest (m : Nat) (e : Int) : Decimal :=
  firstGrid m e 16 (Ratio.scaled m e).decimalExponent

end TargetingRules.Number
