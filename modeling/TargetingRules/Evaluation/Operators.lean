import TargetingRules.Evaluation.Failure
import TargetingRules.Number.Remainder
import TargetingRules.Value.Coercion

/-!
# Operators on values

Comparison, arithmetic, concatenation and access to elements, with the coercions that each of them
makes. Where both operands are coerced the left one comes first, and so does its failure.
-/

namespace TargetingRules

namespace Value

/-- The truth value that an operation reads. -/
def truth (v : Value) : Except EvalError Bool :=
  match v.toBool? with
  | some b => .ok b
  | none => .error (.coercion v .boolean)

/-- The number that an operation reads. -/
def numeric (v : Value) : Except EvalError Float :=
  match v.toNumber? with
  | some x => .ok x
  | none => .error (.coercion v .number)

/-- Equality in rules. Null equals null alone; a number is compared with numbers and a truth value
with truth values. -/
def equals (left right : Value) : Except EvalError Bool :=
  if left.type = .null ∨ right.type = .null then .ok (left.type == right.type)
  else if left.type = .number ∨ right.type = .number then do
    let x ← left.numeric
    let y ← right.numeric
    return x == y
  else if left.type = .boolean ∨ right.type = .boolean then do
    let a ← left.truth
    let b ← right.truth
    return a == b
  else .ok (left.equal right)

/-- The order of two numbers, if they have one. -/
def orderNumbers? (x y : Float) : Option Ordering :=
  if x < y then some .lt
  else if y < x then some .gt
  else if x == y then some .eq
  else none

/-- The order of two values that `op` compares: of numbers if one is a number, and else of texts by
their code points. -/
def order (op : CompareOp) (left right : Value) : Except EvalError Ordering :=
  if left.type = .null ∨ right.type = .null then .error (.nullOperand op.symbol)
  else if left.type = .number ∨ right.type = .number then do
    let x ← left.numeric
    let y ← right.numeric
    match orderNumbers? x y with
    | some ordering => return ordering
    | none => .error (.typeFault (.unordered x y))
  else
    match left, right with
    | .string s, .string t => .ok (compare s t)
    | _, _ => .error (.typeFault (.incomparable left.type right.type op))

end Value

/-- The result of comparing two values. -/
def CompareOp.apply (op : CompareOp) (left right : Value) : Except EvalError Bool :=
  match op with
  | .equal => left.equals right
  | .notEqual => (left.equals right).map (!·)
  | .greater => (Value.order op left right).map (· == .gt)
  | .atLeast => (Value.order op left right).map (· != .lt)
  | .less => (Value.order op left right).map (· == .lt)
  | .atMost => (Value.order op left right).map (· != .gt)

/-- The result of an operation on two numbers. -/
def ArithmeticOp.applyNumbers (op : ArithmeticOp) (x y : Float) : Except EvalError Float :=
  match op with
  | .add => .ok (x + y)
  | .sub => .ok (x - y)
  | .mul => .ok (x * y)
  | .div => if y == 0 then .error .divisionByZero else .ok (x / y)
  | .mod => if y == 0 then .error .divisionByZero else .ok (Number.remainder x y)

/-- The result of an arithmetic operation on two values. -/
def ArithmeticOp.apply (op : ArithmeticOp) (left right : Value) : Evaluated :=
  if left.isNull || right.isNull then .error (.nullOperand op.symbol)
  else do
    let x ← left.numeric
    let y ← right.numeric
    return .number (← op.applyNumbers x y)

namespace Value

/-- The result of the logical negation of a value. -/
def negation (v : Value) : Evaluated := do
  return .bool (!(← v.truth))

/-- The result of the arithmetic negation of a value. -/
def negated (v : Value) : Evaluated :=
  if v.isNull then .error (.nullOperand "-")
  else do return .number (-(← v.numeric))

/-- Whether a value is empty: null, or a text, list or object without content. -/
def isEmpty : Value → Bool
  | .null => true
  | .string s => s.isEmpty
  | .array items => items.isEmpty
  | .object fields => fields.isEmpty
  | .bool _ | .number _ => false

/-- The texts of two values in sequence. -/
def concatenated (left right : Value) : Value :=
  .string (left.display ++ right.display)

/-- A property of a value: null has null everywhere, and an object has null where it has no such
field. -/
def property (target : Value) (name : String) : Evaluated :=
  match target with
  | .null => .ok .null
  | .object fields => .ok ((fields.lookup name).getD .null)
  | other => .error (.propertyNotFound name other.type)

/-- An item of a list by its number; there is none before the first item, after the last one or
between two. -/
def item (items : List Value) (x : Float) : Value :=
  if x < 0 || !Number.isIntegral x then .null else (items[x.toUInt64.toNat]?).getD .null

/-- An element of a value: by position in a list, by name in an object. -/
def element (target index : Value) : Evaluated :=
  if target.isNull || index.isNull then .ok .null
  else
    match target with
    | .array items => do return item items (← index.numeric)
    | .object fields => .ok ((fields.lookup index.display).getD .null)
    | other => .error (.typeFault (.notIndexable other.type))

end Value

end TargetingRules
