import TargetingRules.Dictionary
import TargetingRules.Number.Text

/-!
# Values

What a rule can observe of its context: null, booleans, numbers, texts, lists and objects. The
module holds the names of the types, equality, lookup in objects and the text of a value.
-/

namespace TargetingRules

/-- A value of the context of a rule. The fields of an object are sorted by name and no name
occurs twice. -/
inductive Value where
  /-- No value. -/
  | null
  /-- A truth value. -/
  | bool (b : Bool)
  /-- A number. -/
  | number (x : Float)
  /-- A text. -/
  | string (s : String)
  /-- A list of values. -/
  | array (items : List Value)
  /-- Named values. -/
  | object (fields : List (String × Value))
  deriving Inhabited

/-- The type of a value. -/
inductive ValueType where
  | null | boolean | number | string | array | object
  deriving DecidableEq, Repr

/-- The name of a type in messages. -/
def ValueType.name : ValueType → String
  | .null => "null"
  | .boolean => "boolean"
  | .number => "number"
  | .string => "string"
  | .array => "array"
  | .object => "object"

namespace Value

/-- The type of a value. -/
def type : Value → ValueType
  | .null => .null
  | .bool _ => .boolean
  | .number _ => .number
  | .string _ => .string
  | .array _ => .array
  | .object _ => .object

/-- Whether a value is null. -/
def isNull : Value → Bool
  | .null => true
  | _ => false

/-- The truth value that a value is. -/
def asBool? : Value → Option Bool
  | .bool b => some b
  | _ => none

/-- The number that a value is. -/
def asNumber? : Value → Option Float
  | .number x => some x
  | _ => none

/-- The text that a value is. -/
def asString? : Value → Option String
  | .string s => some s
  | _ => none

/-- The field of an object; other values have none. -/
def field? (v : Value) (name : String) : Option Value :=
  match v with
  | .object fields => fields.lookup name
  | _ => none

/-- The object with the given fields; of several with one name the last one holds. -/
def ofFields (fields : List (String × Value)) : Value :=
  .object (Dictionary.ofList fields).entries

mutual

/-- Equality of values. Numbers compare as numbers, so one that is none equals nothing. -/
def equal : Value → Value → Bool
  | .null, .null => true
  | .bool a, .bool b => a == b
  | .number x, .number y => x == y
  | .string s, .string t => s == t
  | .array xs, .array ys => equalItems xs ys
  | .object xs, .object ys => equalFields xs ys
  | _, _ => false

/-- Equality of lists of values, item by item. -/
def equalItems : List Value → List Value → Bool
  | [], [] => true
  | x :: xs, y :: ys => equal x y && equalItems xs ys
  | _, _ => false

/-- Equality of sorted fields, name by name and value by value. -/
def equalFields : List (String × Value) → List (String × Value) → Bool
  | [], [] => true
  | (name, x) :: xs, (other, y) :: ys => name == other && equal x y && equalFields xs ys
  | _, _ => false

end

mutual

/-- The text of a value: null is empty, numbers are shown as integers where they are, lists stand
in brackets and objects in braces. -/
def display : Value → String
  | .null => ""
  | .bool b => if b then "true" else "false"
  | .number x => Number.display x
  | .string s => s
  | .array items => "[" ++ ", ".intercalate (displayItems items) ++ "]"
  | .object fields => "\x7b" ++ ", ".intercalate (displayFields fields) ++ "\x7d"

/-- The texts of the items of a list. -/
def displayItems : List Value → List String
  | [] => []
  | v :: vs => display v :: displayItems vs

/-- The texts of the fields of an object. -/
def displayFields : List (String × Value) → List String
  | [] => []
  | (name, v) :: rest => (name ++ "=" ++ display v) :: displayFields rest

end

end Value

/-- The variables of a context. -/
abbrev Variables := Dictionary Value

end TargetingRules
