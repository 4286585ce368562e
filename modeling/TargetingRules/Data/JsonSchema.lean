import TargetingRules.Data.Json
import TargetingRules.Data.Schema

/-!
# JSON as a data format

Values of rules from JSON, and JSON as a description of configurations and documents. A record may
also be written as the list of its fields in their order. What is ignored may be any JSON; what is
used must have whole texts and names, and its nesting is limited.
-/

namespace TargetingRules.Json

mutual

/-- The value of JSON data. There is none if a number is too large, or a text or a name is not
whole. -/
def toValue? : Json → Option Value
  | .null => some .null
  | .bool b => some (.bool b)
  | .number n => n.toFloat?.map .number
  | .string text? => text?.map .string
  | .array items => (toValues? items).map .array
  | .object members => (toFields? members).map .ofFields

/-- The values of the items of a list. -/
def toValues? : List Json → Option (List Value)
  | [] => some []
  | item :: items => do return (← toValue? item) :: (← toValues? items)

/-- The values of the members of an object. -/
def toFields? : List (JsonText × Json) → Option (List (String × Value))
  | [] => some []
  | (name?, item) :: members => do
    return (← name?, ← toValue? item) :: (← toFields? members)

end

/-- The truth value that JSON data are. -/
def bool? : Json → Option Bool
  | .bool b => some b
  | _ => none

/-- The text that JSON data are. -/
def text? : Json → Option String
  | .string text? => text?
  | _ => none

/-- The items of a JSON list. -/
def list? : Json → Option (List Json)
  | .array items => some items
  | _ => none

/-- The members of a JSON object, unless a name is not whole. -/
def members? : Json → Option (List (String × Json))
  | .object members => members.mapM fun (name?, d) => name?.map fun name => (name, d)
  | _ => none

/-- The fields of a record, written as an object or as the list of its first fields. -/
def record? (names : List String) : Json → Option (List (String × Json))
  | .array items => if items.length ≤ names.length then some (names.zip items) else none
  | d => members? d

/-- A word, written as a text or as the name of a null member. -/
def choice? : Json → Option String
  | .string text? => text?
  | .object [(name?, .null)] => name?
  | _ => none

/-- How deep lists and objects may be nested where they are used, counted from the outermost one. -/
def maxNesting : Nat := 127

/-- The value of a variable, which stands within an object of variables within a record. -/
def boundValue? (d : Json) : Option Value :=
  if d.nesting + 2 ≤ maxNesting then toValue? d else none

instance : DataFormat Json where
  bool? := bool?
  text? := text?
  list? := list?
  members? := members?
  record? := record?
  choice? := choice?
  boundValue? := boundValue?

end TargetingRules.Json
