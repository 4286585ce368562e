import TargetingRules.Evaluation.Function
import TargetingRules.Evaluation.Operators
import TargetingRules.Text.Search

/-!
# The standard functions

The functions on texts and lists that rules may call with the namespace `fn`. They read every
argument as a text unless a list or a number is asked for, and they count characters.
-/

namespace TargetingRules

namespace Value

/-- The characters of the text of a value. -/
def chars (v : Value) : List Char :=
  v.display.toList

/-- The value of a list of characters. -/
def ofChars (cs : List Char) : Value :=
  .string (String.ofList cs)

/-- The value of a count. -/
def ofNat (n : Nat) : Value :=
  .number (Float.ofNat n)

end Value

namespace Library

/-- Whether a list has an item or a text has a part. -/
def contains (haystack needle : Value) : Bool :=
  match haystack with
  | .array items => items.any (·.equal needle)
  | haystack => Text.occursIn needle.chars haystack.chars

/-- Whether a text has a part, in lower case. -/
def containsIgnoreCase (haystack needle : Value) : Bool :=
  Text.occursIn (Text.lower needle.chars) (Text.lower haystack.chars)

/-- The position of the first occurrence of a text in another, and -1 if there is none. -/
def indexOf (haystack needle : Value) : Float :=
  match Text.indexOf? needle.chars haystack.chars with
  | some position => Float.ofNat position
  | none => -1

/-- The number of items, fields or characters; null has none. -/
def length : Value → Nat
  | .null => 0
  | .array items => items.length
  | .object fields => fields.length
  | other => other.chars.length

/-- A bound of a part of a text of `size` characters: null and negative numbers stand for
`default`, fractions are dropped, and no bound lies past the end. -/
def bound (size default : Nat) (v : Value) : Except EvalError Nat :=
  if v.isNull then .ok default
  else do
    let x ← v.numeric
    return if x < 0 then default else min x.toUInt64.toNat size

/-- The characters of a text from one bound to another. -/
def substring (text first last : Value) : Evaluated := do
  let cs := text.chars
  let start ← bound cs.length 0 first
  let stop ← bound cs.length cs.length last
  return .ofChars ((cs.take stop).drop start)

/-- The texts of the items of a list with a separator between them. -/
def join (list separator : Value) : Evaluated :=
  match list with
  | .array items => .ok (.ofChars (Text.join separator.chars (items.map Value.chars)))
  | .null => .ok (.ofChars [])
  | other => .error (.typeFault (.notAnArray "fn:join" other.type))

/-- The standard functions by name. -/
def functions : List (String × Function) := [
  ("fn:contains", .fixed 2 fun args => .ok (.bool (contains args[0] args[1]))),
  ("fn:containsIgnoreCase", .fixed 2 fun args => .ok (.bool (containsIgnoreCase args[0] args[1]))),
  ("fn:startsWith", .fixed 2 fun args => .ok (.bool (args[1].chars.isPrefixOf args[0].chars))),
  ("fn:endsWith", .fixed 2 fun args => .ok (.bool (args[1].chars.isSuffixOf args[0].chars))),
  ("fn:indexOf", .fixed 2 fun args => .ok (.number (indexOf args[0] args[1]))),
  ("fn:length", .fixed 1 fun args => .ok (.ofNat (length args[0]))),
  ("fn:toLowerCase", .fixed 1 fun args => .ok (.ofChars (Text.lower args[0].chars))),
  ("fn:toUpperCase", .fixed 1 fun args => .ok (.ofChars (Text.upper args[0].chars))),
  ("fn:trim", .fixed 1 fun args => .ok (.ofChars (Text.trim args[0].chars))),
  ("fn:substring", .fixed 3 fun args => substring args[0] args[1] args[2]),
  ("fn:join", .fixed 2 fun args => join args[0] args[1])]

end Library

/-- The table of the standard functions. -/
def FunctionTable.standard : FunctionTable :=
  Dictionary.ofList Library.functions

/-- The functions that a configuration makes available to rules. -/
inductive FunctionLibrary where
  /-- The standard functions. -/
  | standard
  /-- None at all. -/
  | none
  deriving DecidableEq, Repr

/-- The table of a function library. -/
def FunctionLibrary.table : FunctionLibrary → FunctionTable
  | .standard => .standard
  | .none => .empty

end TargetingRules
