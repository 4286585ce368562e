import TargetingRules.Number.Reading
import TargetingRules.Text.Blank
import TargetingRules.Text.Casing
import TargetingRules.Value.Basic

/-!
# Coercion

Reading a value as a truth value or as a number. What cannot be read so is left to the caller,
who knows which operation wanted it.
-/

namespace TargetingRules.Value

/-- The truth value of a value: null is false, and a text is true only if it spells `true` in any
case of its ASCII letters. -/
def toBool? : Value → Option Bool
  | .bool b => some b
  | .null => some false
  | .string s => some (Text.sameIgnoringAsciiCase s.toList ['t', 'r', 'u', 'e'])
  | _ => none

/-- The number of a value: a text is read as a number once its blanks are trimmed. -/
def toNumber? : Value → Option Float
  | .number x => some x
  | .string s => Number.read? (Text.trim s.toList)
  | _ => none

end TargetingRules.Value
