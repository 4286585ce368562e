import TargetingRules.Text.Blank

/-!
# The body of a rule

A rule may stand between `${` or `#{` and a closing brace. Its body is what is inside, or the
trimmed text where there are no such delimiters.
-/

namespace TargetingRules

/-- The body of a rule: its characters and the byte position at which they start. -/
structure Body where
  /-- The position of the first byte. -/
  start : Nat
  /-- The characters. -/
  chars : List Char
  deriving DecidableEq, Repr

namespace Body

/-- The position after the last byte of a body. -/
def stop (body : Body) : Nat :=
  body.start + Text.byteLength body.chars

/-- The characters between delimiters that open and close a text. -/
def unwrap? : List Char → Option (List Char)
  | opener :: '\x7b' :: inside =>
    if (opener = '$' ∨ opener = '#') ∧ inside.getLast? = some '\x7d' then some inside.dropLast
    else none
  | _ => none

/-- The body of a text: the inside of its delimiters, or all of it, once trimmed. -/
def of (cs : List Char) : Body :=
  let lead := Text.byteLength (cs.takeWhile Text.isBlank)
  match unwrap? (Text.trim cs) with
  | some inside => ⟨lead + 2, inside⟩
  | none => ⟨lead, Text.trim cs⟩

end Body

/-- A text of blanks alone. -/
def isBlankText (text : String) : Bool :=
  text.toList.all Text.isBlank

/-- A rule whose body is blank. -/
def isEmptyRule (rule : String) : Bool :=
  (Body.of rule.toList).chars.all Text.isBlank

/-- The body of a rule as a text. -/
def stripDelimiters (rule : String) : String :=
  String.ofList (Body.of rule.toList).chars

end TargetingRules
