import TargetingRules.Evaluation.Library

/-!
# Methods of values

What can be called on a text, a list or an object. A method is a function of its arguments once the
target is known.
-/

namespace TargetingRules.Value

/-- The argument of a method that has one. -/
def argument (args : Vector Value 1) : Value :=
  args.get ⟨0, Nat.one_pos⟩

/-- The methods of a text. -/
def stringMethods (s : String) : List (String × Function) :=
  let cs := s.toList
  [("contains", .fixed 1 fun args => .ok (.bool (Text.occursIn (argument args).chars cs))),
   ("startsWith", .fixed 1 fun args => .ok (.bool ((argument args).chars.isPrefixOf cs))),
   ("endsWith", .fixed 1 fun args => .ok (.bool ((argument args).chars.isSuffixOf cs))),
   ("equals", .fixed 1 fun args => .ok (.bool ((argument args).asString? == some s))),
   ("equalsIgnoreCase", .fixed 1 fun args =>
      .ok (.bool (Text.sameIgnoringAsciiCase cs (argument args).chars))),
   ("toLowerCase", .fixed 0 fun _ => .ok (.ofChars (Text.lower cs))),
   ("toUpperCase", .fixed 0 fun _ => .ok (.ofChars (Text.upper cs))),
   ("trim", .fixed 0 fun _ => .ok (.ofChars (Text.trim cs))),
   ("length", .fixed 0 fun _ => .ok (.ofNat cs.length)),
   ("isEmpty", .fixed 0 fun _ => .ok (.bool s.isEmpty))]

/-- The methods of a list. -/
def arrayMethods (items : List Value) : List (String × Function) :=
  [("contains", .fixed 1 fun args => .ok (.bool (items.any (·.equal (argument args))))),
   ("size", .fixed 0 fun _ => .ok (.ofNat items.length)),
   ("isEmpty", .fixed 0 fun _ => .ok (.bool items.isEmpty))]

/-- The methods of an object. -/
def objectMethods (fields : List (String × Value)) : List (String × Function) :=
  [("containsKey", .fixed 1 fun args => .ok (.bool (fields.lookup (argument args).display).isSome)),
   ("size", .fixed 0 fun _ => .ok (.ofNat fields.length)),
   ("isEmpty", .fixed 0 fun _ => .ok (.bool fields.isEmpty))]

/-- The methods of a value. -/
def methods : Value → List (String × Function)
  | .string s => stringMethods s
  | .array items => arrayMethods items
  | .object fields => objectMethods fields
  | _ => []

/-- The result of a method call. -/
def callMethod (target : Value) (method : String) (args : List Value) : Evaluated :=
  if target.isNull then .error (.nullOperand ("." ++ method ++ "()"))
  else
    match target.methods.lookup method with
    | some function => function.call method args
    | none => .error (.methodNotFound method target.type)

end TargetingRules.Value
