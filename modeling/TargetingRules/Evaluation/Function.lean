import TargetingRules.Evaluation.Failure
import TargetingRules.Text.Quoted

/-!
# Functions and function tables

A function has a fixed number of arguments, which its type then guarantees, or any number of them.
A table binds functions to the qualified names by which rules call them.
-/

namespace TargetingRules

/-- A function on values. -/
inductive Function where
  /-- A function of so many arguments. -/
  | fixed (arity : Nat) (run : Vector Value arity → Evaluated)
  /-- A function of any number of arguments. -/
  | variadic (run : List Value → Evaluated)

namespace Function

/-- The number of arguments, if it is fixed. -/
def arity? : Function → Option Nat
  | .fixed arity _ => some arity
  | .variadic _ => none

/-- The result of a function on arguments, under the name by which it was called. -/
def call (function : Function) (name : String) (args : List Value) : Evaluated :=
  match function with
  | .fixed arity run =>
    if fits : args.length = arity then run ⟨args.toArray, by simpa using fits⟩
    else .error (.arity name arity args.length)
  | .variadic run => run args

/-- The description of a function bound to a name. -/
def describe (function : Function) (name : String) : String :=
  let arity := match function.arity? with
    | some arity => "Some(" ++ toString arity ++ ")"
    | none => "None"
  "FunctionDef \x7b name: " ++ Text.shown name ++ ", arity: " ++ arity ++ " \x7d"

end Function

/-- The functions that rules may call, by qualified name. -/
abbrev FunctionTable := Dictionary Function

/-- The result of calling a function by name. -/
def FunctionTable.call (functions : FunctionTable) (name : String) (args : List Value) :
    Evaluated :=
  match functions.get? name with
  | some function => function.call name args
  | none => .error (.unknownFunction name)

end TargetingRules
