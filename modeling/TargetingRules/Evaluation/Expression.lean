import TargetingRules.Evaluation.Evaluator
import TargetingRules.Evaluation.Log
import TargetingRules.Syntax.Reading

/-!
# Compiled expressions

A rule is compiled once: it is read, and every function that it calls anywhere is looked up. A
compiled expression can then be evaluated for any variables, and its value is coerced to the type
that was asked for.
-/

namespace TargetingRules

/-- The type to which the value of an expression is coerced. -/
inductive ResultType where
  | boolean | number | string | any
  deriving DecidableEq, Repr

/-- A value coerced to a result type; null is the number zero. -/
def ResultType.coerce (type : ResultType) (v : Value) : Evaluated :=
  match type with
  | .any => .ok v
  | .boolean => do return .bool (← v.truth)
  | .number => if v.isNull then .ok (.number 0) else do return .number (← v.numeric)
  | .string => .ok (.string v.display)

/-- A syntax tree bound to a function table and a result type. -/
structure Expression where
  /-- The text of the rule. -/
  text : String
  /-- Its syntax tree. -/
  tree : SyntaxTree
  /-- The type of its value. -/
  type : ResultType
  /-- The functions it may call. -/
  functions : FunctionTable

/-- The name of the first function call in pre-order whose function a table lacks. -/
def SyntaxTree.unknownFunction? (tree : SyntaxTree) (functions : FunctionTable) : Option String :=
  let unknown := tree.find? fun node =>
    node.kind == .function && !functions.contains (node.image.getD "")
  unknown.map fun node => node.image.getD ""

namespace Expression

/-- Read a rule and look up the functions that it calls. -/
def compile (functions : FunctionTable) (text : String) (type : ResultType) :
    Logged (Except EvalError Expression) :=
  match SyntaxTree.parse text with
  | .error e => ⟨.error (.parse e), []⟩
  | .ok tree =>
    match tree.unknownFunction? functions with
    | some name => ⟨.error (.unknownFunction name), [.unknownFunction text name]⟩
    | none => ⟨.ok ⟨text, tree, type, functions⟩, []⟩

/-- The value of an expression for the given variables. -/
def evaluate (expression : Expression) (resolve : Resolver) : Evaluated := do
  let v ← expression.tree.evaluate ⟨expression.functions, resolve⟩
  expression.type.coerce v

/-- The value of an expression, read as a truth value. -/
def evaluateBool (expression : Expression) (resolve : Resolver) : Except EvalError Bool := do
  (← expression.evaluate resolve).truth

end Expression

end TargetingRules
