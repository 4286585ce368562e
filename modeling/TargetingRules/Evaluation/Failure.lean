import TargetingRules.Syntax.Failure
import TargetingRules.Syntax.Kind
import TargetingRules.Value.Basic

/-!
# Failures of evaluation

Why an expression cannot be compiled or has no value, as causes, with the messages that say so.
-/

namespace TargetingRules

/-- Values and nodes that do not fit the operation they meet. -/
inductive TypeFault where
  /-- A node lacks an operand. -/
  | missingOperand (kind : Kind) (index : Nat)
  /-- A node lacks the image that names it. -/
  | missingImage (kind : Kind)
  /-- A node is only a part of another one. -/
  | notAnExpression (kind : Kind)
  /-- A number literal spells no number. -/
  | invalidNumber (image : String)
  /-- A string literal is not a complete quoted text. -/
  | invalidString (image : String)
  /-- A value has no elements. -/
  | notIndexable (type : ValueType)
  /-- Two numbers have no order. -/
  | unordered (x y : Float)
  /-- Two types have no order. -/
  | incomparable (left right : ValueType) (op : CompareOp)
  /-- A function wants a list. -/
  | notAnArray (function : String) (type : ValueType)
  /-- A fault that an application's own function reports. -/
  | reported (message : String)

/-- The message of a type fault. -/
def TypeFault.message : TypeFault → String
  | .missingOperand kind index => kind.describe ++ " node is missing operand " ++ toString index
  | .missingImage kind => kind.describe ++ " node has no source text"
  | .notAnExpression kind => kind.describe ++ " node cannot be evaluated on its own"
  | .invalidNumber image => "Invalid number literal '" ++ image ++ "'"
  | .invalidString image => "Invalid string literal " ++ image
  | .notIndexable type => "Cannot index into " ++ type.name
  | .unordered x y => "Cannot order " ++ Number.text x ++ " and " ++ Number.text y
  | .incomparable left right op =>
    "Cannot compare " ++ left.name ++ " and " ++ right.name ++ " with " ++ op.symbol
  | .notAnArray function type => function ++ " expects an array, got " ++ type.name
  | .reported message => message

/-- Constructs that have no value in a context that can only be read. -/
inductive Unsupported where
  | assignment | lambda
  deriving DecidableEq, Repr

/-- The text of an unsupported construct. -/
def Unsupported.text : Unsupported → String
  | .assignment => "assignment to a read-only context"
  | .lambda => "lambda expression"

/-- Why an expression cannot be compiled or has no value. -/
inductive EvalError where
  /-- The text is not an expression. -/
  | parse (error : ParseError)
  /-- A function that the table lacks. -/
  | unknownFunction (name : String)
  /-- A variable that the context lacks. -/
  | unknownIdentifier (name : String)
  /-- A null operand of an operation that needs a value. -/
  | nullOperand (operation : String)
  /-- A value that cannot be read as the wanted type. -/
  | coercion (value : Value) (target : ValueType)
  /-- A value or node that does not fit. -/
  | typeFault (fault : TypeFault)
  /-- A division or remainder by zero. -/
  | divisionByZero
  /-- A property of a value without properties. -/
  | propertyNotFound (property : String) (type : ValueType)
  /-- A method that a value does not have. -/
  | methodNotFound (method : String) (type : ValueType)
  /-- A call with the wrong number of arguments. -/
  | arity (name : String) (expected actual : Nat)
  /-- A construct without a value. -/
  | unsupported (construct : Unsupported)
  /-- A bookkeeping fault of the syntax tree. -/
  | tree (fault : TreeError)

namespace EvalError

/-- The message of an evaluation error. -/
def message : EvalError → String
  | .parse error => "Parse error: " ++ error.message
  | .unknownFunction name => "Function '" ++ name ++ "' is not defined"
  | .unknownIdentifier name => "Identifier '" ++ name ++ "' cannot be resolved"
  | .nullOperand operation => "Cannot apply '" ++ operation ++ "' to null"
  | .coercion value target =>
    "Cannot coerce " ++ value.type.name ++ " '" ++ value.display ++ "' to " ++ target.name
  | .typeFault fault => "Type error: " ++ fault.message
  | .divisionByZero => "Division by zero"
  | .propertyNotFound property type => "Property '" ++ property ++ "' not found on " ++ type.name
  | .methodNotFound method type => "Method '" ++ method ++ "' not found on " ++ type.name
  | .arity name expected actual =>
    "'" ++ name ++ "' expects " ++ toString expected ++ " argument(s), got " ++ toString actual
  | .unsupported construct => "Unsupported construct: " ++ construct.text
  | .tree fault => "Syntax tree error: " ++ fault.message

/-- Whether an error arises before evaluation starts. -/
def isCompileError : EvalError → Bool
  | .parse _ | .unknownFunction _ => true
  | _ => false

end EvalError

/-- A value, or why there is none. -/
abbrev Evaluated := Except EvalError Value

end TargetingRules
