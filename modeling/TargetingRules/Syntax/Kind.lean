/-!
# Kinds of syntax nodes

The closed set of node kinds with their operators, and the constructs that the grammar accepts but
that a targeting rule must not use.
-/

namespace TargetingRules

/-- Kinds of literals. -/
inductive LiteralKind where
  | string | number | boolean | null
  deriving DecidableEq, Repr

/-- Comparison operators. -/
inductive CompareOp where
  | equal | notEqual | greater | atLeast | less | atMost
  deriving DecidableEq, Repr

/-- Arithmetic operators. -/
inductive ArithmeticOp where
  | add | sub | mul | div | mod
  deriving DecidableEq, Repr

/-- Kinds of syntax nodes. -/
inductive Kind where
  /-- A variable; its image is the name. -/
  | identifier
  /-- A literal; its image is the source text. -/
  | literal (kind : LiteralKind)
  /-- A comparison of two operands. -/
  | compare (op : CompareOp)
  /-- A conjunction with one child per operand. -/
  | and
  /-- A disjunction with one child per operand. -/
  | or
  /-- A negated condition. -/
  | not
  /-- A negated number. -/
  | negate
  /-- The test for an empty value. -/
  | empty
  /-- An arithmetic operation on two operands. -/
  | arithmetic (op : ArithmeticOp)
  /-- A condition and its two alternatives. -/
  | ternary
  /-- A target and the member read from it. -/
  | property
  /-- A name after a point; its image is the name. -/
  | member
  /-- A target and the index read from it. -/
  | index
  /-- A target, the member called on it and its arguments. -/
  | methodCall
  /-- A function call; its image is the qualified name and its children are the arguments. -/
  | function
  /-- The arguments of a method call. -/
  | arguments
  /-- A list of items. -/
  | list
  /-- An assignment. -/
  | assign
  /-- A concatenation. -/
  | concatenation
  /-- A lambda: its parameters and its body. -/
  | arrow
  /-- The parameters of a lambda. -/
  | lambdaParameters
  deriving DecidableEq, Repr

/-- Constructs of the grammar that targeting rules must not use. -/
inductive Construct where
  | assignment | concatenation | arrow
  deriving DecidableEq, Repr

/-- The name of a literal kind in descriptions. -/
def LiteralKind.label : LiteralKind → String
  | .string => "String"
  | .number => "Number"
  | .boolean => "Boolean"
  | .null => "Null"

namespace CompareOp

/-- The symbol of an operator. -/
def symbol : CompareOp → String
  | .equal => "=="
  | .notEqual => "!="
  | .greater => ">"
  | .atLeast => ">="
  | .less => "<"
  | .atMost => "<="

/-- Whether an operator needs an order and not only equality. -/
def isOrdering : CompareOp → Bool
  | .equal | .notEqual => false
  | _ => true

/-- The name of an operator in descriptions. -/
def label : CompareOp → String
  | .equal => "Eq"
  | .notEqual => "Ne"
  | .greater => "Gt"
  | .atLeast => "Ge"
  | .less => "Lt"
  | .atMost => "Le"

end CompareOp

namespace ArithmeticOp

/-- The symbol of an operator. -/
def symbol : ArithmeticOp → String
  | .add => "+"
  | .sub => "-"
  | .mul => "*"
  | .div => "/"
  | .mod => "%"

/-- The name of an operator in descriptions. -/
def label : ArithmeticOp → String
  | .add => "Add"
  | .sub => "Sub"
  | .mul => "Mul"
  | .div => "Div"
  | .mod => "Mod"

end ArithmeticOp

namespace Construct

/-- The operator that an author typed for a construct. -/
def operator : Construct → String
  | .assignment => "="
  | .concatenation => "+="
  | .arrow => "->"

/-- The name of a construct. -/
def name : Construct → String
  | .assignment => "assignment"
  | .concatenation => "concatenation"
  | .arrow => "arrow"

end Construct

namespace Kind

/-- The construct that a kind stands for, if rules must not use it. -/
def construct? : Kind → Option Construct
  | .assign => some .assignment
  | .concatenation => some .concatenation
  | .arrow => some .arrow
  | _ => none

/-- Whether a kind is that of a variable. -/
def isIdentifier : Kind → Bool
  | .identifier => true
  | _ => false

/-- The name of a kind in messages. -/
def describe : Kind → String
  | .identifier => "Identifier"
  | .literal kind => "Literal(" ++ kind.label ++ ")"
  | .compare op => "Compare(" ++ op.label ++ ")"
  | .and => "And"
  | .or => "Or"
  | .not => "Not"
  | .negate => "Negate"
  | .empty => "Empty"
  | .arithmetic op => "Arithmetic(" ++ op.label ++ ")"
  | .ternary => "Ternary"
  | .property => "Property"
  | .member => "Member"
  | .index => "Index"
  | .methodCall => "MethodCall"
  | .function => "Function"
  | .arguments => "Arguments"
  | .list => "List"
  | .assign => "Assign"
  | .concatenation => "Concatenation"
  | .arrow => "Arrow"
  | .lambdaParameters => "LambdaParameters"

end Kind

end TargetingRules
