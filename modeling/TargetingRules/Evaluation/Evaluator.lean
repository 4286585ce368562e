import TargetingRules.Evaluation.Method
import TargetingRules.Syntax.Arena

/-!
# The value of an expression

`Environment.evaluate` says what a node means, given its operands as computations that it may or
may not run. A syntax tree is evaluated by following the numbers of its nodes, and an expression by
recursion on itself; both give every node that one meaning.
-/

namespace TargetingRules

/-- The values of variables by name. -/
abbrev Resolver := String → Option Value

/-- Variables as their owner answers for them. Evaluation asks for values alone; whether a variable is
defined is a question of its own. -/
structure Scope where
  /-- The value of a variable. -/
  resolve : Resolver
  /-- Whether a variable is defined, whatever its value. -/
  isDefined : String → Bool

namespace Scope

/-- Where the owner gives values alone, the variables that have one are defined. -/
def ofResolver (resolve : Resolver) : Scope :=
  ⟨resolve, fun name => (resolve name).isSome⟩

instance : Coe Resolver Scope := ⟨ofResolver⟩

/-- What an owner has to see to: the defined variables are those that have a value. -/
def Lawful (scope : Scope) : Prop :=
  ∀ name, scope.isDefined name = (scope.resolve name).isSome

theorem lawful_ofResolver (resolve : Resolver) : (ofResolver resolve).Lawful := fun _ => rfl

theorem Lawful.isDefined_eq_false_iff {scope : Scope} (lawful : scope.Lawful) {name : String} :
    scope.isDefined name = false ↔ scope.resolve name = none := by
  rw [lawful name, Option.isSome_eq_false_iff, Option.isNone_iff_eq_none]

end Scope

/-- The variables that a dictionary holds. -/
def Variables.scope (bindings : Variables) : Scope :=
  ⟨bindings.get?, bindings.contains⟩

theorem Variables.lawful_scope (bindings : Variables) : bindings.scope.Lawful := fun _ => rfl

/-- Everything outside an expression that its value depends on. -/
structure Environment where
  /-- The functions that may be called. -/
  functions : FunctionTable
  /-- The variables. -/
  resolve : Resolver

/-- What a node can use of a child. -/
structure Operand where
  /-- The kind of the child. -/
  kind : Kind
  /-- The image of the child. -/
  image : Option String
  /-- The value of the child. -/
  value : Unit → Evaluated
  /-- The values of the child's own children, in order. -/
  parts : Unit → Except EvalError (List Value)

namespace Operand

/-- The child of a node of the given kind at a position. -/
def nth (kind : Kind) (operands : List Operand) (index : Nat) : Except EvalError Operand :=
  match operands[index]? with
  | some operand => .ok operand
  | none => .error (.typeFault (.missingOperand kind index))

/-- The value of the child at a position. -/
def valueAt (kind : Kind) (operands : List Operand) (index : Nat) : Evaluated := do
  (← nth kind operands index).value ()

/-- The values of all operands, in order. -/
def values (operands : List Operand) : Except EvalError (List Value) :=
  operands.mapM fun operand => operand.value ()

/-- Whether every operand is true; those after the first false one are not evaluated. -/
def allTrue : List Operand → Except EvalError Bool
  | [] => .ok true
  | operand :: rest => do
    let v ← operand.value ()
    if ← v.truth then allTrue rest else return false

/-- Whether some operand is true; those after the first true one are not evaluated. -/
def someTrue : List Operand → Except EvalError Bool
  | [] => .ok false
  | operand :: rest => do
    let v ← operand.value ()
    if ← v.truth then return true else someTrue rest

end Operand

/-- The image that a node of the given kind needs. -/
def requireImage (kind : Kind) : Option String → Except EvalError String
  | some image => .ok image
  | none => .error (.typeFault (.missingImage kind))

/-- The value of a literal. -/
def LiteralKind.evaluate (kind : LiteralKind) (image : String) : Evaluated :=
  match kind with
  | .null => .ok .null
  | .boolean => .ok (.bool (image == "true"))
  | .number =>
    match Number.read? image.toList with
    | some x => .ok (.number x)
    | none => .error (.typeFault (.invalidNumber image))
  | .string =>
    match Text.unquote? image.toList with
    | some cs => .ok (.ofChars cs)
    | none => .error (.typeFault (.invalidString image))

/-- The value of a node over its operands. -/
def Environment.evaluate (env : Environment) (kind : Kind) (image : Option String)
    (operands : List Operand) : Evaluated :=
  let value := Operand.valueAt kind operands
  match kind with
  | .literal literal => do literal.evaluate (← requireImage kind image)
  | .identifier => do
    let name ← requireImage kind image
    match env.resolve name with
    | some v => return v
    | none => .error (.unknownIdentifier name)
  | .compare op => do
    let left ← value 0
    let right ← value 1
    return .bool (← op.apply left right)
  | .and => do return .bool (← Operand.allTrue operands)
  | .or => do return .bool (← Operand.someTrue operands)
  | .not => do (← value 0).negation
  | .negate => do (← value 0).negated
  | .empty => do return .bool (← value 0).isEmpty
  | .arithmetic op => do
    let left ← value 0
    let right ← value 1
    op.apply left right
  | .concatenation => do
    let left ← value 0
    let right ← value 1
    return left.concatenated right
  | .ternary => do
    let condition ← value 0
    if ← condition.truth then value 1 else value 2
  | .property => do
    let target ← value 0
    let member ← Operand.nth kind operands 1
    target.property (← requireImage member.kind member.image)
  | .index => do
    let target ← value 0
    let index ← value 1
    target.element index
  | .methodCall => do
    let target ← value 0
    let member ← Operand.nth kind operands 1
    let name ← requireImage member.kind member.image
    let arguments ← Operand.nth kind operands 2
    target.callMethod name (← arguments.parts ())
  | .function => do
    let name ← requireImage kind image
    env.functions.call name (← Operand.values operands)
  | .list => do return .array (← Operand.values operands)
  | .assign => .error (.unsupported .assignment)
  | .arrow | .lambdaParameters => .error (.unsupported .lambda)
  | .member | .arguments => .error (.typeFault (.notAnExpression kind))

namespace SyntaxTree

/-- A node of a syntax tree as an operand. -/
def operand (tree : SyntaxTree) (env : Environment) (id : Nat) (bound : id < tree.nodes.size) :
    Operand :=
  let node := tree.nodes[id]
  let operands : Unit → List Operand := fun _ =>
    node.children.attach.map fun ⟨child, member⟩ =>
      have earlier : child < id := tree.first id bound child member
      tree.operand env child (Nat.lt_trans earlier bound)
  { kind := node.kind
    image := node.image
    value := fun _ => env.evaluate node.kind node.image (operands ())
    parts := fun _ => Operand.values (operands ()) }
termination_by id

/-- The value of a syntax tree. -/
def evaluate (tree : SyntaxTree) (env : Environment) : Evaluated :=
  (tree.operand env tree.root tree.root_lt).value ()

end SyntaxTree

namespace Tree

mutual

/-- An expression as an operand. -/
def operand (env : Environment) : Tree → Operand
  | .node kind image _ children =>
    { kind := kind
      image := image
      value := fun _ => env.evaluate kind image (operands env children)
      parts := fun _ => Operand.values (operands env children) }

/-- Expressions as operands. -/
def operands (env : Environment) : List Tree → List Operand
  | [] => []
  | t :: ts => operand env t :: operands env ts

end

/-- The value of an expression. -/
def evaluate (t : Tree) (env : Environment) : Evaluated :=
  (t.operand env).value ()

end Tree

end TargetingRules
