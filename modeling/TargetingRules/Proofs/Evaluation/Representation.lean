import TargetingRules.Proofs.Evaluation.Faultless
import TargetingRules.Proofs.Syntax.Traversal

/-!
# Evaluation and the numbering of nodes

The same expression can be built of numbered nodes in many ways: in different orders, with nodes that
are shared or out of reach of the root. The evaluator follows the numbers. It looks up each of them,
takes whatever operands and images it needs where it needs them, and could meet a number without a node
or go round in circles.

On the nodes that a builder has taken, it ends with the value of the expression or with its error,
complete or not; where nodes stand in the text plays no part either.
-/

namespace TargetingRules

/-- The number of the child at a position. -/
def Node.childAt (node : Node) (index : Nat) : Except EvalError Nat :=
  match node.children[index]? with
  | some child => .ok child
  | none => .error (.typeFault (.missingOperand node.kind index))

namespace SyntaxTree

/-- The node with a number, for the evaluation. -/
def fetch (tree : SyntaxTree) (id : Nat) : Except EvalError Node :=
  (tree.node id).mapError .tree

/-- Evaluate the node with a number, following the numbers of its children. The nodes are looked up, and
nothing says that they are there or that the numbers ever come to an end: an evaluation that goes on for
ever has no value. -/
def evaluateFrom (tree : SyntaxTree) (env : Environment) (id : Nat) :
    ExceptT EvalError Option Value := do
  let node ← settled (tree.fetch id)
  let operand (index : Nat) : ExceptT EvalError Option Value := do
    tree |>.evaluateFrom env (← settled (node.childAt index))
  match node.kind with
  | .literal literal => do
    let image ← settled (requireImage node.kind node.image)
    settled (literal.evaluate image)
  | .identifier => do
    let name ← settled (requireImage node.kind node.image)
    match env.resolve name with
    | some v => return v
    | none => throw (.unknownIdentifier name)
  | .compare op => do
    let left ← operand 0
    let right ← operand 1
    return .bool (← settled (op.apply left right))
  | .and => do
    return .bool (← node.children.allM fun child => do
      settled (← tree |>.evaluateFrom env child).truth)
  | .or => do
    return .bool (← node.children.anyM fun child => do
      settled (← tree |>.evaluateFrom env child).truth)
  | .not => do settled (← operand 0).negation
  | .negate => do settled (← operand 0).negated
  | .empty => do return .bool (← operand 0).isEmpty
  | .arithmetic op => do
    let left ← operand 0
    let right ← operand 1
    settled (op.apply left right)
  | .concatenation => do
    let left ← operand 0
    let right ← operand 1
    return left.concatenated right
  | .ternary => do
    let condition ← operand 0
    if ← settled condition.truth then operand 1 else operand 2
  | .property => do
    let target ← operand 0
    let member ← settled (tree.fetch (← settled (node.childAt 1)))
    let name ← settled (requireImage member.kind member.image)
    settled (target.property name)
  | .index => do
    let target ← operand 0
    let index ← operand 1
    settled (target.element index)
  | .methodCall => do
    let target ← operand 0
    let member ← settled (tree.fetch (← settled (node.childAt 1)))
    let name ← settled (requireImage member.kind member.image)
    let arguments ← settled (tree.fetch (← settled (node.childAt 2)))
    let values ← arguments.children.mapM fun child => tree |>.evaluateFrom env child
    settled (target.callMethod name values)
  | .function => do
    let name ← settled (requireImage node.kind node.image)
    let values ← node.children.mapM fun child => tree |>.evaluateFrom env child
    settled (env.functions.call name values)
  | .list => do
    return .array (← node.children.mapM fun child => tree |>.evaluateFrom env child)
  | .assign => throw (.unsupported .assignment)
  | .arrow | .lambdaParameters => throw (.unsupported .lambda)
  | .member | .arguments => throw (.typeFault (.notAnExpression node.kind))
partial_fixpoint

/-- Evaluate a tree from its root. -/
def evaluateByNumber (tree : SyntaxTree) (env : Environment) : ExceptT EvalError Option Value :=
  tree.evaluateFrom env tree.root

end SyntaxTree

/-! ## Operands by number -/

theorem evaluate_identifier (env : Environment) (name : String) (operands : List Operand) :
    env.evaluate .identifier (some name) operands =
      match env.resolve name with
      | some v => .ok v
      | none => .error (.unknownIdentifier name) :=
  rfl

namespace SyntaxTree

variable {tree : SyntaxTree} {env : Environment}

/-- The node with a number can be used like an operand. -/
structure Serves (tree : SyntaxTree) (env : Environment) (id : Nat) (operand : Operand) : Prop where
  /-- It has the value of the operand. -/
  value : tree.evaluateFrom env id = settled (operand.value ())
  /-- It is there, and its parts have the values of the operand's parts. -/
  node : ∃ node, tree.fetch id = .ok node ∧ node.kind = operand.kind ∧ node.image = operand.image ∧
    node.children.mapM (tree.evaluateFrom env) = settled (operand.parts ())

section Operands

variable {ids : List Nat} {operands : List Operand}
  (serve : List.Forall₂ (tree.Serves env) ids operands)
include serve

theorem mapM_evaluateFrom :
    ids.mapM (tree.evaluateFrom env) = settled (Operand.values operands) := by
  induction serve with
  | nil => rfl
  | cons first others ih =>
    rw [Operand.values] at ih ⊢
    simp only [List.mapM_cons, first.value, ih, pure_eq_settled, settled_bind]
    rfl

theorem allM_evaluateFrom :
    (ids.allM fun id => do settled (← tree.evaluateFrom env id).truth) =
      settled (Operand.allTrue operands) := by
  induction serve with
  | nil => rfl
  | @cons id operand ids operands first others ih =>
    have unfolded : Operand.allTrue (operand :: operands) =
        (operand.value () >>= Value.truth) >>= fun b =>
          if b then Operand.allTrue operands else return false := by
      rw [bind_assoc]
      rfl
    simp only [List.allM, first.value, settled_bind, unfolded]
    cases operand.value () >>= Value.truth with
    | error e => rfl
    | ok b =>
      cases b with
      | true => exact ih
      | false => rfl

theorem anyM_evaluateFrom :
    (ids.anyM fun id => do settled (← tree.evaluateFrom env id).truth) =
      settled (Operand.someTrue operands) := by
  induction serve with
  | nil => rfl
  | @cons id operand ids operands first others ih =>
    have unfolded : Operand.someTrue (operand :: operands) =
        (operand.value () >>= Value.truth) >>= fun b =>
          if b then return true else Operand.someTrue operands := by
      rw [bind_assoc]
      rfl
    simp only [List.anyM, first.value, settled_bind, unfolded]
    cases operand.value () >>= Value.truth with
    | error e => rfl
    | ok b =>
      cases b with
      | true => rfl
      | false => exact ih

end Operands

section Nodes

variable {node : Node} {operands : List Operand}
  (serve : List.Forall₂ (tree.Serves env) node.children operands)
include serve

/-- A child is there just where an operand is, and serves as that operand. -/
theorem childAt_serves (index : Nat) :
    (∃ id operand, node.childAt index = .ok id ∧ Operand.nth node.kind operands index = .ok operand ∧
        tree.Serves env id operand) ∨
      ∃ e, node.childAt index = .error e ∧ Operand.nth node.kind operands index = .error e := by
  unfold Node.childAt Operand.nth
  rcases Nat.lt_or_ge index node.children.length with inside | outside
  · have inside' : index < operands.length := serve.length_eq ▸ inside
    rw [List.getElem?_eq_getElem inside, List.getElem?_eq_getElem inside']
    exact .inl ⟨_, _, rfl, rfl, serve.get inside inside'⟩
  · have outside' : operands.length ≤ index := serve.length_eq ▸ outside
    rw [List.getElem?_eq_none outside, List.getElem?_eq_none outside']
    exact .inr ⟨_, rfl, rfl⟩

theorem evaluateFrom_childAt (index : Nat) :
    (settled (node.childAt index) >>= tree.evaluateFrom env) =
      settled (Operand.valueAt node.kind operands index) := by
  unfold Operand.valueAt
  rcases childAt_serves serve index with ⟨id, operand, child, nth, serves⟩ | ⟨e, child, nth⟩
  · rw [child, nth]
    exact serves.value
  · rw [child, nth]
    rfl

/-- A node fetched for its image or its own children gives what the operand gives. -/
theorem fetch_childAt {α : Type} (index : Nat) {next : Node → ExceptT EvalError Option α}
    {next' : Operand → ExceptT EvalError Option α}
    (same : ∀ member operand, member.kind = operand.kind → member.image = operand.image →
      member.children.mapM (tree.evaluateFrom env) = settled (operand.parts ()) →
      next member = next' operand) :
    (settled (node.childAt index) >>= fun id => settled (tree.fetch id) >>= next) =
      settled (Operand.nth node.kind operands index) >>= next' := by
  rcases childAt_serves serve index with ⟨id, operand, child, nth, serves⟩ | ⟨e, child, nth⟩
  · obtain ⟨member, found, kind, image, parts⟩ := serves.node
    rw [child, nth, settled_ok_bind, found]
    exact same member operand kind image parts
  · rw [child, nth]
    rfl

/-- An evaluation by number gives a node its one meaning. -/
theorem evaluateFrom_eq {id : Nat} (found : tree.fetch id = .ok node) :
    tree.evaluateFrom env id = settled (env.evaluate node.kind node.image operands) := by
  have operand := evaluateFrom_childAt serve
  have all := allM_evaluateFrom serve
  have any := anyM_evaluateFrom serve
  have values := mapM_evaluateFrom serve
  rw [evaluateFrom, found, settled_ok_bind]
  obtain ⟨kind, image, span, children⟩ := node
  simp only [operand, all, any, values, pure_eq_settled, throw_eq_settled, settled_bind]
  cases kind
  case identifier =>
    cases image with
    | none => rfl
    | some name =>
      rw [evaluate_identifier]
      simp only [requireImage, settled_ok_bind]
      cases env.resolve name <;> rfl
  case ternary =>
    simp only [← apply_ite settled, settled_bind]
    rfl
  case property =>
    simp only [Environment.evaluate, ← settled_bind]
    refine bind_congr fun target => ?_
    refine fetch_childAt serve 1 fun member operand kind image _ => ?_
    rw [kind, image]
  case methodCall =>
    simp only [Environment.evaluate, ← settled_bind]
    refine bind_congr fun target => ?_
    refine fetch_childAt serve 1 fun member operand kind image _ => ?_
    rw [kind, image]
    refine bind_congr fun name => ?_
    refine fetch_childAt serve 2 fun member operand _ _ parts => ?_
    rw [parts]
  all_goals rfl

end Nodes

theorem fetch_eq {id : Nat} (bound : id < tree.nodes.size) : tree.fetch id = .ok tree.nodes[id] := by
  rw [fetch, node_eq_ok bound]
  rfl

/-- Every number of a node serves as the operand that the expression under it is: the children of a
node come before it. -/
theorem serves {id : Nat} (bound : id < tree.nodes.size) :
    tree.Serves env id ((tree.unfoldFrom id bound).operand env) := by
  induction id using Nat.strongRecOn with
  | ind id ih =>
    have found := fetch_eq bound
    have serve : List.Forall₂ (tree.Serves env) tree.nodes[id].children
        (Tree.operands env (tree.nodes[id].children.pmap tree.unfoldFrom (children_lt bound))) := by
      rw [Tree.operands_eq_map, List.map_pmap]
      refine List.forall₂_iff_get.mpr ⟨List.length_pmap.symm, fun position inside _ => ?_⟩
      simp only [List.get_eq_getElem, List.getElem_pmap]
      exact ih _ (tree.first id bound _ (List.getElem_mem inside)) _
    rw [unfoldFrom_eq, Tree.operand]
    constructor
    case value => exact evaluateFrom_eq serve found
    case node => exact ⟨_, found, rfl, rfl, mapM_evaluateFrom serve⟩

/-- An evaluation by number comes to an end, with the value of the expression or its error. -/
theorem evaluateByNumber_eq (tree : SyntaxTree) (env : Environment) :
    tree.evaluateByNumber env = settled (tree.unfold.evaluate env) :=
  (serves tree.root_lt).value

end SyntaxTree

/-! ## Outlines -/

namespace Tree

mutual

/-- The place of a node in the text plays no part in its value. -/
theorem operand_outline (env : Environment) : (t : Tree) → t.outline.operand env = t.operand env
  | .node kind image span children => by
    simp only [outline, operand, operands_outlineAll env children]

theorem operands_outlineAll (env : Environment) :
    (ts : List Tree) → operands env (outlineAll ts) = operands env ts
  | [] => rfl
  | t :: ts => by
    simp only [outlineAll, operands, operand_outline env t, operands_outlineAll env ts]

end

theorem evaluate_eq_of_outline_eq {t t' : Tree} (same : t.outline = t'.outline) (env : Environment) :
    t.evaluate env = t'.evaluate env := by
  rw [evaluate, ← operand_outline, same, operand_outline, evaluate]

end Tree

/-! ## Different numberings -/

namespace TreeBuilder

/-- Two trees that builders were finished to, of whatever nodes offered in whatever order, have one value
or one error if the same expression hangs from their roots. It is the one that recursion over the
expression gives, and following the numbers of either tree ends with it. -/
theorem evaluateByNumber_of_finish {nodes nodes' : List Node} {root root' : Nat}
    {tree tree' : SyntaxTree} : (empty.offerAll nodes).2.finish root = .ok tree →
      (empty.offerAll nodes').2.finish root' = .ok tree' →
      tree.unfold.outline = tree'.unfold.outline → ∀ env : Environment,
        tree.evaluateByNumber env = settled (tree.unfold.evaluate env) ∧
          tree'.evaluateByNumber env = settled (tree.unfold.evaluate env) ∧
          tree.evaluate env = tree.unfold.evaluate env ∧
          tree'.evaluate env = tree.unfold.evaluate env := by
  intro _ _ same env
  have value := Tree.evaluate_eq_of_outline_eq same env
  refine ⟨tree.evaluateByNumber_eq env, ?_, tree.evaluate_eq_unfold env, ?_⟩
  · rw [tree'.evaluateByNumber_eq, value]
  · rw [tree'.evaluate_eq_unfold, value]

/-- A list out of reach, a variable, the same variable again, and the conjunction of the two. -/
def repeating : List Node := [
  ⟨.list, none, ⟨0, 2⟩, []⟩, ⟨.identifier, some "a", ⟨3, 4⟩, []⟩, ⟨.identifier, some "a", ⟨8, 9⟩, []⟩,
  ⟨.and, none, ⟨3, 9⟩, [1, 2]⟩]

/-- The conjunction of two nodes. -/
def repeated : SyntaxTree where
  nodes := repeating.toArray
  root := 3
  root_lt := by decide
  first := (empty.offerAll repeating).2.first

theorem unfold_shared : shared.unfold = .node .and none ⟨0, 6⟩
    [.node .identifier (some "a") ⟨0, 1⟩ [], .node .identifier (some "a") ⟨0, 1⟩ []] := by
  simp [SyntaxTree.unfold, SyntaxTree.unfoldFrom_eq, shared]

theorem unfold_repeated : repeated.unfold = .node .and none ⟨3, 9⟩
    [.node .identifier (some "a") ⟨3, 4⟩ [], .node .identifier (some "a") ⟨8, 9⟩ []] := by
  simp [SyntaxTree.unfold, SyntaxTree.unfoldFrom_eq, repeated, repeating]

/-- The standard functions, and no variables. -/
def undefined : Environment := ⟨.standard, fun _ => none⟩

/-- A variable without a value is missed alike where both sides of a conjunction share it and where it
stands there twice. -/
theorem evaluate_shared_eq_repeated :
    (empty.offerAll sharing).2.finish 1 = .ok shared ∧
      (empty.offerAll repeating).2.finish 3 = .ok repeated ∧
      shared.evaluateByNumber undefined = settled (.error (.unknownIdentifier "a")) ∧
      repeated.evaluateByNumber undefined = settled (.error (.unknownIdentifier "a")) := by
  have finished : (empty.offerAll sharing).2.finish 1 = .ok shared := rfl
  have finished' : (empty.offerAll repeating).2.finish 3 = .ok repeated := rfl
  have same : shared.unfold.outline = repeated.unfold.outline := by
    rw [unfold_shared, unfold_repeated]
    rfl
  have missed : shared.unfold.evaluate undefined = .error (.unknownIdentifier "a") := by
    rw [unfold_shared]
    rfl
  have one := evaluateByNumber_of_finish finished finished' same undefined
  rw [missed] at one
  exact ⟨finished, finished', one.1, one.2.1⟩

end TreeBuilder

end TargetingRules
