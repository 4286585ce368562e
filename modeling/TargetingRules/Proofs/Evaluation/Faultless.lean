import TargetingRules.Evaluation.Evaluator
import TargetingRules.Proofs.Evaluation.Ordinary
import TargetingRules.Proofs.Syntax.Printing
import TargetingRules.Proofs.Syntax.Unfolding

/-!
# Evaluation without internal faults

The evaluator looks for operands, images and functions that might be missing. In an expression of the
language whose literals can be read and whose functions are known, none of them is: it fails with
ordinary errors, or where it meets a variable that is not defined or a construct that has no value.
-/

namespace TargetingRules

/-- The text of a literal has a value. -/
def IsReadable (kind : LiteralKind) (image : String) : Prop :=
  ∃ v, kind.evaluate image = .ok v

/-- An expression of the language whose literals have values. -/
abbrev Evaluable : Tree → Prop :=
  Formed (fun _ => True) IsReadable

/-! ## Numbered nodes -/

namespace Tree

theorem operands_eq_map (env : Environment) (ts : List Tree) :
    operands env ts = ts.map (operand env) := by
  induction ts with
  | nil => rfl
  | cons t ts ih => rw [operands, ih, List.map_cons]

end Tree

namespace SyntaxTree

theorem operand_eq {tree : SyntaxTree} (env : Environment) {id : Nat}
    (bound : id < tree.nodes.size) :
    tree.operand env id bound = (tree.unfoldFrom id bound).operand env := by
  induction id using Nat.strongRecOn with
  | ind id ih =>
    have children : (tree.nodes[id].children.attach.map fun child =>
        tree.operand env child.1 (children_lt bound child.1 child.2)) =
          Tree.operands env (tree.nodes[id].children.pmap tree.unfoldFrom (children_lt bound)) := by
      rw [Tree.operands_eq_map, List.map_pmap, List.pmap_eq_map_attach]
      apply List.map_congr_left
      intro child _
      exact ih child.1 (tree.first id bound child.1 child.2) _
    rw [operand, unfoldFrom_eq, Tree.operand]
    simp only [children]

/-- The value of a syntax tree is the value of the expression that it stands for. -/
theorem evaluate_eq_unfold (tree : SyntaxTree) (env : Environment) :
    tree.evaluate env = tree.unfold.evaluate env := by
  rw [evaluate, operand_eq, Tree.evaluate, unfold]

end SyntaxTree

/-! ## Operands -/

namespace Operand

variable {allowed : EvalError → Prop} {operands : List Operand}

theorem failsWith_values
    (each : ∀ operand ∈ operands, FailsWith allowed (operand.value ())) :
    FailsWith allowed (values operands) := by
  unfold values
  induction operands with
  | nil => exact failsWith_pure _
  | cons operand operands ih =>
    simp only [List.forall_mem_cons] at each
    rw [List.mapM_cons]
    exact each.1.bind fun v => (ih each.2).bind fun vs => failsWith_pure _

theorem failsWith_allTrue (ordinary : ∀ e, EvalError.IsOrdinary e → allowed e)
    (each : ∀ operand ∈ operands, FailsWith allowed (operand.value ())) :
    FailsWith allowed (allTrue operands) := by
  induction operands with
  | nil => exact failsWith_ok _
  | cons operand operands ih =>
    simp only [List.forall_mem_cons] at each
    refine each.1.bind fun v => (v.failsOrdinarily_truth.mono ordinary).bind fun b => ?_
    exact .ite (fun _ => ih each.2) fun _ => failsWith_pure _

theorem failsWith_someTrue (ordinary : ∀ e, EvalError.IsOrdinary e → allowed e)
    (each : ∀ operand ∈ operands, FailsWith allowed (operand.value ())) :
    FailsWith allowed (someTrue operands) := by
  induction operands with
  | nil => exact failsWith_ok _
  | cons operand operands ih =>
    simp only [List.forall_mem_cons] at each
    refine each.1.bind fun v => (v.failsOrdinarily_truth.mono ordinary).bind fun b => ?_
    exact .ite (fun _ => failsWith_pure _) fun _ => ih each.2

end Operand

/-! ## Nodes -/

section Nodes

variable {env : Environment} {allowed : EvalError → Prop} {image : Option String}
  {first second third : Operand} {operands : List Operand}

theorem failsWith_call (calls : env.functions.CallsFailWith allowed) {name : String}
    (known : env.functions.contains name = true) (args : List Value) :
    FailsWith allowed (env.functions.call name args) := by
  obtain ⟨function, found⟩ := Option.isSome_iff_exists.mp known
  rw [FunctionTable.call, found]
  exact calls name function found name args

theorem failsWith_literal {kind : LiteralKind} {image : String} (readable : IsReadable kind image) :
    FailsWith allowed (env.evaluate (.literal kind) (some image) operands) := by
  obtain ⟨v, value⟩ := readable
  change FailsWith allowed (kind.evaluate image)
  rw [value]
  exact failsWith_ok v

theorem failsWith_identifier {name : String}
    (undefined : env.resolve name = none → allowed (.unknownIdentifier name)) :
    FailsWith allowed (env.evaluate .identifier (some name) operands) := by
  cases value : env.resolve name with
  | some v =>
    have found : env.evaluate .identifier (some name) operands = .ok v := by
      simp only [Environment.evaluate, requireImage, bind, Except.bind, value]
      rfl
    rw [found]
    exact failsWith_ok v
  | none =>
    have missing :
        env.evaluate .identifier (some name) operands = .error (.unknownIdentifier name) := by
      simp only [Environment.evaluate, requireImage, bind, Except.bind, value]
    rw [missing]
    exact failsWith_error (undefined value)

theorem failsWith_function (calls : env.functions.CallsFailWith allowed) {name : String}
    (known : env.functions.contains name = true)
    (arguments : ∀ operand ∈ operands, FailsWith allowed (operand.value ())) :
    FailsWith allowed (env.evaluate .function (some name) operands) :=
  (Operand.failsWith_values arguments).bind fun args => failsWith_call calls known args

theorem failsWith_list (items : ∀ operand ∈ operands, FailsWith allowed (operand.value ())) :
    FailsWith allowed (env.evaluate .list image operands) :=
  (Operand.failsWith_values items).bind fun _ => failsWith_pure _

variable (ordinary : ∀ e, EvalError.IsOrdinary e → allowed e)

include ordinary

theorem failsWith_flat {ℓ : Grammar.Level} {mark : Mark} {kind : Kind}
    (listed : (mark, kind) ∈ ℓ.flatOperators)
    (each : ∀ operand ∈ operands, FailsWith allowed (operand.value ())) :
    FailsWith allowed (env.evaluate kind image operands) := by
  rcases kind_of_mem_flatOperators listed with rfl | rfl
  · exact (Operand.failsWith_allTrue ordinary each).bind fun _ => failsWith_pure _
  · exact (Operand.failsWith_someTrue ordinary each).bind fun _ => failsWith_pure _

theorem failsWith_binary {ℓ : Grammar.Level} {mark : Mark} {kind : Kind}
    (listed : (mark, kind) ∈ ℓ.leftOperators) (left : FailsWith allowed (first.value ()))
    (right : FailsWith allowed (second.value ())) :
    FailsWith allowed (env.evaluate kind image [first, second]) := by
  rcases kind_of_mem_leftOperators listed with ⟨op, rfl⟩ | ⟨op, rfl⟩ | rfl
  · refine left.bind fun x => right.bind fun y => ?_
    exact ((op.failsOrdinarily_apply x y).mono ordinary).bind fun _ => failsWith_pure _
  · refine left.bind fun x => right.bind fun y => ?_
    exact (op.failsOrdinarily_apply x y).mono ordinary
  · exact left.bind fun x => right.bind fun y => failsWith_pure _

theorem failsWith_prefixed {mark : Mark} {kind : Kind}
    (listed : (mark, kind) ∈ Grammar.prefixOperators) (inner : FailsWith allowed (first.value ())) :
    FailsWith allowed (env.evaluate kind image [first]) := by
  rcases kind_of_mem_prefixOperators listed with rfl | rfl | rfl
  · exact inner.bind fun v => v.failsOrdinarily_negated.mono ordinary
  · exact inner.bind fun v => v.failsOrdinarily_negation.mono ordinary
  · exact inner.bind fun v => failsWith_pure _

theorem failsWith_ternary (condition : FailsWith allowed (first.value ()))
    (whenTrue : FailsWith allowed (second.value ()))
    (whenFalse : FailsWith allowed (third.value ())) :
    FailsWith allowed (env.evaluate .ternary image [first, second, third]) := by
  refine condition.bind fun v => (v.failsOrdinarily_truth.mono ordinary).bind fun b => ?_
  exact .ite (fun _ => whenTrue) fun _ => whenFalse

theorem failsWith_property (target : FailsWith allowed (first.value ())) {name : String}
    (named : second.image = some name) :
    FailsWith allowed (env.evaluate .property image [first, second]) := by
  obtain ⟨kind, _, value, parts⟩ := second
  subst named
  exact target.bind fun v => (v.failsOrdinarily_property name).mono ordinary

theorem failsWith_methodCall (target : FailsWith allowed (first.value ())) {name : String}
    (named : second.image = some name) (arguments : FailsWith allowed (third.parts ())) :
    FailsWith allowed (env.evaluate .methodCall image [first, second, third]) := by
  obtain ⟨kind, _, value, parts⟩ := second
  subst named
  refine target.bind fun v => arguments.bind fun args => ?_
  exact (v.failsOrdinarily_callMethod name args).mono ordinary

theorem failsWith_index (target : FailsWith allowed (first.value ()))
    (position : FailsWith allowed (second.value ())) :
    FailsWith allowed (env.evaluate .index image [first, second]) := by
  refine target.bind fun v => position.bind fun i => ?_
  exact (v.failsOrdinarily_element i).mono ordinary

end Nodes

/-! ## Expressions -/

/-- What an expression needs at a node to fail with allowed errors alone: its function is known, its
variable is defined, and it has a value, unless errors that say otherwise are allowed. -/
structure Admits (env : Environment) (allowed : EvalError → Prop) (t : Tree) : Prop where
  known : t.kind = .function → env.functions.contains (t.image.getD "") = true
  defined : t.kind = .identifier → ∀ name, t.image = some name → env.resolve name = none →
    allowed (.unknownIdentifier name)
  construct : t.kind.construct?.isSome = true → ∀ construct, allowed (.unsupported construct)

section Expressions

variable {env : Environment} {allowed : EvalError → Prop}

theorem Tree.evaluate_node {kind : Kind} {image : Option String} {span : Span}
    {children : List Tree} :
    (node kind image span children).evaluate env = env.evaluate kind image (operands env children) :=
  rfl

theorem self_mem_preorder (t : Tree) : t ∈ t.preorder := by
  cases t
  exact List.mem_cons_self

theorem mem_preorder_of_child {kind : Kind} {image : Option String} {span : Span}
    {children : List Tree} {t s : Tree} (member : t ∈ children) (inside : s ∈ t.preorder) :
    s ∈ (Tree.node kind image span children).preorder := by
  rw [Tree.preorder, Tree.preorderAll_eq]
  exact .tail _ (List.mem_flatten.mpr ⟨_, List.mem_map_of_mem member, inside⟩)

theorem each_operand {children : List Tree}
    (fails : ∀ t ∈ children, FailsWith allowed (t.evaluate env)) :
    ∀ operand ∈ Tree.operands env children, FailsWith allowed (operand.value ()) := by
  intro operand member
  rw [Tree.operands_eq_map] at member
  obtain ⟨t, inside, rfl⟩ := List.mem_map.mp member
  exact fails t inside

/-- An expression of the language fails with ordinary errors, with errors of the functions it calls,
or because it contains a construct without a value or a variable that is not defined. -/
theorem failsWith_evaluate (ordinary : ∀ e, EvalError.IsOrdinary e → allowed e)
    (calls : env.functions.CallsFailWith allowed) {t : Tree} (evaluable : Evaluable t)
    (admits : ∀ s ∈ t.preorder, Admits env allowed s) :
    FailsWith allowed (t.evaluate env) := by
  have child {kind : Kind} {image : Option String} {span : Span} {children : List Tree} {c : Tree}
      (admits : ∀ s ∈ (Tree.node kind image span children).preorder, Admits env allowed s)
      (member : c ∈ children) : ∀ s ∈ c.preorder, Admits env allowed s :=
    fun s inside => admits s (mem_preorder_of_child member inside)
  induction evaluable with
  | identifier isName =>
    have root := admits _ (self_mem_preorder _)
    rw [Tree.evaluate_node]
    exact failsWith_identifier (root.defined rfl _ rfl)
  | literal isLiteral =>
    rw [Tree.evaluate_node]
    exact failsWith_literal isLiteral
  | function isCallee formed ih =>
    have root := admits _ (self_mem_preorder _)
    have arguments := each_operand fun t member => ih t member (child admits member)
    rw [Tree.evaluate_node]
    exact failsWith_function calls (root.known rfl) arguments
  | list formed ih =>
    have items := each_operand fun t member => ih t member (child admits member)
    rw [Tree.evaluate_node]
    exact failsWith_list items
  | flat listed several formed ih =>
    have operands := each_operand fun t member => ih t member (child admits member)
    rw [Tree.evaluate_node]
    exact failsWith_flat ordinary listed operands
  | binary listed first second ih₁ ih₂ =>
    have left := ih₁ (child admits (by simp))
    have right := ih₂ (child admits (by simp))
    rw [Tree.evaluate_node]
    exact failsWith_binary ordinary listed left right
  | prefixed listed inner ih =>
    rw [Tree.evaluate_node]
    exact failsWith_prefixed ordinary listed (ih (child admits (by simp)))
  | ternary first second third ih₁ ih₂ ih₃ =>
    have condition := ih₁ (child admits (by simp))
    have whenTrue := ih₂ (child admits (by simp))
    have whenFalse := ih₃ (child admits (by simp))
    rw [Tree.evaluate_node]
    exact failsWith_ternary ordinary condition whenTrue whenFalse
  | property inner isName ih =>
    rw [Tree.evaluate_node]
    exact failsWith_property ordinary (ih (child admits (by simp))) rfl
  | methodCall inner isName formed ih ihs =>
    have target := ih (child admits (by simp))
    have inside := child admits (.tail _ (.tail _ (.head _)))
    have arguments := each_operand fun t member => ihs t member (child inside member)
    rw [Tree.evaluate_node]
    exact failsWith_methodCall ordinary target rfl (Operand.failsWith_values arguments)
  | index first second ih₁ ih₂ =>
    have target := ih₁ (child admits (by simp))
    have position := ih₂ (child admits (by simp))
    rw [Tree.evaluate_node]
    exact failsWith_index ordinary target position
  | assign first second ih₁ ih₂ =>
    have root := admits _ (self_mem_preorder _)
    exact failsWith_error (root.construct rfl _)
  | arrow names inner ih =>
    have root := admits _ (self_mem_preorder _)
    exact failsWith_error (root.construct rfl _)

end Expressions

end TargetingRules
