import Mathlib.Data.List.Forall2
import TargetingRules.Evaluation.Expression
import TargetingRules.Proofs.Evaluation.Faultless

/-!
# Evaluation in two environments

An expression is evaluated twice, with functions and variables that need not be the same. Where the
environments agree on what the nodes of the expression name, the results are the same. Where they
differ in variables that the first one lacks, the results are still the same unless the first
evaluation stopped at such a variable: short circuits and failures of other operands are met in the
same order both times.

Nothing is assumed of the expression, which may lack operands and images.
-/

namespace TargetingRules

/-! ## Two computations -/

/-- Two computations have the same result, unless the first one fails with an error that is
excused. -/
def AgreeUnless {ε α : Type} (excused : ε → Prop) (first second : Except ε α) : Prop :=
  first = second ∨ ∃ e, first = .error e ∧ excused e

section AgreeUnless

variable {ε α β : Type} {excused : ε → Prop}

theorem AgreeUnless.refl (x : Except ε α) : AgreeUnless excused x x :=
  .inl rfl

theorem AgreeUnless.bind {x y : Except ε α} {f g : α → Except ε β}
    (first : AgreeUnless excused x y) (second : ∀ a, AgreeUnless excused (f a) (g a)) :
    AgreeUnless excused (x >>= f) (y >>= g) := by
  rcases first with rfl | ⟨e, rfl, isExcused⟩
  · cases x with
    | error e => exact .refl _
    | ok a => exact second a
  · exact .inr ⟨e, rfl, isExcused⟩

theorem AgreeUnless.ite {p : Prop} [Decidable p] {x y x' y' : Except ε α}
    (holds : AgreeUnless excused x x') (fails : AgreeUnless excused y y') :
    AgreeUnless excused (if p then x else y) (if p then x' else y') := by
  split
  next => exact holds
  next => exact fails

/-- Where nothing is excused, the results are the same. -/
theorem AgreeUnless.eq {x y : Except ε α} (agree : AgreeUnless excused x y)
    (none : ∀ e, ¬ excused e) : x = y := by
  rcases agree with same | ⟨e, _, isExcused⟩
  · exact same
  · exact absurd isExcused (none e)

end AgreeUnless

/-! ## Operands -/

namespace Operand

variable {excused : EvalError → Prop} {α : Type} {operands operands' : List Operand}

/-- Two operands are the same to see, and what they compute agrees. -/
structure Agree (excused : EvalError → Prop) (first second : Operand) : Prop where
  kind : first.kind = second.kind
  image : first.image = second.image
  value : AgreeUnless excused (first.value ()) (second.value ())
  parts : AgreeUnless excused (first.parts ()) (second.parts ())

theorem rel_getElem? {β γ : Type} {R : β → γ → Prop} {xs : List β} {ys : List γ}
    (related : List.Forall₂ R xs ys) (index : Nat) : Option.Rel R xs[index]? ys[index]? := by
  induction related generalizing index with
  | nil => exact .none
  | cons same others ih =>
    cases index with
    | zero => exact .some same
    | succ index => exact ih index

/-- What is done with a child agrees if it agrees for operands that do. -/
theorem agreeUnless_nth (agree : List.Forall₂ (Agree excused) operands operands') (kind : Kind)
    (index : Nat) {f g : Operand → Except EvalError α}
    (next : ∀ first second, Agree excused first second → AgreeUnless excused (f first) (g second)) :
    AgreeUnless excused (nth kind operands index >>= f) (nth kind operands' index >>= g) := by
  have related := rel_getElem? agree index
  unfold nth
  generalize operands[index]? = found, operands'[index]? = found' at related
  cases related with
  | none => exact .refl _
  | some same => exact next _ _ same

theorem agreeUnless_valueAt (agree : List.Forall₂ (Agree excused) operands operands') (kind : Kind)
    (index : Nat) :
    AgreeUnless excused (valueAt kind operands index) (valueAt kind operands' index) :=
  agreeUnless_nth agree kind index fun _ _ same => same.value

theorem agreeUnless_values (agree : List.Forall₂ (Agree excused) operands operands') :
    AgreeUnless excused (values operands) (values operands') := by
  unfold values
  induction agree with
  | nil => exact .refl _
  | cons same others ih =>
    rw [List.mapM_cons, List.mapM_cons]
    exact same.value.bind fun v => ih.bind fun vs => .refl _

theorem agreeUnless_allTrue (agree : List.Forall₂ (Agree excused) operands operands') :
    AgreeUnless excused (allTrue operands) (allTrue operands') := by
  induction agree with
  | nil => exact .refl _
  | cons same others ih =>
    refine same.value.bind fun v => (AgreeUnless.refl v.truth).bind fun b => ?_
    exact .ite ih (.refl _)

theorem agreeUnless_someTrue (agree : List.Forall₂ (Agree excused) operands operands') :
    AgreeUnless excused (someTrue operands) (someTrue operands') := by
  induction agree with
  | nil => exact .refl _
  | cons same others ih =>
    refine same.value.bind fun v => (AgreeUnless.refl v.truth).bind fun b => ?_
    exact .ite (.refl _) ih

end Operand

/-! ## Nodes -/

/-- Two environments agree on what the root of an expression names, except for a variable that the
first one lacks, if the error that says so is excused. -/
structure Environment.AgreeAt (excused : EvalError → Prop) (env env' : Environment) (t : Tree) :
    Prop where
  resolves : t.kind = .identifier → ∀ name, t.image = some name →
    env.resolve name = env'.resolve name ∨
      env.resolve name = none ∧ excused (.unknownIdentifier name)
  calls : t.kind = .function → ∀ name, t.image = some name →
    env.functions.get? name = env'.functions.get? name

section Nodes

variable {excused : EvalError → Prop} {env env' : Environment} {image : Option String}
  {span : Span} {children : List Tree} {operands operands' : List Operand}

theorem agreeUnless_identifier
    (root : Environment.AgreeAt excused env env' (.node .identifier image span children)) :
    AgreeUnless excused (env.evaluate .identifier image operands)
      (env'.evaluate .identifier image operands') := by
  cases image with
  | none => exact .refl _
  | some name =>
    simp only [Environment.evaluate, requireImage, bind, Except.bind]
    rcases root.resolves rfl name rfl with same | ⟨missing, isExcused⟩
    · rw [same]
      exact .refl _
    · rw [missing]
      exact .inr ⟨_, rfl, isExcused⟩

theorem agreeUnless_function
    (root : Environment.AgreeAt excused env env' (.node .function image span children))
    (agree : List.Forall₂ (Operand.Agree excused) operands operands') :
    AgreeUnless excused (env.evaluate .function image operands)
      (env'.evaluate .function image operands') := by
  cases image with
  | none => exact .refl _
  | some name =>
    have same := root.calls rfl name rfl
    refine (Operand.agreeUnless_values agree).bind fun args => ?_
    rw [FunctionTable.call, FunctionTable.call, same]
    exact .refl _

/-- The step of the simulation: a node over operands that agree. -/
theorem Environment.agreeUnless_evaluate {kind : Kind}
    (root : AgreeAt excused env env' (.node kind image span children))
    (agree : List.Forall₂ (Operand.Agree excused) operands operands') :
    AgreeUnless excused (env.evaluate kind image operands) (env'.evaluate kind image operands') := by
  have value (kind : Kind) (index : Nat) :
      AgreeUnless excused (Operand.valueAt kind operands index)
        (Operand.valueAt kind operands' index) := Operand.agreeUnless_valueAt agree kind index
  cases kind with
  | identifier => exact agreeUnless_identifier root
  | function => exact agreeUnless_function root agree
  | literal _ | assign | arrow | lambdaParameters | member | arguments => exact .refl _
  | compare _ | arithmetic _ | concatenation | index =>
    exact (value _ 0).bind fun left => (value _ 1).bind fun right => .refl _
  | not | negate | empty => exact (value _ 0).bind fun v => .refl _
  | and => exact (Operand.agreeUnless_allTrue agree).bind fun _ => .refl _
  | or => exact (Operand.agreeUnless_someTrue agree).bind fun _ => .refl _
  | ternary =>
    refine (value _ 0).bind fun condition => (AgreeUnless.refl condition.truth).bind fun b => ?_
    exact .ite (value _ 1) (value _ 2)
  | property =>
    refine (value _ 0).bind fun target => ?_
    refine Operand.agreeUnless_nth agree _ 1 fun member member' same => ?_
    rw [same.kind, same.image]
    exact .refl _
  | methodCall =>
    refine (value _ 0).bind fun target => ?_
    refine Operand.agreeUnless_nth agree _ 1 fun member member' same => ?_
    rw [same.kind, same.image]
    refine (AgreeUnless.refl _).bind fun name => ?_
    refine Operand.agreeUnless_nth agree _ 2 fun arguments arguments' parts => ?_
    exact parts.parts.bind fun args => .refl _
  | list => exact (Operand.agreeUnless_values agree).bind fun _ => .refl _

end Nodes

/-! ## Expressions -/

namespace Tree

variable {excused : EvalError → Prop} {env env' : Environment}

mutual

theorem agree_operand : (t : Tree) →
    (∀ s ∈ t.preorder, Environment.AgreeAt excused env env' s) →
      Operand.Agree excused (t.operand env) (t.operand env')
  | .node kind image span children, agree => by
    have root := agree _ (self_mem_preorder _)
    have below := agree_operands children fun s inside => agree s (.tail _ inside)
    exact ⟨rfl, rfl, Environment.agreeUnless_evaluate root below, Operand.agreeUnless_values below⟩

theorem agree_operands : (ts : List Tree) →
    (∀ s ∈ preorderAll ts, Environment.AgreeAt excused env env' s) →
      List.Forall₂ (Operand.Agree excused) (operands env ts) (operands env' ts)
  | [], _ => .nil
  | t :: ts, agree =>
    .cons (agree_operand t fun s inside => agree s (List.mem_append_left _ inside))
      (agree_operands ts fun s inside => agree s (List.mem_append_right _ inside))

end

/-- Where two environments agree on what an expression names, so do its values, unless the first
evaluation stops at a variable that is excused. -/
theorem agreeUnless_evaluate {t : Tree}
    (agree : ∀ s ∈ t.preorder, Environment.AgreeAt excused env env' s) :
    AgreeUnless excused (t.evaluate env) (t.evaluate env') :=
  (t.agree_operand agree).value

end Tree

/-! ## More variables -/

namespace Resolver

variable {more resolve : Resolver}

/-- Every variable that the other resolver has, has the same value here. -/
def Extends (more resolve : Resolver) : Prop :=
  ∀ name v, resolve name = some v → more name = some v

/-- An error says that a variable is missing which is defined here. -/
def Supplies (more : Resolver) (e : EvalError) : Prop :=
  ∃ name v, e = .unknownIdentifier name ∧ more name = some v

theorem Extends.eq_or_supplies (extension : more.Extends resolve) (name : String) :
    resolve name = more name ∨ resolve name = none ∧ more.Supplies (.unknownIdentifier name) := by
  cases before : resolve name with
  | some v => exact .inl (extension name v before).symm
  | none =>
    cases now : more name with
    | none => exact .inl rfl
    | some v => exact .inr ⟨rfl, name, v, rfl, now⟩

end Resolver

/-- With more variables an expression keeps its value and its error, unless the error is that a
variable is missing which is now defined. -/
theorem Tree.agreeUnless_of_extends {more resolve : Resolver} (extension : more.Extends resolve)
    (functions : FunctionTable) (t : Tree) :
    AgreeUnless more.Supplies (t.evaluate ⟨functions, resolve⟩) (t.evaluate ⟨functions, more⟩) :=
  agreeUnless_evaluate fun _ _ => ⟨fun _ name _ => extension.eq_or_supplies name, fun _ _ _ => rfl⟩

namespace Expression

variable {more resolve : Resolver}

theorem agreeUnless_evaluate (extension : more.Extends resolve) (expression : Expression) :
    AgreeUnless more.Supplies (expression.evaluate resolve) (expression.evaluate more) := by
  have value := expression.tree.unfold.agreeUnless_of_extends extension expression.functions
  rw [← SyntaxTree.evaluate_eq_unfold, ← SyntaxTree.evaluate_eq_unfold] at value
  exact value.bind fun _ => .refl _

theorem agreeUnless_evaluateBool (extension : more.Extends resolve) (expression : Expression) :
    AgreeUnless more.Supplies (expression.evaluateBool resolve) (expression.evaluateBool more) :=
  (agreeUnless_evaluate extension expression).bind fun _ => .refl _

end Expression

end TargetingRules
