import Mathlib.Data.List.Forall2
import TargetingRules.Evaluation.Evaluator
import TargetingRules.Proofs.Evaluation.Agreement
import TargetingRules.Proofs.Syntax.Extents

/-!
# Evaluation and its surroundings

The value of an expression says nothing of the way to it: which operands were evaluated, in which order,
and what else was done there. Here an expression is evaluated in a monad, where looking up a variable or
calling a function may do more than answer. What two expressions have in common in every monad they have
in common to all observers.

The evaluator itself is not a second one: where the surroundings do nothing but answer, the answer is
the value of the expression, by one lemma for all monads (`Surroundings.Reflects.evaluate`).
-/

namespace TargetingRules

/-- Whether nodes of a kind only combine truth values. -/
def Kind.isConnective : Kind → Bool
  | .and | .or | .not => true
  | _ => false

/-! ## Evaluation in a monad -/

section Monad

variable {n : Type → Type} [Monad n] {α β : Type}

/-- A result, as that of a computation in a monad. -/
def concluded (result : Except EvalError α) : ExceptT EvalError n α :=
  ExceptT.mk (pure result)

theorem concluded_ok_bind [LawfulMonad n] (a : α) (next : α → ExceptT EvalError n β) :
    concluded (.ok a) >>= next = next a :=
  pure_bind a next

theorem concluded_error_bind [LawfulMonad n] (e : EvalError) (next : α → ExceptT EvalError n β) :
    concluded (.error e : Except EvalError α) >>= next = concluded (.error e) :=
  ExceptT.ext (pure_bind (.error e : Except EvalError α) _)

theorem concluded_bind [LawfulMonad n] (result : Except EvalError α) (next : α → Except EvalError β) :
    (concluded (result >>= next) : ExceptT EvalError n β) =
      (concluded result >>= fun a => concluded (next a)) := by
  cases result with
  | error e =>
    rw [concluded_error_bind]
    rfl
  | ok a =>
    rw [concluded_ok_bind]
    rfl

/-- The value of a variable that was looked up. -/
def found (name : String) : Option Value → Evaluated
  | some v => .ok v
  | none => .error (.unknownIdentifier name)

/-- What the evaluator leaves to others. -/
structure Surroundings (n : Type → Type) where
  /-- What is done before the value of an expression is found. -/
  enter : Tree → n Unit
  /-- The value of a literal. -/
  literal : LiteralKind → String → ExceptT EvalError n Value
  /-- The value of a variable. -/
  resolve : String → n (Option Value)
  /-- The result of a function. -/
  call : String → List Value → ExceptT EvalError n Value
  /-- The result of a method. -/
  callMethod : Value → String → List Value → ExceptT EvalError n Value

/-- What a node can use of a child. -/
structure Part (n : Type → Type) where
  /-- The kind of the child. -/
  kind : Kind
  /-- The image of the child. -/
  image : Option String
  /-- The value of the child. -/
  value : ExceptT EvalError n Value
  /-- The values of the child's own children, in order. -/
  parts : ExceptT EvalError n (List Value)

namespace Part

/-- The child of a node of the given kind at a position. -/
def nth (kind : Kind) (parts : List (Part n)) (index : Nat) : Except EvalError (Part n) :=
  match parts[index]? with
  | some part => .ok part
  | none => .error (.typeFault (.missingOperand kind index))

/-- The value of the child at a position. -/
def valueAt (kind : Kind) (parts : List (Part n)) (index : Nat) : ExceptT EvalError n Value := do
  (← concluded (nth kind parts index)).value

/-- The values of all parts, in order. -/
def values (parts : List (Part n)) : ExceptT EvalError n (List Value) :=
  parts.mapM Part.value

/-- The truth value of the child. -/
def truth (part : Part n) : ExceptT EvalError n Bool := do
  concluded (← part.value).truth

/-- Whether every part has the truth value `b`, as `b` or not `b`. The parts after the first one that
has not are not evaluated. -/
def chain (b : Bool) : List (Part n) → ExceptT EvalError n Bool
  | [] => pure b
  | part :: rest => do
    let c ← part.truth
    if c = b then chain b rest else return c

end Part

/-- The value of a node over its parts. -/
def Surroundings.evaluate (s : Surroundings n) (kind : Kind) (image : Option String)
    (parts : List (Part n)) : ExceptT EvalError n Value :=
  let value := Part.valueAt kind parts
  match kind with
  | .literal literal => do s.literal literal (← concluded (requireImage kind image))
  | .identifier => do
    let name ← concluded (requireImage kind image)
    concluded (found name (← ExceptT.lift (s.resolve name)))
  | .compare op => do
    let left ← value 0
    let right ← value 1
    return .bool (← concluded (op.apply left right))
  | .and => do return .bool (← Part.chain true parts)
  | .or => do return .bool (← Part.chain false parts)
  | .not => do concluded (← value 0).negation
  | .negate => do concluded (← value 0).negated
  | .empty => do return .bool (← value 0).isEmpty
  | .arithmetic op => do
    let left ← value 0
    let right ← value 1
    concluded (op.apply left right)
  | .concatenation => do
    let left ← value 0
    let right ← value 1
    return left.concatenated right
  | .ternary => do
    let condition ← value 0
    if ← concluded condition.truth then value 1 else value 2
  | .property => do
    let target ← value 0
    let member ← concluded (Part.nth kind parts 1)
    let name ← concluded (requireImage member.kind member.image)
    concluded (target.property name)
  | .index => do
    let target ← value 0
    let index ← value 1
    concluded (target.element index)
  | .methodCall => do
    let target ← value 0
    let member ← concluded (Part.nth kind parts 1)
    let name ← concluded (requireImage member.kind member.image)
    let arguments ← concluded (Part.nth kind parts 2)
    s.callMethod target name (← arguments.parts)
  | .function => do
    let name ← concluded (requireImage kind image)
    s.call name (← Part.values parts)
  | .list => do return .array (← Part.values parts)
  | .assign => throw (.unsupported .assignment)
  | .arrow | .lambdaParameters => throw (.unsupported .lambda)
  | .member | .arguments => throw (.typeFault (.notAnExpression kind))

/-- Before the value of an expression is found, it is entered as it stands, wherever it stands;
connectives are not. -/
def Surroundings.visit (s : Surroundings n) (t : Tree) : ExceptT EvalError n Unit :=
  if t.kind.isConnective then pure () else ExceptT.lift (s.enter t.outline)

namespace Tree

mutual

/-- An expression as a part. -/
def part (s : Surroundings n) : Tree → Part n
  | .node kind image span children =>
    { kind := kind
      image := image
      value := do
        s.visit (.node kind image span children)
        s.evaluate kind image (partsOf s children)
      parts := Part.values (partsOf s children) }

/-- Expressions as parts. -/
def partsOf (s : Surroundings n) : List Tree → List (Part n)
  | [] => []
  | t :: ts => part s t :: partsOf s ts

end

/-- The value of an expression in some surroundings. -/
def evaluateIn (s : Surroundings n) (t : Tree) : ExceptT EvalError n Value :=
  (t.part s).value

theorem partsOf_eq_map (s : Surroundings n) (ts : List Tree) : partsOf s ts = ts.map (part s) := by
  induction ts with
  | nil => rfl
  | cons t ts ih => rw [partsOf, ih, List.map_cons]

theorem evaluateIn_node (s : Surroundings n) (kind : Kind) (image : Option String) (span : Span)
    (children : List Tree) : (node kind image span children).evaluateIn s =
      (s.visit (node kind image span children) >>= fun _ =>
        s.evaluate kind image (partsOf s children)) := rfl

mutual

theorem outline_outline : (t : Tree) → t.outline.outline = t.outline
  | .node kind image span children => by simp only [outline, outlineAll_outlineAll children]

theorem outlineAll_outlineAll : (ts : List Tree) → outlineAll (outlineAll ts) = outlineAll ts
  | [] => rfl
  | t :: ts => by simp only [outlineAll, outline_outline t, outlineAll_outlineAll ts]

end

theorem visit_outline (s : Surroundings n) (t : Tree) : s.visit t.outline = s.visit t := by
  obtain ⟨kind, image, span, children⟩ := t
  rw [Surroundings.visit, outline_outline]
  rfl

mutual

/-- The place of a node in the text plays no part in its value, in any surroundings. -/
theorem part_outline (s : Surroundings n) : (t : Tree) → t.outline.part s = t.part s
  | .node kind image span children => by
    have visit := visit_outline s (.node kind image span children)
    simp only [outline] at visit
    simp only [outline, part, partsOf_outlineAll s children, visit]

theorem partsOf_outlineAll (s : Surroundings n) :
    (ts : List Tree) → partsOf s (outlineAll ts) = partsOf s ts
  | [] => rfl
  | t :: ts => by simp only [outlineAll, partsOf, part_outline s t, partsOf_outlineAll s ts]

end

theorem evaluateIn_eq_of_outline_eq {t t' : Tree} (same : t.outline = t'.outline)
    (s : Surroundings n) : t.evaluateIn s = t'.evaluateIn s := by
  rw [evaluateIn, ← part_outline, same, part_outline, evaluateIn]

end Tree

end Monad

/-! ## Surroundings that reflect an environment -/

namespace Operand

/-- The truth value of an operand. -/
def truth (operand : Operand) : Except EvalError Bool := do
  (← operand.value ()).truth

/-- Whether all operands are true, or whether some are. -/
def chain (b : Bool) (operands : List Operand) : Except EvalError Bool :=
  match b with
  | true => allTrue operands
  | false => someTrue operands

theorem chain_nil (b : Bool) : chain b [] = .ok b := by
  cases b <;> rfl

theorem chain_cons (b : Bool) (operand : Operand) (rest : List Operand) :
    chain b (operand :: rest) = (operand.truth >>= fun c =>
      if c = b then chain b rest else return c) := by
  cases b with
  | true =>
    rw [chain, allTrue, truth, bind_assoc]
    refine bind_congr fun v => bind_congr fun c => ?_
    cases c <;> rfl
  | false =>
    rw [chain, someTrue, truth, bind_assoc]
    refine bind_congr fun v => bind_congr fun c => ?_
    cases c <;> rfl

end Operand

section Reflects

variable {n : Type → Type} [Monad n]

/-- Computations in a monad have results, and so does what the surroundings do: it is what an environment
answers. -/
structure Surroundings.Reflects (s : Surroundings n) (env : Environment)
    (R : (α : Type) → ExceptT EvalError n α → Except EvalError α → Prop) : Prop where
  concluded : ∀ {α : Type} (result : Except EvalError α), R α (concluded result) result
  bind : ∀ {α β : Type} {x : ExceptT EvalError n α} {y : Except EvalError α}
    {f : α → ExceptT EvalError n β} {g : α → Except EvalError β},
      R α x y → (∀ a, R β (f a) (g a)) → R β (x >>= f) (y >>= g)
  enter : ∀ t, R Unit (ExceptT.lift (s.enter t)) (.ok ())
  literal : ∀ kind image, R Value (s.literal kind image) (kind.evaluate image)
  resolve : ∀ name, R (Option Value) (ExceptT.lift (s.resolve name)) (.ok (env.resolve name))
  call : ∀ name args, R Value (s.call name args) (env.functions.call name args)
  callMethod : ∀ target name args, R Value (s.callMethod target name args) (target.callMethod name args)

/-- A part is an operand to see, and what it computes has the results of the operand. -/
structure Part.Mirrors (R : (α : Type) → ExceptT EvalError n α → Except EvalError α → Prop)
    (part : Part n) (operand : Operand) : Prop where
  kind : part.kind = operand.kind
  image : part.image = operand.image
  value : R Value part.value (operand.value ())
  parts : R (List Value) part.parts (operand.parts ())

namespace Surroundings.Reflects

variable {s : Surroundings n} {env : Environment}
  {R : (α : Type) → ExceptT EvalError n α → Except EvalError α → Prop} {α : Type}
  {parts : List (Part n)} {operands : List Operand}

theorem truth (reflects : s.Reflects env R) {part : Part n} {operand : Operand}
    (mirrors : part.Mirrors R operand) : R Bool part.truth operand.truth :=
  reflects.bind mirrors.value fun _ => reflects.concluded _

theorem visit (reflects : s.Reflects env R) (t : Tree) : R Unit (s.visit t) (.ok ()) := by
  unfold Surroundings.visit
  split
  next => exact reflects.concluded (.ok ())
  next => exact reflects.enter t.outline

theorem chain (reflects : s.Reflects env R) (mirrors : List.Forall₂ (Part.Mirrors R) parts operands)
    (b : Bool) : R Bool (Part.chain b parts) (Operand.chain b operands) := by
  induction mirrors with
  | nil =>
    rw [Operand.chain_nil]
    exact reflects.concluded (.ok b)
  | cons same others ih =>
    rw [Operand.chain_cons]
    refine reflects.bind (reflects.truth same) fun c => ?_
    split
    next => exact ih
    next => exact reflects.concluded (.ok c)

variable [LawfulMonad n]

/-- What is done with a child has the results that are found with the operand. -/
theorem nth (reflects : s.Reflects env R) (mirrors : List.Forall₂ (Part.Mirrors R) parts operands)
    (kind : Kind) (index : Nat) {f : Part n → ExceptT EvalError n α} {g : Operand → Except EvalError α}
    (next : ∀ part operand, Part.Mirrors R part operand → R α (f part) (g operand)) :
    R _ (TargetingRules.concluded (Part.nth kind parts index) >>= f)
      (Operand.nth kind operands index >>= g) := by
  have related := Operand.rel_getElem? mirrors index
  unfold Part.nth Operand.nth
  generalize parts[index]? = found, operands[index]? = found' at related
  cases related with
  | none =>
    rw [concluded_error_bind]
    exact reflects.concluded _
  | some same =>
    rw [concluded_ok_bind]
    exact next _ _ same

theorem valueAt (reflects : s.Reflects env R)
    (mirrors : List.Forall₂ (Part.Mirrors R) parts operands) (kind : Kind) (index : Nat) :
    R Value (Part.valueAt kind parts index) (Operand.valueAt kind operands index) :=
  reflects.nth mirrors kind index fun _ _ same => same.value

theorem values (reflects : s.Reflects env R)
    (mirrors : List.Forall₂ (Part.Mirrors R) parts operands) :
    R (List Value) (Part.values parts) (Operand.values operands) := by
  unfold Part.values Operand.values
  induction mirrors with
  | nil => exact reflects.concluded (.ok [])
  | cons same others ih =>
    rw [List.mapM_cons, List.mapM_cons]
    exact reflects.bind same.value fun v => reflects.bind ih fun vs => reflects.concluded (.ok _)

/-- A node over parts has the result of the node over operands. -/
theorem node (reflects : s.Reflects env R) (kind : Kind) (image : Option String)
    (mirrors : List.Forall₂ (Part.Mirrors R) parts operands) :
    R Value (s.evaluate kind image parts) (env.evaluate kind image operands) := by
  have value (kind : Kind) (index : Nat) :
      R Value (Part.valueAt kind parts index) (Operand.valueAt kind operands index) :=
    reflects.valueAt mirrors kind index
  have done {α : Type} (result : Except EvalError α) : R α (TargetingRules.concluded result) result :=
    reflects.concluded result
  have given {α : Type} (a : α) : R α (pure a) (.ok a) := reflects.concluded (.ok a)
  cases kind with
  | literal literal => exact reflects.bind (done _) fun image => reflects.literal literal image
  | identifier =>
    refine reflects.bind (done _) fun name => ?_
    have resolved := reflects.bind (reflects.resolve name) fun v => done (found name v)
    have same : (Except.ok (env.resolve name) >>= found name) =
        match env.resolve name with
        | some v => pure v
        | none => .error (.unknownIdentifier name) := by
      cases env.resolve name <;> rfl
    rwa [same] at resolved
  | compare op =>
    refine reflects.bind (value _ 0) fun left => reflects.bind (value _ 1) fun right => ?_
    exact reflects.bind (done _) fun b => given _
  | and => exact reflects.bind (reflects.chain mirrors true) fun b => given _
  | or => exact reflects.bind (reflects.chain mirrors false) fun b => given _
  | not | negate => exact reflects.bind (value _ 0) fun v => done _
  | empty => exact reflects.bind (value _ 0) fun v => given _
  | arithmetic _ | index =>
    exact reflects.bind (value _ 0) fun left => reflects.bind (value _ 1) fun right => done _
  | concatenation =>
    exact reflects.bind (value _ 0) fun left => reflects.bind (value _ 1) fun right => given _
  | ternary =>
    refine reflects.bind (value _ 0) fun condition => reflects.bind (done _) fun b => ?_
    cases b with
    | true => exact value _ 1
    | false => exact value _ 2
  | property =>
    refine reflects.bind (value _ 0) fun target => ?_
    refine reflects.nth mirrors _ 1 fun member member' same => ?_
    rw [same.kind, same.image]
    exact reflects.bind (done _) fun name => done _
  | methodCall =>
    refine reflects.bind (value _ 0) fun target => ?_
    refine reflects.nth mirrors _ 1 fun member member' same => ?_
    rw [same.kind, same.image]
    refine reflects.bind (done _) fun name => ?_
    refine reflects.nth mirrors _ 2 fun arguments arguments' same' => ?_
    exact reflects.bind same'.parts fun args => reflects.callMethod target name args
  | function =>
    refine reflects.bind (done _) fun name => ?_
    exact reflects.bind (reflects.values mirrors) fun args => reflects.call name args
  | list => exact reflects.bind (reflects.values mirrors) fun items => given _
  | assign | arrow | lambdaParameters | member | arguments => exact done _

theorem part (reflects : s.Reflects env R) (t : Tree) : Part.Mirrors R (t.part s) (t.operand env) := by
  induction t using Tree.induction_children with
  | node kind image span children ih =>
    have below : List.Forall₂ (Part.Mirrors R) (Tree.partsOf s children)
        (Tree.operands env children) := by
      rw [Tree.partsOf_eq_map, Tree.operands_eq_map, List.forall₂_map_left_iff,
        List.forall₂_map_right_iff, List.forall₂_same]
      exact ih
    exact ⟨rfl, rfl, reflects.bind (reflects.visit _) fun _ => reflects.node kind image below,
      reflects.values below⟩

/-- What an expression comes to in its surroundings is its value in the environment. -/
theorem evaluate (reflects : s.Reflects env R) (t : Tree) :
    R Value (t.evaluateIn s) (t.evaluate env) :=
  (reflects.part t).value

end Surroundings.Reflects

end Reflects

end TargetingRules
