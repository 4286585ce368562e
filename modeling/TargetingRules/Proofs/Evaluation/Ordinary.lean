import TargetingRules.Evaluation.Method
import TargetingRules.Proofs.Failing

/-!
# How operations on values fail

The errors of evaluation are ordinary ones, which values cause, missing variables, unsupported
constructs, and internal ones, which only a fault of the program could cause. Operations, methods and
the standard functions fail with ordinary errors alone.
-/

namespace TargetingRules

/-- A type fault that no value causes, but a malformed syntax tree. -/
def TypeFault.isStructural : TypeFault → Bool
  | .missingOperand _ _ | .missingImage _ | .notAnExpression _ | .invalidNumber _
  | .invalidString _ => true
  | _ => false

namespace EvalError

/-- An error that no compiled rule may end with. -/
def isInternal : EvalError → Bool
  | .tree _ | .parse _ | .unknownFunction _ => true
  | .typeFault fault => fault.isStructural
  | _ => false

/-- A construct that has no value. -/
def isUnsupported : EvalError → Bool
  | .unsupported _ => true
  | _ => false

/-- A variable that the context lacks. -/
def isUnknownIdentifier : EvalError → Bool
  | .unknownIdentifier _ => true
  | _ => false

/-- An error that is neither internal nor a construct without a value. -/
structure IsForeseen (e : EvalError) : Prop where
  external : e.isInternal = false
  supported : e.isUnsupported = false

/-- An error that the values of operands can cause. -/
structure IsOrdinary (e : EvalError) : Prop extends IsForeseen e where
  known : e.isUnknownIdentifier = false

/-- An error that is no bookkeeping fault of a syntax tree. -/
def NoTreeFault (e : EvalError) : Prop :=
  ∀ fault, e ≠ .tree fault

theorem IsOrdinary.noTreeFault {e : EvalError} (ordinary : e.IsOrdinary) : e.NoTreeFault := by
  rintro fault rfl
  cases ordinary.external

end EvalError

/-- A computation fails, if at all, with an ordinary error. -/
abbrev FailsOrdinarily {α : Type} (result : Except EvalError α) : Prop :=
  FailsWith EvalError.IsOrdinary result

/-! ## Operators -/

namespace Value

theorem failsOrdinarily_truth (v : Value) : FailsOrdinarily v.truth := by
  unfold truth
  split
  next => exact failsWith_ok _
  next => exact failsWith_error ⟨⟨rfl, rfl⟩, rfl⟩

theorem failsOrdinarily_numeric (v : Value) : FailsOrdinarily v.numeric := by
  unfold numeric
  split
  next => exact failsWith_ok _
  next => exact failsWith_error ⟨⟨rfl, rfl⟩, rfl⟩

theorem failsOrdinarily_equals (left right : Value) : FailsOrdinarily (left.equals right) := by
  refine .ite (fun _ => failsWith_ok _) fun _ => .ite (fun _ => ?_) fun _ => .ite (fun _ => ?_) fun _ => ?_
  · exact (failsOrdinarily_numeric left).bind fun x => (failsOrdinarily_numeric right).bind fun y =>
      failsWith_pure _
  · exact (failsOrdinarily_truth left).bind fun a => (failsOrdinarily_truth right).bind fun b =>
      failsWith_pure _
  · exact failsWith_ok _

theorem failsOrdinarily_order (op : CompareOp) (left right : Value) :
    FailsOrdinarily (order op left right) := by
  refine .ite (fun _ => failsWith_error ⟨⟨rfl, rfl⟩, rfl⟩) fun _ => .ite (fun _ => ?_) fun _ => ?_
  · refine (failsOrdinarily_numeric left).bind fun x => (failsOrdinarily_numeric right).bind fun y => ?_
    split
    next => exact failsWith_pure _
    next => exact failsWith_error ⟨⟨rfl, rfl⟩, rfl⟩
  · split
    next => exact failsWith_ok _
    next => exact failsWith_error ⟨⟨rfl, rfl⟩, rfl⟩

theorem failsOrdinarily_negation (v : Value) : FailsOrdinarily v.negation :=
  (failsOrdinarily_truth v).bind fun _ => failsWith_pure _

theorem failsOrdinarily_negated (v : Value) : FailsOrdinarily v.negated :=
  .ite (fun _ => failsWith_error ⟨⟨rfl, rfl⟩, rfl⟩) fun _ =>
    (failsOrdinarily_numeric v).bind fun _ => failsWith_pure _

theorem failsOrdinarily_property (target : Value) (name : String) :
    FailsOrdinarily (target.property name) := by
  unfold property
  split
  next => exact failsWith_ok _
  next => exact failsWith_ok _
  next => exact failsWith_error ⟨⟨rfl, rfl⟩, rfl⟩

theorem failsOrdinarily_element (target index : Value) :
    FailsOrdinarily (target.element index) := by
  refine .ite (fun _ => failsWith_ok _) fun _ => ?_
  split
  next => exact (failsOrdinarily_numeric index).bind fun _ => failsWith_pure _
  next => exact failsWith_ok _
  next => exact failsWith_error ⟨⟨rfl, rfl⟩, rfl⟩

end Value

theorem CompareOp.failsOrdinarily_apply (op : CompareOp) (left right : Value) :
    FailsOrdinarily (op.apply left right) := by
  cases op with
  | equal => exact left.failsOrdinarily_equals right
  | notEqual => exact (left.failsOrdinarily_equals right).map _
  | greater => exact (Value.failsOrdinarily_order _ left right).map _
  | atLeast => exact (Value.failsOrdinarily_order _ left right).map _
  | less => exact (Value.failsOrdinarily_order _ left right).map _
  | atMost => exact (Value.failsOrdinarily_order _ left right).map _

theorem ArithmeticOp.failsOrdinarily_apply (op : ArithmeticOp) (left right : Value) :
    FailsOrdinarily (op.apply left right) := by
  have numbers : ∀ x y, FailsOrdinarily (op.applyNumbers x y) := by
    intro x y
    cases op with
    | add => exact failsWith_ok _
    | sub => exact failsWith_ok _
    | mul => exact failsWith_ok _
    | div => exact .ite (fun _ => failsWith_error ⟨⟨rfl, rfl⟩, rfl⟩) fun _ => failsWith_ok _
    | mod => exact .ite (fun _ => failsWith_error ⟨⟨rfl, rfl⟩, rfl⟩) fun _ => failsWith_ok _
  refine .ite (fun _ => failsWith_error ⟨⟨rfl, rfl⟩, rfl⟩) fun _ => ?_
  exact left.failsOrdinarily_numeric.bind fun x => right.failsOrdinarily_numeric.bind fun y =>
    (numbers x y).bind fun _ => failsWith_pure _

/-! ## Functions -/

/-- A function fails, if at all, with errors that are allowed. -/
def Function.CallsFailWith (allowed : EvalError → Prop) (function : Function) : Prop :=
  ∀ name args, FailsWith allowed (function.call name args)

/-- A function fails with ordinary errors alone. -/
abbrev Function.Ordinary (function : Function) : Prop :=
  function.CallsFailWith EvalError.IsOrdinary

theorem Function.Ordinary.fixed {arity : Nat} {run : Vector Value arity → Evaluated}
    (runs : ∀ args, FailsOrdinarily (run args)) : (Function.fixed arity run).Ordinary := by
  intro name args
  simp only [Function.call]
  split
  next => exact runs _
  next => exact failsWith_error ⟨⟨rfl, rfl⟩, rfl⟩

/-- A function with a result for all arguments fails with nothing but their number. -/
theorem Function.Ordinary.total {arity : Nat} (run : Vector Value arity → Value) :
    (Function.fixed arity fun args => .ok (run args)).Ordinary :=
  .fixed fun _ => failsWith_ok _

/-- Every function of a table fails, if at all, with errors that are allowed. -/
def FunctionTable.CallsFailWith (allowed : EvalError → Prop) (functions : FunctionTable) : Prop :=
  ∀ name function, functions.get? name = some function → function.CallsFailWith allowed

theorem FunctionTable.CallsFailWith.mono {allowed other : EvalError → Prop}
    {functions : FunctionTable} (calls : functions.CallsFailWith allowed)
    (weaker : ∀ e, allowed e → other e) : functions.CallsFailWith other :=
  fun name function found called args => (calls name function found called args).mono weaker

theorem mem_of_lookup {α : Type} {entries : List (String × α)} {name : String} {a : α}
    (found : entries.lookup name = some a) : (name, a) ∈ entries := by
  obtain ⟨before, after, rfl, _⟩ := List.lookup_eq_some_iff.mp found
  exact List.mem_append_right before List.mem_cons_self

namespace Value

theorem ordinary_methods (target : Value) : ∀ entry ∈ target.methods, entry.2.Ordinary := by
  cases target with
  | string s =>
    simp only [methods, stringMethods, List.forall_mem_cons]
    exact ⟨.total _, .total _, .total _, .total _, .total _, .total _, .total _, .total _,
      .total _, .total _, by simp⟩
  | array items =>
    simp only [methods, arrayMethods, List.forall_mem_cons]
    exact ⟨.total _, .total _, .total _, by simp⟩
  | object fields =>
    simp only [methods, objectMethods, List.forall_mem_cons]
    exact ⟨.total _, .total _, .total _, by simp⟩
  | null => simp [methods]
  | bool b => simp [methods]
  | number x => simp [methods]

theorem failsOrdinarily_callMethod (target : Value) (method : String) (args : List Value) :
    FailsOrdinarily (target.callMethod method args) := by
  refine .ite (fun _ => failsWith_error ⟨⟨rfl, rfl⟩, rfl⟩) fun _ => ?_
  split
  next function found => exact target.ordinary_methods _ (mem_of_lookup found) method args
  next => exact failsWith_error ⟨⟨rfl, rfl⟩, rfl⟩

end Value

namespace Library

theorem failsOrdinarily_bound (size default : Nat) (v : Value) :
    FailsOrdinarily (bound size default v) :=
  .ite (fun _ => failsWith_ok _) fun _ =>
    v.failsOrdinarily_numeric.bind fun _ => failsWith_pure _

theorem failsOrdinarily_substring (text first last : Value) :
    FailsOrdinarily (substring text first last) :=
  (failsOrdinarily_bound _ _ first).bind fun _ =>
    (failsOrdinarily_bound _ _ last).bind fun _ => failsWith_pure _

theorem failsOrdinarily_join (list separator : Value) : FailsOrdinarily (join list separator) := by
  unfold join
  split
  next => exact failsWith_ok _
  next => exact failsWith_ok _
  next => exact failsWith_error ⟨⟨rfl, rfl⟩, rfl⟩

theorem ordinary_functions : ∀ entry ∈ functions, entry.2.Ordinary := by
  simp only [functions, List.forall_mem_cons]
  exact ⟨.total _, .total _, .total _, .total _, .total _, .total _, .total _, .total _, .total _,
    .fixed fun _ => failsOrdinarily_substring _ _ _, .fixed fun _ => failsOrdinarily_join _ _,
    by simp⟩

end Library

theorem Dictionary.mem_of_get?_foldl {α : Type} {bindings : List (String × α)} {d : Dictionary α}
    {name : String} {a : α}
    (found : (bindings.foldl (fun d binding => d.insert binding.1 binding.2) d).get? name = some a) :
    d.get? name = some a ∨ (name, a) ∈ bindings := by
  induction bindings generalizing d with
  | nil => exact .inl found
  | cons binding bindings ih =>
    rw [List.foldl_cons] at found
    rcases ih found with earlier | member
    · rw [Dictionary.get?_insert] at earlier
      split at earlier
      next same =>
        cases earlier
        subst same
        exact .inr List.mem_cons_self
      next => exact .inl earlier
    · exact .inr (.tail _ member)

/-- The standard functions fail with ordinary errors alone. -/
theorem FunctionTable.ordinary_standard :
    FunctionTable.standard.CallsFailWith EvalError.IsOrdinary := by
  intro name function found
  rcases Dictionary.mem_of_get?_foldl found with none | member
  · rw [Dictionary.get?_empty] at none
    cases none
  · exact Library.ordinary_functions _ member

end TargetingRules
