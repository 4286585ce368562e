import TargetingRules.Proofs.Validation.ByNumber
import TargetingRules.Proofs.Validation.Compiled

/-!
# Internal faults are out of reach

Reading, compiling, evaluating and validating each have errors that stand for a fault of the program
and not of the rule: a syntax tree with a missing node, a node without the operand or the image it
needs, a literal that does not decode, a function that got lost after compilation. No text causes
them, whatever the variables are, as long as no function reports them of its own accord. Nor does a
rule that passes the form check end with a construct that has no value.

A missing node can come up only where the numbers of nodes are followed. That it does not is said of
both: of the definitions that need no numbers, and of the loops and lookups that go by them.
-/

namespace TargetingRules

/-- What a rejection says is the author's concern. -/
def Rejection.IsAuthored (rejection : Rejection) : Prop :=
  match rejection.defect with
  | .internal _ => False
  | _ => True

/-- No number that is followed on the way from a rule to the answer is one that no node has. Whatever is
done comes to an end. -/
structure Validator.FollowsNumbers (validator : Validator) (beyond : Assembler Nat) (rule : String) :
    Prop where
  /-- Pushing the nodes of the rule fails for its text alone. -/
  read : ∀ fault, SyntaxTree.assemble beyond rule ≠ .error (.tree fault)
  /-- The walk over the nodes that looks up functions is not stopped by a fault. -/
  compiled : ∀ type, EndsWithin EvalError.NoTreeFault
    (Expression.compileByNumber beyond validator.functions rule type)
  /-- Evaluation ends with no internal error. -/
  evaluated : ∀ type expression,
    Expression.compileByNumber beyond validator.functions rule type = pure expression → ∀ resolve,
      EndsWithin (fun e => e.isInternal = false) (expression.evaluateByNumber resolve) ∧
        EndsWithin (fun e => e.isInternal = false) (expression.evaluateBoolByNumber resolve)
  /-- Once the form of the rule is checked, no construct in it lacks a value. -/
  supported : validator.checkSyntaxByNumber beyond rule = pure () → ∀ type expression,
    Expression.compileByNumber beyond validator.functions rule type = pure expression → ∀ resolve,
      EndsWithin (fun e => e.isUnsupported = false) (expression.evaluateByNumber resolve) ∧
        EndsWithin (fun e => e.isUnsupported = false) (expression.evaluateBoolByNumber resolve)
  /-- Checking the form of the rule rejects nothing for a fault of the validator. -/
  checked : EndsWithin Rejection.IsAuthored (validator.checkSyntaxByNumber beyond rule)
  /-- Nor does validating it, with its searches for missing variables and among the leaves. -/
  validated : ∀ context, EndsWithin Rejection.IsAuthored (validator.validateByNumber beyond rule context)
  /-- Nor does verifying it. -/
  verified : ∀ context, EndsWithin Rejection.IsAuthored (validator.verifyByNumber beyond rule context)

/-- Nothing that is done with a rule brings a fault of the program to light. -/
structure Validator.FaultFree (validator : Validator) (rule : String) : Prop where
  /-- Reading the rule fails for its text alone. -/
  read : ∀ fault, SyntaxTree.parse rule ≠ .error (.tree fault)
  /-- The nodes of its syntax tree can be added one by one. -/
  numbered : ∀ tree, SyntaxTree.parse rule = .ok tree →
    ∃ builder, TreeBuilder.empty.pushAll tree.nodes.toList = .ok builder ∧
      builder.finish tree.root = .ok tree
  /-- Compiling the rule meets no bookkeeping fault. -/
  compiled : ∀ type fault,
    (Expression.compile validator.functions rule type).value ≠ .error (.tree fault)
  /-- What it compiles to ends with no internal error. -/
  evaluated : ∀ type expression,
    (Expression.compile validator.functions rule type).value = .ok expression →
      ∀ resolve e, expression.evaluate resolve = .error e ∨ expression.evaluateBool resolve = .error e →
        e.isInternal = false
  /-- Once the form of the rule is checked, no construct in it lacks a value. -/
  supported : validator.checkSyntax rule = .ok () → ∀ type expression,
    (Expression.compile validator.functions rule type).value = .ok expression →
      ∀ resolve e, expression.evaluate resolve = .error e ∨ expression.evaluateBool resolve = .error e →
        e.isUnsupported = false
  /-- Checking the form of the rule rejects nothing for a fault of the validator. -/
  checked : FailsWith Rejection.IsAuthored (validator.checkSyntax rule)
  /-- Nor does validating it. -/
  validated : ∀ context, FailsWith Rejection.IsAuthored (validator.validate rule context)
  /-- Nor does verifying it. -/
  verified : ∀ context, FailsWith Rejection.IsAuthored (validator.verify rule context)
  /-- So it is where the numbers of nodes are followed, whatever is read beyond the nesting that is
  allowed. -/
  numbers : ∀ beyond, validator.FollowsNumbers beyond rule

namespace Validator

variable {validator : Validator} {rule : String}

theorem authored_compile (validator : Validator) (rule : String) :
    FailsWith Rejection.IsAuthored (validator.compile rule).value := by
  refine (validator.formal_compile rule).mono fun rejection formal => ?_
  obtain ⟨text, defect⟩ := rejection
  cases defect with
  | internal fault => exact formal.elim
  | _ => trivial

theorem authored_ofEvalError {e : EvalError} (external : e.isInternal = false) :
    (Rejection.ofEvalError rule e).IsAuthored := by
  cases e with
  | tree fault => cases external
  | _ => trivial

theorem authored_evaluate {expression : Expression} {context : Context}
    (external : FailsWith (fun e => e.isInternal = false) (expression.evaluateBool context.resolve)) :
    FailsWith Rejection.IsAuthored (evaluate expression context).value := by
  unfold evaluate
  split
  next name undefined => exact failsWith_error trivial
  next =>
    split
    next b value => exact failsWith_ok _
    next e failed =>
      split
      next ignored => exact failsWith_ok _
      next unexcused => exact failsWith_error (authored_ofEvalError (external e failed))

theorem authored_checkSyntax (validator : Validator) (rule : String) :
    FailsWith Rejection.IsAuthored (validator.checkSyntax rule) := by
  unfold checkSyntax auditSyntax
  split
  next => exact failsWith_ok _
  next => exact (validator.authored_compile rule).map _

theorem authored_validate (calls : validator.functions.CallsFailWith fun e => e.isInternal = false)
    (rule : String) (context : Context) :
    FailsWith Rejection.IsAuthored (validator.validate rule context) := by
  have compiles := validator.authored_compile rule
  unfold validate audit
  split
  next => exact failsWith_ok _
  next =>
    dsimp only
    split
    next rejection failed => exact failsWith_error (compiles rejection failed)
    next expression compiled =>
      split
      next =>
        obtain ⟨compiled, supported⟩ := compile_eq_ok compiled
        apply authored_evaluate
        exact Expression.failsWith_evaluateBool compiled (fun e ordinary => ordinary.external) calls
          (.inl supported) fun _ _ _ => rfl
      next => exact failsWith_ok _

/-- The form check sees every construct that evaluation could stop at. -/
theorem disallowed?_of_checkSyntax (passed : validator.checkSyntax rule = .ok ()) {type : ResultType}
    {expression : Expression}
    (compiled : (Expression.compile validator.functions rule type).value = .ok expression) :
    expression.tree.disallowed? = none := by
  obtain ⟨t, parsed, known, rfl⟩ := Expression.compile_eq_ok_iff.mp compiled
  have visible := Tree.not_isEmptyRule_of_parse parsed
  unfold checkSyntax auditSyntax at passed
  rw [if_neg (Bool.eq_false_iff.mp visible)] at passed
  cases conditions : (validator.compile rule).value with
  | error rejection =>
    simp only [conditions] at passed
    cases passed
  | ok expression =>
    obtain ⟨compiled', supported⟩ := compile_eq_ok conditions
    obtain ⟨t', parsed', _, rfl⟩ := Expression.compile_eq_ok_iff.mp compiled'
    rw [parsed] at parsed'
    cases parsed'
    exact supported

section Foreseen

variable {type : ResultType} {expression : Expression}
  (foreseen : validator.functions.CallsFailWith EvalError.IsForeseen)
  (compiled : (Expression.compile validator.functions rule type).value = .ok expression)
  (resolve : Resolver)
include foreseen compiled

/-- Evaluation meets none of the faults that would be the evaluator's own. -/
theorem external_evaluate :
    FailsWith (fun e => e.isInternal = false) (expression.evaluate resolve) ∧
      FailsWith (fun e => e.isInternal = false) (expression.evaluateBool resolve) := by
  have external := foreseen.mono fun e isForeseen => isForeseen.external
  constructor
  · exact Expression.failsWith_evaluate compiled (fun e ordinary => ordinary.external) external
      (.inr fun construct => rfl) fun _ _ _ => rfl
  · exact Expression.failsWith_evaluateBool compiled (fun e ordinary => ordinary.external) external
      (.inr fun construct => rfl) fun _ _ _ => rfl

/-- Nor does it stop at a construct once the form of the rule is checked. -/
theorem supported_evaluate (passed : validator.checkSyntax rule = .ok ()) :
    FailsWith (fun e => e.isUnsupported = false) (expression.evaluate resolve) ∧
      FailsWith (fun e => e.isUnsupported = false) (expression.evaluateBool resolve) := by
  have supported := disallowed?_of_checkSyntax passed compiled
  constructor
  · exact (Expression.failsWith_evaluate compiled (fun e ordinary => ordinary.toIsForeseen) foreseen
      (.inl supported) fun _ _ _ => ⟨rfl, rfl⟩).mono fun e isForeseen => isForeseen.supported
  · exact (Expression.failsWith_evaluateBool compiled (fun e ordinary => ordinary.toIsForeseen) foreseen
      (.inl supported) fun _ _ _ => ⟨rfl, rfl⟩).mono fun e isForeseen => isForeseen.supported

end Foreseen

theorem noTreeFault_compile (validator : Validator) (rule : String) (type : ResultType) :
    FailsWith EvalError.NoTreeFault (Expression.compile validator.functions rule type).value := by
  refine (Expression.failsWith_compile _ _ _).mono fun e reason fault same => ?_
  rcases reason with ⟨p, rfl, _⟩ | ⟨name, rfl⟩
  · cases same
  · cases same

/-- Following numbers has the outcomes that there are without them, so it meets no fault either. -/
theorem followsNumbers (foreseen : validator.functions.CallsFailWith EvalError.IsForeseen)
    (beyond : Assembler Nat) (rule : String) : validator.FollowsNumbers beyond rule := by
  have external := foreseen.mono fun e isForeseen => isForeseen.external
  constructor
  case read =>
    intro fault failed
    rw [SyntaxTree.assemble_eq_parse] at failed
    exact SyntaxTree.textual_parse rule _ failed
  case compiled =>
    intro type
    rw [Expression.compileByNumber_eq]
    exact (validator.noTreeFault_compile rule type).endsWithin
  case evaluated =>
    intro type expression compiled resolve
    rw [Expression.compileByNumber_eq, settled_eq_pure_iff] at compiled
    obtain ⟨value, truth⟩ := external_evaluate foreseen compiled resolve
    rw [Expression.evaluateByNumber_eq, Expression.evaluateBoolByNumber_eq]
    exact ⟨value.endsWithin, truth.endsWithin⟩
  case supported =>
    intro passed type expression compiled resolve
    rw [checkSyntaxByNumber_eq, settled_eq_pure_iff] at passed
    rw [Expression.compileByNumber_eq, settled_eq_pure_iff] at compiled
    obtain ⟨value, truth⟩ := supported_evaluate foreseen compiled resolve passed
    rw [Expression.evaluateByNumber_eq, Expression.evaluateBoolByNumber_eq]
    exact ⟨value.endsWithin, truth.endsWithin⟩
  case checked =>
    rw [checkSyntaxByNumber_eq]
    exact (validator.authored_checkSyntax rule).endsWithin
  case validated =>
    intro context
    rw [validateByNumber_eq]
    exact (validator.authored_validate external rule context).endsWithin
  case verified =>
    intro context
    rw [verifyByNumber_eq]
    exact ((validator.authored_validate external rule context).map _).endsWithin

/-- Where functions report neither internal errors nor unsupported constructs, no fault of the program
comes to light for any rule, any variables and any absent names. -/
theorem faultFree (validator : Validator)
    (foreseen : validator.functions.CallsFailWith EvalError.IsForeseen) (rule : String) :
    validator.FaultFree rule := by
  have external := foreseen.mono fun e isForeseen => isForeseen.external
  constructor
  case read =>
    intro fault failed
    exact SyntaxTree.textual_parse rule _ failed
  case numbered =>
    intro tree _
    exact tree.pushAll_nodes
  case compiled =>
    intro type fault failed
    exact validator.noTreeFault_compile rule type _ failed fault rfl
  case evaluated =>
    intro type expression compiled resolve e failed
    obtain ⟨value, truth⟩ := external_evaluate foreseen compiled resolve
    rcases failed with failed | failed
    · exact value e failed
    · exact truth e failed
  case supported =>
    intro passed type expression compiled resolve e failed
    obtain ⟨value, truth⟩ := supported_evaluate foreseen compiled resolve passed
    rcases failed with failed | failed
    · exact value e failed
    · exact truth e failed
  case checked => exact validator.authored_checkSyntax rule
  case validated => exact validator.authored_validate external rule
  case verified =>
    intro context
    exact (validator.authored_validate external rule context).map _
  case numbers =>
    intro beyond
    exact followsNumbers foreseen beyond rule

theorem foreseen_standard : FunctionTable.standard.CallsFailWith EvalError.IsForeseen :=
  FunctionTable.ordinary_standard.mono fun _ => EvalError.IsOrdinary.toIsForeseen

/-- The standard functions can be called with anything, and be it a lambda. -/
theorem faultFree_standard_lambda :
    FunctionTable.standard.CallsFailWith EvalError.IsForeseen ∧
      Validator.standard.FaultFree "fn:join(x -> -1, 'a')" :=
  ⟨foreseen_standard, faultFree .standard foreseen_standard _⟩

end Validator

end TargetingRules
