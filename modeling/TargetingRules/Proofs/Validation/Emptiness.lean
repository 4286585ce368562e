import TargetingRules.Proofs.Validation.Decision
import TargetingRules.Proofs.Validation.FormCheck

/-!
# Empty rules

The validator looks for an empty rule before it reads the rule, by trimming the body; the parser finds
a rule empty if its body has no tokens. The two agree on every text, so that the answer for an empty
rule is given by the first look alone: no rule is ever rejected as malformed for being empty.
-/

namespace TargetingRules

/-- What a rejection says is that there is nothing in the rule. -/
def Rejection.IsOfEmptiness (rejection : Rejection) : Prop :=
  rejection.defect = .malformed (.parse .empty)

theorem SyntaxTree.parse_eq_empty_iff {rule : String} :
    SyntaxTree.parse rule = .error .empty ↔ isEmptyRule rule = true := by
  rw [← Tree.parse_eq_empty_iff, SyntaxTree.parse]
  cases Tree.parse rule with
  | error e => simp [Except.map]
  | ok t => simp [Except.map]

namespace Validator

variable {validator : Validator} {rule : String}

/-- A rule that is not found empty at first is not found empty when it is compiled. -/
theorem visible_compile (visible : isEmptyRule rule = false) :
    FailsWith (fun rejection => ¬ rejection.IsOfEmptiness) (validator.compile rule).value := by
  rw [compile_value]
  cases parsed : Tree.parse rule with
  | error e =>
    refine failsWith_error fun isOfEmptiness => ?_
    cases isOfEmptiness
    rw [Tree.parse_eq_empty_iff.mp parsed] at visible
    cases visible
  | ok t =>
    dsimp only
    cases t.callees.find? fun name => !validator.functions.contains name with
    | some name => exact failsWith_error nofun
    | none =>
      cases t.constructs.head? with
      | some construct => exact failsWith_error nofun
      | none => exact failsWith_ok _

/-- Evaluation finds no rule empty, and rejects none as malformed. -/
theorem visible_evaluate (expression : Expression) (context : Context) :
    FailsWith (fun rejection => ¬ rejection.IsOfEmptiness) (evaluate expression context).value ∧
      (evaluate expression context).value ≠ .ok .empty := by
  unfold evaluate
  split
  next name undefined => exact ⟨failsWith_error nofun, nofun⟩
  next =>
    split
    next b value => exact ⟨failsWith_ok _, nofun⟩
    next e failed =>
      split
      next ignored => exact ⟨failsWith_ok _, nofun⟩
      next unexcused =>
        refine ⟨failsWith_error fun isOfEmptiness => ?_, nofun⟩
        cases e <;> cases isOfEmptiness

theorem visible_checkSyntax (validator : Validator) (rule : String) :
    FailsWith (fun rejection => ¬ rejection.IsOfEmptiness) (validator.checkSyntax rule) := by
  cases empty : isEmptyRule rule with
  | true =>
    rw [checkSyntax_of_isEmptyRule empty]
    exact failsWith_ok _
  | false =>
    rw [checkSyntax_of_visible empty]
    exact (visible_compile empty).map _

theorem visible_validate (validator : Validator) (visible : isEmptyRule rule = false)
    (context : Context) :
    FailsWith (fun rejection => ¬ rejection.IsOfEmptiness) (validator.validate rule context) ∧
      validator.validate rule context ≠ .ok .empty := by
  rw [validate_of_visible visible]
  have compiles : FailsWith (fun rejection => ¬ rejection.IsOfEmptiness)
      (validator.compile rule).value := visible_compile visible
  cases compiled : (validator.compile rule).value with
  | error rejection => exact ⟨failsWith_error (compiles rejection compiled), nofun⟩
  | ok expression =>
    dsimp only [bind, Except.bind]
    split
    next => exact visible_evaluate expression context
    next => exact ⟨failsWith_ok _, nofun⟩

/-- A rule is found empty just if the parser finds no tokens in it. So neither checking the form of a
rule nor validating it ever rejects the rule as malformed for having no tokens, and validation finds
empty exactly the rules that the parser finds empty. -/
theorem emptiness_agrees (rule : String) :
    (isEmptyRule rule = true ↔ SyntaxTree.parse rule = .error .empty) ∧
      ∀ validator : Validator,
        FailsWith (fun rejection => ¬ rejection.IsOfEmptiness) (validator.checkSyntax rule) ∧
          ∀ context, FailsWith (fun rejection => ¬ rejection.IsOfEmptiness)
              (validator.validate rule context) ∧
            (validator.validate rule context = .ok .empty ↔
              SyntaxTree.parse rule = .error .empty) := by
  rw [SyntaxTree.parse_eq_empty_iff]
  refine ⟨Iff.rfl, fun validator => ⟨validator.visible_checkSyntax rule, fun context => ?_⟩⟩
  cases empty : isEmptyRule rule with
  | true =>
    rw [validate_of_isEmptyRule empty]
    exact ⟨failsWith_ok _, by simp⟩
  | false =>
    have ⟨fails, notEmpty⟩ := validator.visible_validate empty context
    exact ⟨fails, by simp [notEmpty]⟩

end Validator

end TargetingRules
