import TargetingRules.Evaluation.Failure

/-!
# Rejected rules

Why a rule is not valid. The rule is named in every message; what made it fail is kept as the cause.
-/

namespace TargetingRules

/-- What is wrong with a rule. -/
inductive Defect where
  /-- The text cannot be read, or calls a function that there is not. -/
  | malformed (cause : EvalError)
  /-- The rule uses a construct that targeting rules must not use. -/
  | disallowed (construct : Construct)
  /-- A variable is neither defined nor declared absent. -/
  | undefined (identifier : String)
  /-- Evaluation failed and no absent variable excuses it. -/
  | failed (cause : EvalError)
  /-- The validator itself is at fault. -/
  | internal (fault : String)

/-- A rule that is not valid. -/
structure Rejection where
  /-- The text of the rule. -/
  rule : String
  /-- What is wrong with it. -/
  defect : Defect

/-- The advice on a construct that a rule must not use. -/
def Construct.advice : Construct → String
  | .assignment => "an assignment, be sure to use '==' for comparisons."
  | .concatenation => "a concatenation, do not use '+='."
  | .arrow => "an arrow, do not use '->' for comparisons."

/-- The code of a defect in diagnostics. -/
def Defect.code : Defect → String
  | .malformed _ => "E001"
  | .disallowed _ => "E002"
  | .undefined _ => "E003"
  | .failed _ => "E004"
  | .internal _ => "E005"

/-- The error that caused a defect. -/
def Defect.cause? : Defect → Option EvalError
  | .malformed cause | .failed cause => some cause
  | _ => none

/-- The variable that a defect is about. -/
def Defect.identifier? : Defect → Option String
  | .undefined identifier => some identifier
  | _ => none

namespace Rejection

/-- The message of a rejection. -/
def message (rejection : Rejection) : String :=
  let subject := "Rule " ++ rejection.rule
  match rejection.defect with
  | .malformed _ => subject ++ " has invalid syntax."
  | .disallowed construct => subject ++ " contains " ++ construct.advice
  | .undefined identifier => subject ++ " contains undefined identifier : " ++ identifier
  | .failed _ => "Failed to evaluate a rule " ++ rejection.rule
  | .internal fault => "Internal error while validating rule " ++ rejection.rule ++ ": " ++ fault

/-- The rejection of a rule that does not compile. Bookkeeping faults are not the author's. -/
def ofCompileError (rule : String) : EvalError → Rejection
  | .tree fault => ⟨rule, .internal fault.message⟩
  | .parse (.tree fault) => ⟨rule, .internal fault.message⟩
  | cause => ⟨rule, .malformed cause⟩

/-- The rejection of a rule that has no value. Bookkeeping faults are not the author's. -/
def ofEvalError (rule : String) : EvalError → Rejection
  | .tree fault => ⟨rule, .internal fault.message⟩
  | cause => ⟨rule, .failed cause⟩

end Rejection

end TargetingRules
