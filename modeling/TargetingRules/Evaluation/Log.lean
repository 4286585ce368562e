import TargetingRules.Evaluation.Failure
import TargetingRules.Text.Quoted

/-!
# The log

What is worth telling an operator beside the answers themselves. A computation that logs returns
its entries in order, next to its result.
-/

namespace TargetingRules

/-- An entry of the log. -/
inductive LogEntry where
  /-- A rule calls a function that the table lacks. -/
  | unknownFunction (rule name : String)
  /-- The failure of a rule is ignored; the absent names are listed in increasing order. -/
  | ignoredFailure (rule : String) (absent : List String) (error : EvalError)
  /-- A document was validated. -/
  | validated (rules errors warnings : Nat)
  /-- A validator was built. -/
  | building (functions : Nat)

/-- The text of a log entry. -/
def LogEntry.text : LogEntry → String
  | .unknownFunction rule name => "Rule " ++ rule ++ " references unknown function " ++ name
  | .ignoredFailure rule absent error =>
    "Rule " ++ rule ++ " contains uninstantiated identifier(s) in [" ++
      ", ".intercalate (absent.map Text.shown) ++ "], ignore the failure: " ++ error.message
  | .validated rules errors warnings =>
    "Validated " ++ toString rules ++ " rule(s): " ++ toString errors ++ " error(s), " ++
      toString warnings ++ " warning(s)"
  | .building functions => "Building rule validator with " ++ toString functions ++ " function(s)"

/-- A result and the entries logged on the way to it. -/
structure Logged (α : Type) where
  /-- The result. -/
  value : α
  /-- The entries in order. -/
  log : List LogEntry

end TargetingRules
