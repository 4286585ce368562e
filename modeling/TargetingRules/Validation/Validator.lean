import TargetingRules.Evaluation.Expression
import TargetingRules.Validation.Rejection

/-!
# Validation of a rule

A rule is first read and checked for constructs that make no sense in a condition. Where evaluation
is asked for, each of its variables must then be defined or declared absent, and the rule is
evaluated. A failure of the evaluation is ignored if any leaf of the rule names an absent variable;
the failure need not come from that variable.

`Validator.audit` also returns the log; `validate`, `verify` and `checkSyntax` return the answer
alone.
-/

namespace TargetingRules

/-- What a rule is validated against: the variables, which of them may be missing, and whether there is
anything to evaluate. -/
structure Context extends Scope where
  /-- The variables that may be missing. -/
  absent : NameSet
  /-- Whether rules are evaluated. -/
  evaluate : Bool

/-- How a rule passed. -/
inductive Outcome where
  /-- There is nothing in it. -/
  | empty
  /-- It is well formed, and was not evaluated. -/
  | checked
  /-- It has this value. -/
  | evaluated (b : Bool)
  /-- It failed, and names an absent variable. -/
  | ignored (error : EvalError)

namespace Outcome

/-- Whether a failure was ignored. -/
def isIgnored : Outcome → Bool
  | .ignored _ => true
  | _ => false

/-- The value of a rule that was evaluated. -/
def value? : Outcome → Option Bool
  | .evaluated b => some b
  | _ => none

end Outcome

namespace SyntaxTree

/-- The first construct in pre-order that rules must not use. -/
def disallowed? (tree : SyntaxTree) : Option Construct :=
  (tree.find? fun node => node.kind.construct?.isSome).bind fun node => node.kind.construct?

/-- The first variable in pre-order that is neither defined nor absent. -/
def undefined? (tree : SyntaxTree) (context : Context) : Option String :=
  let isUndefined (name : String) : Bool :=
    !context.isDefined name && !context.absent.contains name
  (tree.find? fun node => node.kind.isIdentifier && node.image.any isUndefined).bind Node.image

/-- Whether some leaf names an absent variable. -/
def touches (tree : SyntaxTree) (absent : NameSet) : Bool :=
  tree.leaves.any fun leaf => leaf.image.any absent.contains

end SyntaxTree

/-- A validator, which holds the functions that rules may call. -/
structure Validator where
  /-- The functions. -/
  functions : FunctionTable

namespace Validator

/-- The validator with the standard functions. -/
def standard : Validator := ⟨FunctionTable.standard⟩

/-- A new validator with the given functions. -/
def build (functions : FunctionTable) : Logged Validator :=
  ⟨⟨functions⟩, [.building functions.size]⟩

/-- Compile a rule as a condition and reject constructs that conditions must not use. -/
def compile (validator : Validator) (rule : String) : Logged (Except Rejection Expression) :=
  let compiled := Expression.compile validator.functions rule .boolean
  match compiled.value with
  | .error e => ⟨.error (.ofCompileError rule e), compiled.log⟩
  | .ok expression =>
    match expression.tree.disallowed? with
    | some construct => ⟨.error ⟨rule, .disallowed construct⟩, compiled.log⟩
    | none => ⟨.ok expression, compiled.log⟩

/-- Whether an evaluation error in a tree is ignored: some leaf is absent, and the error is no
bookkeeping fault. -/
def ignores (tree : SyntaxTree) (absent : NameSet) : EvalError → Bool
  | .tree _ => false
  | _ => tree.touches absent

/-- Evaluate a compiled rule, once its variables are known to be defined or absent. -/
def evaluate (expression : Expression) (context : Context) : Logged (Except Rejection Outcome) :=
  match expression.tree.undefined? context with
  | some name => ⟨.error ⟨expression.text, .undefined name⟩, []⟩
  | none =>
    match expression.evaluateBool context.resolve with
    | .ok b => ⟨.ok (.evaluated b), []⟩
    | .error e =>
      if ignores expression.tree context.absent e then
        ⟨.ok (.ignored e), [.ignoredFailure expression.text context.absent.names e]⟩
      else ⟨.error (.ofEvalError expression.text e), []⟩

/-- Validate a rule, with the log of it. -/
def audit (validator : Validator) (rule : String) (context : Context) :
    Logged (Except Rejection Outcome) :=
  if isEmptyRule rule then ⟨.ok .empty, []⟩
  else
    let compiled := validator.compile rule
    match compiled.value with
    | .error rejection => ⟨.error rejection, compiled.log⟩
    | .ok expression =>
      if context.evaluate then
        let evaluated := evaluate expression context
        ⟨evaluated.value, compiled.log ++ evaluated.log⟩
      else ⟨.ok .checked, compiled.log⟩

/-- How a rule passes, or why it does not. -/
def validate (validator : Validator) (rule : String) (context : Context) :
    Except Rejection Outcome :=
  (validator.audit rule context).value

/-- Whether a rule passes. -/
def verify (validator : Validator) (rule : String) (context : Context) : Except Rejection Unit :=
  (validator.validate rule context).map fun _ => ()

/-- Check the form of a rule, with the log of it. Empty rules pass. -/
def auditSyntax (validator : Validator) (rule : String) : Logged (Except Rejection Unit) :=
  if isEmptyRule rule then ⟨.ok (), []⟩
  else
    let compiled := validator.compile rule
    ⟨compiled.value.map fun _ => (), compiled.log⟩

/-- Check the form of a rule: it can be read, its functions exist, and it uses no construct that
conditions must not use. -/
def checkSyntax (validator : Validator) (rule : String) : Except Rejection Unit :=
  (validator.auditSyntax rule).value

end Validator

end TargetingRules
