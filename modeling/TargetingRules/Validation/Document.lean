import TargetingRules.Validation.Validator

/-!
# Validation of documents

A document groups rules with the context they are validated against. Validating it collects a
diagnostic for every rule that fails, and a warning for every failure that is ignored and for every
rule id that was used before.
-/

namespace TargetingRules

/-- A rule with its id. -/
structure RuleEntry where
  /-- The id. -/
  id : String
  /-- The text of the rule. -/
  rule : String
  deriving DecidableEq, Repr

/-- Rules and what they are validated against. -/
structure RuleDocument where
  /-- The variables. -/
  context : Variables
  /-- The variables that may be missing. -/
  absent : NameSet
  /-- Whether rules are evaluated. -/
  evaluate : Bool
  /-- The rules in order. -/
  rules : List RuleEntry

/-- The context in which the rules of a document are validated. -/
def RuleDocument.validationContext (document : RuleDocument) : Context :=
  ⟨document.context.scope, document.absent, document.evaluate⟩

/-- How serious a diagnostic is. -/
inductive Severity where
  | error | warning
  deriving DecidableEq, Repr

/-- A finding about a rule. -/
structure Diagnostic where
  /-- How serious it is. -/
  severity : Severity
  /-- The code of this sort of finding. -/
  code : String
  /-- The message. -/
  message : String
  /-- The id of the rule. -/
  ruleId : String
  /-- The message of the underlying error. -/
  cause : Option String
  deriving DecidableEq, Repr

namespace Diagnostic

/-- The error about a rejected rule. -/
def ofRejection (ruleId : String) (rejection : Rejection) : Diagnostic :=
  ⟨.error, rejection.defect.code, rejection.message, ruleId,
    rejection.defect.cause?.map EvalError.message⟩

/-- The warning about an ignored failure. -/
def ignored (entry : RuleEntry) (error : EvalError) : Diagnostic :=
  ⟨.warning, "W001",
    "Rule " ++ entry.rule ++
      " failed to evaluate, ignored because it references an absent identifier",
    entry.id, some error.message⟩

/-- The warning about an id that was used before. -/
def repeatedId (id : String) : Diagnostic :=
  ⟨.warning, "W002", "Rule id " ++ id ++ " is used more than once", id, none⟩

end Diagnostic

/-- Errors and warnings, each in the order of the rules. -/
structure Findings where
  /-- The errors. -/
  errors : List Diagnostic
  /-- The warnings. -/
  warnings : List Diagnostic

/-- The findings of a document. -/
structure Report extends Findings where
  /-- The number of rules that were validated. -/
  rulesChecked : Nat

namespace Report

/-- Whether every rule passed. -/
def valid (report : Report) : Bool :=
  report.errors.isEmpty

/-- The errors about one rule id. -/
def errorsFor (report : Report) (id : String) : List Diagnostic :=
  report.errors.filter (·.ruleId == id)

end Report

namespace Validator

/-- The findings about one rule, given whether its id was used before. -/
def auditEntry (validator : Validator) (context : Context) (repeated : Bool) (entry : RuleEntry) :
    Logged Findings :=
  let audited := validator.audit entry.rule context
  let repeats := if repeated then [Diagnostic.repeatedId entry.id] else []
  match audited.value with
  | .ok (.ignored error) => ⟨⟨[], repeats ++ [.ignored entry error]⟩, audited.log⟩
  | .ok _ => ⟨⟨[], repeats⟩, audited.log⟩
  | .error rejection => ⟨⟨[.ofRejection entry.id rejection], repeats⟩, audited.log⟩

/-- The findings about rules, given the ids used before them. -/
def auditEntries (validator : Validator) (context : Context) (seen : List String) :
    List RuleEntry → Logged Findings
  | [] => ⟨⟨[], []⟩, []⟩
  | entry :: rest =>
    let one := validator.auditEntry context (seen.contains entry.id) entry
    let more := auditEntries validator context (entry.id :: seen) rest
    ⟨⟨one.value.errors ++ more.value.errors, one.value.warnings ++ more.value.warnings⟩,
      one.log ++ more.log⟩

/-- Validate every rule of a document, with the log of it. -/
def validateDocument (validator : Validator) (document : RuleDocument) : Logged Report :=
  let findings := validator.auditEntries document.validationContext [] document.rules
  let summary := LogEntry.validated document.rules.length findings.value.errors.length
    findings.value.warnings.length
  ⟨⟨findings.value, document.rules.length⟩, findings.log ++ [summary]⟩

end Validator

end TargetingRules
