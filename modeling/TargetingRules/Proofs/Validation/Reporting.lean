import Mathlib.Data.List.Dedup
import TargetingRules.Proofs.Validation.Tolerance
import TargetingRules.Validation.Configuration

/-!
# Reports on documents

A report says of each rule what validating the rule alone says. The one thing that rules of a
document share is their ids: a rule whose id was used before gets a warning of its own. So the order
of the rules decides the order of the findings, and which of the rules with one id are warned of as
repetitions, but neither the errors nor the number of the repetitions.
-/

namespace TargetingRules

namespace Validator

variable {validator : Validator} {context : Context}

/-- The errors that rules should have: one for each rule that is rejected, in the order of the rules,
with the id of the rule, the code of the defect and the message of what caused it. -/
def errorsOf (validator : Validator) (context : Context) (rules : List RuleEntry) : List Diagnostic :=
  rules.filterMap fun entry =>
    match validator.validate entry.rule context with
    | .ok _ => none
    | .error rejection => some
      { severity := .error
        code := rejection.defect.code
        message := rejection.message
        ruleId := entry.id
        cause := rejection.defect.cause?.map EvalError.message }

/-- The warnings about ignored failures that rules should have, in the order of the rules. -/
def ignoredOf (validator : Validator) (context : Context) (rules : List RuleEntry) :
    List Diagnostic :=
  rules.filterMap fun entry =>
    (validator.ignored? entry.rule context).map (Diagnostic.ignored entry)

/-- The warnings that rules should have, in the order of the rules: for each rule one if its id is used
at an earlier position, and then one if its failure is ignored. -/
def warningsOf (validator : Validator) (context : Context) (rules : List RuleEntry) :
    List Diagnostic :=
  rules.zipIdx.flatMap fun (entry, position) =>
    (if entry.id ∈ (rules.take position).map RuleEntry.id then [.repeatedId entry.id] else []) ++
      ((validator.ignored? entry.rule context).map (.ignored entry)).toList

/-- The report on a document. -/
def report (validator : Validator) (document : RuleDocument) : Report :=
  (validator.validateDocument document).value

end Validator

namespace Report

/-- The warnings about ignored failures. -/
def ignored (report : Report) : List Diagnostic :=
  report.warnings.filter (·.code == "W001")

/-- The warnings about repetitions of an id. -/
def repetitions (report : Report) (id : String) : List Diagnostic :=
  report.warnings.filter fun warning => warning.code == "W002" && warning.ruleId == id

end Report

namespace Validator

variable {validator : Validator} {context : Context}

/-! ## Findings about rules -/

theorem errors_auditEntry (repeated : Bool) (entry : RuleEntry) :
    (validator.auditEntry context repeated entry).value.errors =
      validator.errorsOf context [entry] := by
  unfold auditEntry errorsOf validate
  dsimp only
  cases audited : (validator.audit entry.rule context).value with
  | error rejection => simp [audited, Diagnostic.ofRejection]
  | ok outcome => cases outcome <;> simp [audited]

theorem errors_auditEntries (seen : List String) (entries : List RuleEntry) :
    (validator.auditEntries context seen entries).value.errors =
      validator.errorsOf context entries := by
  induction entries generalizing seen with
  | nil => rfl
  | cons entry rest ih =>
    rw [auditEntries]
    dsimp only
    rw [errors_auditEntry, ih, errorsOf, errorsOf, errorsOf, ← List.filterMap_append,
      List.singleton_append]

/-- The warnings about rules, given the ids used before them. -/
theorem warnings_auditEntries_eq_flatMap (seen : List String) (entries : List RuleEntry) :
    (validator.auditEntries context seen entries).value.warnings =
      entries.zipIdx.flatMap fun (entry, position) =>
        (if entry.id ∈ seen ∨ entry.id ∈ (entries.take position).map RuleEntry.id
          then [.repeatedId entry.id] else []) ++
          ((validator.ignored? entry.rule context).map (.ignored entry)).toList := by
  induction entries generalizing seen with
  | nil => rfl
  | cons entry rest ih =>
    rw [auditEntries, List.zipIdx_cons, List.zipIdx_succ, List.flatMap_cons, List.flatMap_map]
    dsimp only
    rw [warnings_auditEntry, ih]
    simp only [List.take_zero, List.map_nil, List.not_mem_nil, or_false, List.contains_iff_mem,
      List.take_succ_cons, List.map_cons, List.mem_cons, or_assoc, or_left_comm]

theorem repetitions_auditEntry (id : String) (repeated : Bool) (entry : RuleEntry) :
    (validator.auditEntry context repeated entry).value.warnings.filter
        (fun warning => warning.code == "W002" && warning.ruleId == id) =
      if repeated ∧ entry.id = id then [.repeatedId id] else [] := by
  have others : ((validator.ignored? entry.rule context).map (Diagnostic.ignored entry)).toList.filter
      (fun warning => warning.code == "W002" && warning.ruleId == id) = [] := by
    cases validator.ignored? entry.rule context <;> rfl
  rw [warnings_auditEntry, List.filter_append, others, List.append_nil]
  by_cases same : entry.id = id
  · cases repeated <;> simp [same, Diagnostic.repeatedId]
  · cases repeated <;> simp [same, Diagnostic.repeatedId]

/-- The repetitions of an id are all of its uses but the first. -/
theorem repetitions_auditEntries (id : String) (seen : List String) (entries : List RuleEntry) :
    (validator.auditEntries context seen entries).value.warnings.filter
        (fun warning => warning.code == "W002" && warning.ruleId == id) =
      List.replicate ((entries.map RuleEntry.id).count id - if id ∈ seen then 0 else 1)
        (.repeatedId id) := by
  induction entries generalizing seen with
  | nil => simp [auditEntries]
  | cons entry rest ih =>
    rw [auditEntries]
    dsimp only
    rw [List.filter_append, repetitions_auditEntry, ih, List.map_cons]
    by_cases same : entry.id = id
    · subst same
      by_cases used : entry.id ∈ seen
      · simp [used, List.replicate_succ]
      · simp [used]
    · simp [same, Ne.symm same]

/-! ## Findings about documents -/

theorem errors_report (validator : Validator) (document : RuleDocument) :
    (validator.report document).errors =
      validator.errorsOf document.validationContext document.rules :=
  errors_auditEntries [] document.rules

theorem warnings_report (validator : Validator) (document : RuleDocument) :
    (validator.report document).warnings =
      validator.warningsOf document.validationContext document.rules := by
  refine (warnings_auditEntries_eq_flatMap [] document.rules).trans ?_
  simp only [List.not_mem_nil, false_or]
  rfl

theorem ignored_report (validator : Validator) (document : RuleDocument) :
    (validator.report document).ignored =
      validator.ignoredOf document.validationContext document.rules :=
  warnings_auditEntries [] document.rules

theorem repetitions_report (validator : Validator) (document : RuleDocument) (id : String) :
    (validator.report document).repetitions id =
      List.replicate ((document.rules.map RuleEntry.id).count id - 1) (.repeatedId id) := by
  refine (repetitions_auditEntries id [] document.rules).trans ?_
  rw [if_neg List.not_mem_nil]

theorem errorsOf_eq_nil_iff {rules : List RuleEntry} :
    validator.errorsOf context rules = [] ↔
      ∀ entry ∈ rules, ∃ outcome, validator.validate entry.rule context = .ok outcome := by
  rw [errorsOf, List.filterMap_eq_nil_iff]
  refine forall₂_congr fun entry _ => ?_
  cases validator.validate entry.rule context <;> simp

theorem ruleId_mem_of_mem_errorsOf {rules : List RuleEntry} {finding : Diagnostic}
    (member : finding ∈ validator.errorsOf context rules) :
    finding.ruleId ∈ rules.map RuleEntry.id := by
  obtain ⟨entry, inside, found⟩ := List.mem_filterMap.mp member
  cases answer : validator.validate entry.rule context with
  | ok outcome =>
    rw [answer] at found
    cases found
  | error rejection =>
    rw [answer] at found
    cases found
    exact List.mem_map_of_mem inside

/-- Items grouped by distinct keys are the same items in another order. -/
theorem flatMap_filter_perm {ι κ : Type} [DecidableEq κ] (key : ι → κ) {keys : List κ}
    (distinct : keys.Nodup) {items : List ι} (covered : ∀ item ∈ items, key item ∈ keys) :
    (keys.flatMap fun k => items.filter fun item => key item == k).Perm items := by
  induction keys generalizing items with
  | nil =>
    obtain rfl : items = [] := List.eq_nil_iff_forall_not_mem.mpr fun item member =>
      List.not_mem_nil (covered item member)
    exact .refl _
  | cons k keys ih =>
    obtain ⟨fresh, distinct⟩ := List.nodup_cons.mp distinct
    have others : keys.flatMap (fun k' => items.filter fun item => key item == k') =
        keys.flatMap fun k' => (items.filter fun item => !(key item == k)).filter
          fun item => key item == k' := by
      refine List.flatMap_congr fun k' member => ?_
      rw [List.filter_filter]
      refine List.filter_congr fun item _ => ?_
      have differs : k' ≠ k := fun same => fresh (same ▸ member)
      by_cases found : key item = k' <;> simp [found, differs]
    have rest : ∀ item ∈ items.filter (fun item => !(key item == k)), key item ∈ keys := by
      intro item member
      rw [List.mem_filter, Bool.not_eq_true', beq_eq_false_iff_ne] at member
      exact (List.mem_cons.mp (covered item member.1)).resolve_left member.2
    rw [List.flatMap_cons, others]
    exact ((ih distinct rest).append_left _).trans (List.filter_append_perm _ items)

/-- The report on a document says of each rule what validating the rule alone says, and of each id how
often it is used again. -/
structure ReportsEachRule (validator : Validator) (document : RuleDocument) : Prop where
  /-- There is one error for each rule that is rejected, in the order of the rules. -/
  errors : (validator.report document).errors =
    validator.errorsOf document.validationContext document.rules
  /-- The warnings about a rule are about its id, if that was used before, and about its failure, if
  that is ignored. -/
  warnings : (validator.report document).warnings =
    validator.warningsOf document.validationContext document.rules
  /-- Every rule is counted. -/
  checked : (validator.report document).rulesChecked = document.rules.length
  /-- The document is valid if there are no errors, -/
  valid : (validator.report document).valid = true ↔ (validator.report document).errors = []
  /-- that is, if every rule of it passes. -/
  passed : (validator.report document).valid = true ↔ ∀ entry ∈ document.rules,
    ∃ outcome, validator.validate entry.rule document.validationContext = .ok outcome
  /-- Every error is about one of the ids, -/
  about : ∀ finding ∈ (validator.report document).errors,
    ∃! id, id ∈ document.rules.map RuleEntry.id ∧ finding ∈ (validator.report document).errorsFor id
  /-- and the errors about the distinct ids are all of the errors. -/
  partitioned : ((document.rules.map RuleEntry.id).dedup.flatMap
    (validator.report document).errorsFor).Perm (validator.report document).errors
  /-- The first use of an id is no repetition of it, and every other one is. -/
  repetitions : ∀ id, (validator.report document).repetitions id =
    List.replicate ((document.rules.map RuleEntry.id).count id - 1) (.repeatedId id)
  /-- In another order the rules have the same errors and the same ignored failures. -/
  reordered : ∀ rules, rules.Perm document.rules →
    (validator.report { document with rules }).errors.Perm (validator.report document).errors ∧
      (validator.report { document with rules }).ignored.Perm (validator.report document).ignored

/-- A document of a configuration is validated in the context of the configuration. -/
structure ReportsConfigured (validator : Validator) (configuration : Configuration)
    (rules : List RuleEntry) : Prop where
  errors : (validator.report (configuration.document rules)).errors =
    validator.errorsOf configuration.validationContext rules
  warnings : (validator.report (configuration.document rules)).warnings =
    validator.warningsOf configuration.validationContext rules

/-- Validating a document is validating its rules one by one and finding the ids that are repeated. -/
theorem reportsEachRule (validator : Validator) :
    (∀ document, validator.ReportsEachRule document) ∧
      ∀ configuration rules, validator.ReportsConfigured configuration rules := by
  constructor
  · intro document
    have errors := validator.errors_report document
    have ignored := validator.ignored_report document
    have valid : (validator.report document).valid = true ↔ (validator.report document).errors = [] :=
      List.isEmpty_iff
    have listed : ∀ finding ∈ (validator.report document).errors,
        finding.ruleId ∈ document.rules.map RuleEntry.id := by
      rw [errors]
      exact fun finding => ruleId_mem_of_mem_errorsOf
    refine
      { errors
        warnings := validator.warnings_report document
        checked := rfl
        valid
        passed := by rw [valid, errors, errorsOf_eq_nil_iff]
        about := ?_
        partitioned := ?_
        repetitions := validator.repetitions_report document
        reordered := ?_ }
    · intro finding member
      refine ⟨finding.ruleId, ⟨listed finding member, ?_⟩, ?_⟩
      · exact List.mem_filter.mpr ⟨member, beq_self_eq_true _⟩
      · rintro id ⟨_, inside⟩
        exact (beq_iff_eq.mp (List.mem_filter.mp inside).2).symm
    · exact flatMap_filter_perm Diagnostic.ruleId (List.nodup_dedup _)
        fun finding member => List.mem_dedup.mpr (listed finding member)
    · intro rules same
      rw [errors_report, errors, ignored_report, ignored]
      exact ⟨same.filterMap _, same.filterMap _⟩
  · intro configuration rules
    exact ⟨validator.errors_report _, validator.warnings_report _⟩

/-- A document in which two rules have one id. -/
def repeatingDocument : RuleDocument :=
  { memberDocument with rules := [⟨"age", "user.age"⟩, ⟨"age", "-null"⟩] }

theorem validate_negated :
    standard.validate "-null" repeatingDocument.validationContext =
      .error ⟨"-null", .failed (.nullOperand "-")⟩ := by
  rw [validate_of_on (isCondition_negated standard.functions) noTreeFault_standard rfl]
  rfl

/-- The failure of the first rule is ignored, that of the second one is an error, and its id is a
repetition. -/
theorem reportsEachRule_repeating :
    (standard.report repeatingDocument).errors =
        [⟨.error, "E004", "Failed to evaluate a rule -null", "age", some "Cannot apply '-' to null"⟩] ∧
      (standard.report repeatingDocument).warnings =
        [.ignored ⟨"age", "user.age"⟩ (.propertyNotFound "age" .boolean), .repeatedId "age"] ∧
      (standard.report repeatingDocument).valid = false ∧
      (standard.report repeatingDocument).repetitions "age" = [.repeatedId "age"] := by
  have reports := (reportsEachRule standard).1 repeatingDocument
  have member : standard.validate "user.age" repeatingDocument.validationContext =
      .ok (.ignored (.propertyNotFound "age" .boolean)) := validate_member
  have rules : repeatingDocument.rules = [⟨"age", "user.age"⟩, ⟨"age", "-null"⟩] := rfl
  refine ⟨?_, ?_, ?_, ?_⟩
  · rw [reports.errors, errorsOf, rules]
    simp only [List.filterMap_cons, member, validate_negated, List.filterMap_nil]
    rfl
  · rw [reports.warnings, warningsOf, rules]
    simp only [List.zipIdx_cons, List.zipIdx_nil, List.flatMap_cons, List.flatMap_nil, ignored?, member,
      validate_negated]
    rfl
  · rw [Bool.eq_false_iff, ne_eq, reports.passed, rules]
    intro passed
    obtain ⟨outcome, answer⟩ := passed ⟨"age", "-null"⟩ (by simp)
    rw [validate_negated] at answer
    cases answer
  · rw [reports.repetitions, rules]
    rfl

end Validator

end TargetingRules
