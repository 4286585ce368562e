import Mathlib.Data.List.Dedup
import Mathlib.Data.List.Sort
import Mathlib.Data.String.Basic
import TargetingRules.Proofs.Validation.FormCheck
import TargetingRules.Proofs.Validation.Reporting

/-!
# The log of a document

Whoever wants to know what a validator tolerates reads the log. Two answers about a rule leave an entry
in it: the rule calls a function that there is not, or its failure is ignored. No other answer leaves
one, wherever validation has stopped. After the rules comes a summary of the report.

The entries are written at three places, each of which knows a part of the answer only. Shown here is
that the log of a document can be told from the answers about its rules, and that the failures it calls
ignored are those that the report warns of.
-/

namespace TargetingRules

/-! ## Absent names -/

namespace Dictionary

variable {α : Type} {d : Dictionary α} {name : String}

theorem mem_names_iff : name ∈ d.names ↔ d.contains name = true := by
  rw [contains, get?, List.lookup_isSome_iff, names, List.mem_map]
  simp only [beq_iff_eq, eq_comm (a := name)]

theorem sortedLT_names (d : Dictionary α) : d.names.SortedLT :=
  (List.pairwise_map.mpr d.sorted).sortedLT

theorem contains_insert {other : String} {value : α} :
    (d.insert name value).contains other = true ↔ other = name ∨ d.contains other = true := by
  rw [contains, get?_insert, contains]
  split
  next same => simp [same]
  next differs => simp [differs]

end Dictionary

namespace NameSet

variable {set other : NameSet} {declared : List String} {name : String}

theorem contains_foldl :
    ((declared.map fun name => (name, ())).foldl (fun d binding => d.insert binding.1 binding.2)
      set).contains name = true ↔ name ∈ declared ∨ set.contains name = true := by
  induction declared generalizing set with
  | nil => simp
  | cons first declared ih =>
    rw [List.map_cons, List.foldl_cons, ih, Dictionary.contains_insert, List.mem_cons]
    exact or_left_comm.trans or_assoc.symm

theorem contains_ofList : (ofList declared).contains name = true ↔ name ∈ declared := by
  rw [ofList, Dictionary.ofList, contains_foldl, or_iff_left]
  exact Bool.false_ne_true

/-- However the names of a set are listed, sorting them gives its names. -/
theorem names_eq_mergeSort (listed : ∀ name, name ∈ declared ↔ set.contains name = true) :
    set.names = declared.dedup.mergeSort := by
  have sorted := set.sortedLT_names
  have same : set.names.Perm declared.dedup := by
    refine (List.perm_ext_iff_of_nodup sorted.nodup declared.nodup_dedup).mpr fun name => ?_
    rw [Dictionary.mem_names_iff, List.mem_dedup, listed]
  exact (same.trans (List.mergeSort_perm _ _).symm).eq_of_sortedLE sorted.sortedLE
    List.sortedLE_mergeSort

/-- Two sets with the same members are one. -/
theorem eq_of_contains (same : ∀ name, set.contains name = true ↔ other.contains name = true) :
    set = other := by
  have names : set.names = other.names := by
    have sorted : other.names = other.names.dedup.mergeSort :=
      names_eq_mergeSort fun name => Dictionary.mem_names_iff
    rw [sorted]
    exact names_eq_mergeSort fun name => Dictionary.mem_names_iff.trans (same name).symm
  obtain ⟨entries, _⟩ := set
  obtain ⟨entries', _⟩ := other
  have injective : Function.Injective (Prod.fst : String × Unit → String) := by
    rintro ⟨_, ⟨⟩⟩ ⟨_, ⟨⟩⟩ rfl
    rfl
  obtain rfl : entries = entries' := List.map_injective_iff.mpr injective names
  rfl

end NameSet

/-! ## Entries about a rule -/

/-- The entry that the answer about a rule leaves in the log, if it leaves one. -/
def LogEntry.about? (absent : List String) (rule : String) :
    Except Rejection Outcome → Option LogEntry
  | .error ⟨_, .malformed (.unknownFunction name)⟩ => some (.unknownFunction rule name)
  | .ok (.ignored e) => some (.ignoredFailure rule absent e)
  | _ => none

/-- Whether an entry is about a failure that is ignored. -/
def LogEntry.isIgnoredFailure : LogEntry → Bool
  | .ignoredFailure _ _ _ => true
  | _ => false

/-- Compiling a rule leaves an entry just for a function that there is not. -/
theorem Expression.log_compile (functions : FunctionTable) (text : String) (type : ResultType) :
    (compile functions text type).log =
      match (compile functions text type).value with
      | .error (.unknownFunction name) => [.unknownFunction text name]
      | _ => [] := by
  unfold compile
  cases SyntaxTree.parse text with
  | error e => rfl
  | ok tree =>
    dsimp only
    cases tree.unknownFunction? functions <;> rfl

namespace Validator

variable {validator : Validator} {rule : String} {context : Context}

/-- The form check leaves the entry of its answer, where passing it counts as an answer. -/
theorem log_compile (validator : Validator) (rule : String) (absent : List String) :
    (validator.compile rule).log = (LogEntry.about? absent rule
      ((validator.compile rule).value.map fun _ => .checked)).toList := by
  have log := Expression.log_compile validator.functions rule .boolean
  have formal := Expression.failsWith_compile validator.functions rule .boolean
  unfold compile
  dsimp only
  cases compiled : (Expression.compile validator.functions rule .boolean).value with
  | error e =>
    rw [compiled] at log formal
    dsimp only
    rw [log]
    -- only a text that cannot be read and an unknown function stop the compilation
    obtain ⟨p, rfl, textual⟩ | ⟨name, rfl⟩ := formal e rfl
    · cases p with
      | tree fault => exact textual.elim
      | _ => rfl
    · rfl
  | ok expression =>
    rw [compiled] at log
    dsimp only
    cases expression.tree.disallowed? <;> exact log

/-- So does the evaluation of a rule that has passed the form check. -/
theorem log_evaluate {expression : Expression} : (evaluate expression context).log =
    (LogEntry.about? context.absent.names expression.text
      (evaluate expression context).value).toList := by
  unfold evaluate
  cases expression.tree.undefined? context with
  | some name => rfl
  | none =>
    dsimp only
    cases expression.evaluateBool context.resolve with
    | ok b => rfl
    | error e =>
      dsimp only
      split
      next => rfl
      next => cases e <;> rfl

/-- Validating a rule leaves the entry of its answer and no other, wherever it stops. -/
theorem log_audit : (validator.audit rule context).log =
    (LogEntry.about? context.absent.names rule (validator.validate rule context)).toList := by
  have form := validator.log_compile rule context.absent.names
  unfold validate audit
  split
  next => rfl
  next =>
    dsimp only
    cases compiled : (validator.compile rule).value with
    | error rejection =>
      rw [compiled] at form
      exact form
    | ok expression =>
      rw [compiled] at form
      obtain ⟨t, condition, rfl⟩ := exists_isCondition_of_compile compiled
      dsimp only
      split
      next =>
        dsimp only
        rw [form, log_evaluate]
        rfl
      next => exact form

/-! ## Entries about a document -/

/-- The entries that rules should leave, in the order of the rules. -/
def entriesOf (validator : Validator) (context : Context) (rules : List RuleEntry) : List LogEntry :=
  rules.filterMap fun entry =>
    LogEntry.about? context.absent.names entry.rule (validator.validate entry.rule context)

theorem log_auditEntry (repeated : Bool) (entry : RuleEntry) :
    (validator.auditEntry context repeated entry).log = validator.entriesOf context [entry] := by
  have log : (validator.auditEntry context repeated entry).log =
      (validator.audit entry.rule context).log := by
    unfold auditEntry
    dsimp only
    split <;> rfl
  rw [log, log_audit, entriesOf, List.filterMap_cons]
  cases LogEntry.about? context.absent.names entry.rule (validator.validate entry.rule context) <;> rfl

theorem log_auditEntries (seen : List String) (entries : List RuleEntry) :
    (validator.auditEntries context seen entries).log = validator.entriesOf context entries := by
  induction entries generalizing seen with
  | nil => rfl
  | cons entry rest ih =>
    rw [auditEntries]
    dsimp only
    rw [log_auditEntry, ih, entriesOf, entriesOf, entriesOf, ← List.filterMap_append,
      List.singleton_append]

/-- The entries in the log of a document, in order. -/
def log (validator : Validator) (document : RuleDocument) : List LogEntry :=
  (validator.validateDocument document).log

theorem log_eq (validator : Validator) (document : RuleDocument) :
    validator.log document = validator.entriesOf document.validationContext document.rules ++
      [.validated (validator.report document).rulesChecked (validator.report document).errors.length
        (validator.report document).warnings.length] :=
  congrArg (· ++ _) (log_auditEntries [] document.rules)

/-- The ignored failures of a document, each with its rule, in the order of the rules. -/
def failuresOf (validator : Validator) (document : RuleDocument) : List (RuleEntry × EvalError) :=
  document.rules.filterMap fun entry =>
    (validator.ignored? entry.rule document.validationContext).map fun e => (entry, e)

theorem ignored_of_mem_failuresOf {document : RuleDocument} {entry : RuleEntry} {e : EvalError}
    (member : (entry, e) ∈ validator.failuresOf document) : entry ∈ document.rules ∧
      validator.validate entry.rule document.validationContext = .ok (.ignored e) := by
  obtain ⟨entry', inside, found⟩ := List.mem_filterMap.mp member
  obtain ⟨e', ignored, same⟩ := Option.map_eq_some_iff.mp found
  cases same
  exact ⟨inside, ignored?_eq_some_iff.mp ignored⟩

theorem ignored_report_eq_map (validator : Validator) (document : RuleDocument) :
    (validator.report document).ignored =
      (validator.failuresOf document).map fun (entry, e) => .ignored entry e := by
  rw [ignored_report, failuresOf, List.map_filterMap, ignoredOf]
  simp only [Option.map_map]
  rfl

/-- Of the entries about a rule, just that of an ignored failure is about one. -/
theorem filter_about? (validator : Validator) (rule : String) (context : Context)
    (absent : List String) :
    (LogEntry.about? absent rule (validator.validate rule context)).filter
        LogEntry.isIgnoredFailure =
      (validator.ignored? rule context).map fun e => .ignoredFailure rule absent e := by
  rw [ignored?]
  cases validator.validate rule context with
  | error rejection =>
    obtain ⟨text, defect⟩ := rejection
    cases defect with
    | malformed e => cases e <;> rfl
    | _ => rfl
  | ok outcome => cases outcome <;> rfl

theorem ignored_log_eq_map (validator : Validator) (document : RuleDocument) :
    (validator.log document).filter LogEntry.isIgnoredFailure =
      (validator.failuresOf document).map fun (entry, e) =>
        .ignoredFailure entry.rule document.absent.names e := by
  have summary (rules errors warnings : Nat) :
      [LogEntry.validated rules errors warnings].filter LogEntry.isIgnoredFailure = [] := rfl
  rw [log_eq, List.filter_append, summary, List.append_nil, entriesOf, List.filter_filterMap,
    failuresOf, List.map_filterMap]
  refine List.filterMap_congr fun entry _ => ?_
  rw [filter_about?, Option.map_map]
  rfl

/-- A warning and an entry of the log tell of one ignored failure: the entry shows the rule, all absent
names in order and the error that the warning gives as its cause. -/
def TellOfOneFailure (validator : Validator) (document : RuleDocument) (warning : Diagnostic)
    (logged : LogEntry) : Prop :=
  ∃ entry ∈ document.rules, ∃ e,
    validator.validate entry.rule document.validationContext = .ok (.ignored e) ∧
      warning = .ignored entry e ∧ warning.cause = some e.message ∧
      logged = .ignoredFailure entry.rule document.absent.names e

/-- The log of a document is the trail of its report. -/
structure LogsReport (validator : Validator) (document : RuleDocument) : Prop where
  /-- In the order of the rules there is an entry for each rule that calls a function that there is not
  and for each rule whose failure is ignored, and none for any other; a summary of the report ends the
  log. -/
  entries : validator.log document =
    (document.rules.filterMap fun entry => LogEntry.about? document.absent.names entry.rule
      (validator.validate entry.rule document.validationContext)) ++
      [.validated (validator.report document).rulesChecked (validator.report document).errors.length
        (validator.report document).warnings.length]
  /-- That is, these messages are logged. -/
  messages : (validator.log document).map LogEntry.text =
    (document.rules.filterMap fun entry =>
      match validator.validate entry.rule document.validationContext with
      | .error ⟨_, .malformed (.unknownFunction name)⟩ =>
        some ("Rule " ++ entry.rule ++ " references unknown function " ++ name)
      | .ok (.ignored e) =>
        some ("Rule " ++ entry.rule ++ " contains uninstantiated identifier(s) in [" ++
          ", ".intercalate (document.absent.names.map Text.shown) ++ "], ignore the failure: " ++
            e.message)
      | _ => none) ++
      ["Validated " ++ toString (validator.report document).rulesChecked ++ " rule(s): " ++
        toString (validator.report document).errors.length ++ " error(s), " ++
        toString (validator.report document).warnings.length ++ " warning(s)"]
  /-- The entries about ignored failures and the warnings about them are about the same failures, -/
  failures : List.Forall₂ (validator.TellOfOneFailure document) (validator.report document).ignored
    ((validator.log document).filter LogEntry.isIgnoredFailure)
  /-- and so there are as many of them. -/
  counted : ((validator.log document).filter LogEntry.isIgnoredFailure).length =
    (validator.report document).ignored.length
  /-- The names that an entry shows are the absent names in order, however these are listed. -/
  absent : ∀ declared : List String,
    (∀ name, name ∈ declared ↔ document.absent.contains name = true) →
      document.absent.names = declared.dedup.mergeSort
  /-- Where the same names are declared absent in another order, report and log are the same. -/
  reordered : ∀ declared declared' : List String, (∀ name, name ∈ declared ↔ name ∈ declared') →
    validator.validateDocument { document with absent := .ofList declared } =
      validator.validateDocument { document with absent := .ofList declared' }

/-- What the log of a document says is what the answers about its rules say. -/
theorem logsReport (validator : Validator) (document : RuleDocument) :
    validator.LogsReport document := by
  have failures : List.Forall₂ (validator.TellOfOneFailure document)
      (validator.report document).ignored
      ((validator.log document).filter LogEntry.isIgnoredFailure) := by
    rw [ignored_report_eq_map, ignored_log_eq_map, List.forall₂_map_left_iff,
      List.forall₂_map_right_iff, List.forall₂_same]
    rintro ⟨entry, e⟩ member
    obtain ⟨inside, ignored⟩ := ignored_of_mem_failuresOf member
    exact ⟨entry, inside, e, ignored, rfl, rfl, rfl⟩
  refine
    { entries := validator.log_eq document
      messages := ?_
      failures
      counted := failures.length_eq.symm
      absent := fun declared listed => NameSet.names_eq_mergeSort listed
      reordered := fun declared declared' same => ?_ }
  · rw [log_eq, List.map_append, entriesOf, List.map_filterMap]
    refine congrArg (· ++ _) (List.filterMap_congr fun entry _ => ?_)
    -- an answer that leaves no entry has no message either, and the other two have the one of their entry
    cases validator.validate entry.rule document.validationContext with
    | error rejection =>
      obtain ⟨text, defect⟩ := rejection
      cases defect with
      | malformed e => cases e <;> rfl
      | _ => rfl
    | ok outcome => cases outcome <;> rfl
  · have sets : NameSet.ofList declared = NameSet.ofList declared' :=
      NameSet.eq_of_contains fun name => by
        rw [NameSet.contains_ofList, NameSet.contains_ofList, same]
    rw [sets]

/-- A document in which a failure is ignored and a function is missing, under one id. -/
def trailingDocument : RuleDocument :=
  { memberDocument with
    absent := .ofList ["plan", "age"]
    rules := [⟨"age", "user.age"⟩, ⟨"age", "f(x=y)"⟩] }

theorem validate_absentMember :
    standard.validate "user.age" trailingDocument.validationContext =
      .ok (.ignored (.propertyNotFound "age" .boolean)) := by
  rw [validate_of_on (isCondition_member standard.functions) noTreeFault_standard rfl]
  rfl

theorem validate_unknownFunction :
    standard.validate "f(x=y)" trailingDocument.validationContext =
      .error ⟨"f(x=y)", .malformed (.unknownFunction "f")⟩ := by
  have rejected : standard.verify "f(x=y)" trailingDocument.validationContext = _ :=
    verify_of_checkSyntax_error checkSyntax_unknownFunction
  rw [verify] at rejected
  cases answer : standard.validate "f(x=y)" trailingDocument.validationContext with
  | error rejection =>
    rw [answer] at rejected
    cases rejected
    rfl
  | ok outcome =>
    rw [answer] at rejected
    cases rejected

/-- The names that are declared absent are shown in order, and the summary counts one error, the ignored
failure and the repeated id. -/
theorem logsReport_trailing :
    standard.log trailingDocument =
        [.ignoredFailure "user.age" ["age", "plan"] (.propertyNotFound "age" .boolean),
          .unknownFunction "f(x=y)" "f", .validated 2 1 2] ∧
      ((standard.log trailingDocument).filter LogEntry.isIgnoredFailure).length =
        (standard.report trailingDocument).ignored.length := by
  have logs := logsReport standard trailingDocument
  have rules : trailingDocument.rules = [⟨"age", "user.age"⟩, ⟨"age", "f(x=y)"⟩] := rfl
  have absent : trailingDocument.absent.names = ["age", "plan"] := rfl
  have errors : (standard.report trailingDocument).errors.length = 1 := by
    rw [errors_report, errorsOf, rules]
    simp only [List.filterMap_cons, validate_absentMember, validate_unknownFunction,
      List.filterMap_nil, List.length_singleton]
  have warnings : (standard.report trailingDocument).warnings.length = 2 := by
    rw [warnings_report, warningsOf, rules]
    simp only [List.zipIdx_cons, List.zipIdx_nil, List.flatMap_cons, List.flatMap_nil, ignored?,
      validate_absentMember, validate_unknownFunction]
    rfl
  refine ⟨?_, logs.counted⟩
  rw [logs.entries, rules, absent, errors, warnings]
  simp only [List.filterMap_cons, validate_absentMember, validate_unknownFunction,
    List.filterMap_nil, LogEntry.about?]
  rfl

end Validator

end TargetingRules
