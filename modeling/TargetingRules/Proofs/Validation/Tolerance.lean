import TargetingRules.Proofs.Validation.Decision
import TargetingRules.Validation.Document

/-!
# Ignored failures

The failure of a rule is ignored if some leaf of its expression has an absent name. Such a leaf need
not be a variable: literals, members and functions that are called without arguments are leaves with
an image as well, and what is written there may be an absent name by chance. Other leaves have no
image.

A document has a warning for each rule whose failure is ignored, in the order of its rules.
-/

namespace TargetingRules

namespace Validator

variable {validator : Validator} {rule : String} {context : Context} {e : EvalError} {t : Tree}

/-! ## Excuses -/

/-- A leaf of a rule excuses the failure of the rule: it has an absent name. -/
structure Excuses (validator : Validator) (rule : String) (context : Context) (e : EvalError)
    (t s : Tree) (name : String) : Prop where
  condition : IsCondition validator.functions rule t
  failed : t.truth ⟨validator.functions, context.resolve⟩ = .error e
  touches : t.Touches context.absent s name
  /-- It is a variable, a literal, a member or a call of a function. -/
  written : s.kind.isAtom = true ∨ s.kind = .function

theorem touches_of_ignores {tree : SyntaxTree} {absent : NameSet}
    (ignored : ignores tree absent e = true) : tree.touches absent = true := by
  cases e with
  | tree fault => cases ignored
  | _ => exact ignored

/-- A failure that is ignored is that of the evaluation. -/
theorem ignored_of_evaluate {functions : FunctionTable}
    (answer : (evaluate ⟨rule, .ofTree t, .boolean, functions⟩ context).value = .ok (.ignored e)) :
    t.truth ⟨functions, context.resolve⟩ = .error e ∧
      ignores (.ofTree t) context.absent e = true := by
  rw [evaluate_ofTree] at answer
  split at answer
  next => cases answer
  next =>
    split at answer
    next => cases answer
    next e' failed =>
      split at answer
      next ignored =>
        cases answer
        exact ⟨failed, ignored⟩
      next => cases answer

/-- A rule whose failure is ignored is a condition that was evaluated. -/
theorem exists_ignored (answer : validator.validate rule context = .ok (.ignored e)) :
    ∃ t, IsCondition validator.functions rule t ∧
      t.truth ⟨validator.functions, context.resolve⟩ = .error e ∧
      ignores (.ofTree t) context.absent e = true := by
  cases blank : isEmptyRule rule with
  | true =>
    rw [validate_of_isEmptyRule blank] at answer
    cases answer
  | false =>
    cases compiled : (validator.compile rule).value with
    | error rejection =>
      rw [validate_of_compile blank compiled] at answer
      cases answer
    | ok expression =>
      obtain ⟨t, condition, rfl⟩ := exists_isCondition_of_compile compiled
      rw [validate_of_isCondition condition] at answer
      split at answer
      next => exact ⟨t, condition, ignored_of_evaluate answer⟩
      next => cases answer

/-- A failure that is ignored is excused by a leaf. -/
theorem exists_excuses (answer : validator.validate rule context = .ok (.ignored e)) :
    ∃ t s name, validator.Excuses rule context e t s name := by
  obtain ⟨t, condition, failed, ignored⟩ := exists_ignored answer
  have touched := touches_of_ignores ignored
  rw [touches_ofTree, Tree.any_leafImages_iff] at touched
  obtain ⟨s, name, touches⟩ := touched
  refine ⟨t, s, name, condition, failed, touches, ?_⟩
  have written := (Tree.evaluable_of_parse condition.parsed).written_of_image s touches.inside
  rw [touches.named] at written
  exact written.resolve_left (Option.some_ne_none name)

/-! ## Warnings -/

/-- The failure of a rule that is ignored. -/
def ignored? (validator : Validator) (rule : String) (context : Context) : Option EvalError :=
  match validator.validate rule context with
  | .ok (.ignored e) => some e
  | _ => none

theorem ignored?_eq_some_iff :
    validator.ignored? rule context = some e ↔ validator.validate rule context = .ok (.ignored e) := by
  unfold ignored?
  constructor
  · intro found
    split at found
    next e' answer =>
      cases found
      exact answer
    next => cases found
  · intro answer
    rw [answer]

/-- The warnings about one rule: about its id, and about its failure. -/
theorem warnings_auditEntry (repeated : Bool) (entry : RuleEntry) :
    (validator.auditEntry context repeated entry).value.warnings =
      (if repeated then [Diagnostic.repeatedId entry.id] else []) ++
        ((validator.ignored? entry.rule context).map (Diagnostic.ignored entry)).toList := by
  unfold auditEntry ignored? validate
  dsimp only
  cases (validator.audit entry.rule context).value with
  | error rejection => simp
  | ok outcome => cases outcome <;> simp

/-- The warnings about failures are those about the failures that are ignored. -/
theorem warnings_auditEntries (seen : List String) (entries : List RuleEntry) :
    (validator.auditEntries context seen entries).value.warnings.filter (·.code == "W001") =
      entries.filterMap fun entry =>
        (validator.ignored? entry.rule context).map (Diagnostic.ignored entry) := by
  induction entries generalizing seen with
  | nil => rfl
  | cons entry rest ih =>
    have repeats : (if seen.contains entry.id then [Diagnostic.repeatedId entry.id] else []).filter
        (·.code == "W001") = [] := by
      split <;> rfl
    rw [auditEntries, List.filterMap_cons]
    dsimp only
    rw [List.filter_append, ih, warnings_auditEntry, List.filter_append, repeats, List.nil_append]
    cases validator.ignored? entry.rule context <;> rfl

/-- Ignored failures are accounted for. -/
structure AccountsForIgnored (validator : Validator) : Prop where
  /-- A failure is ignored only where a leaf of the rule excuses it. -/
  excused : ∀ rule context e, validator.validate rule context = .ok (.ignored e) →
    ∃ t s name, validator.Excuses rule context e t s name
  /-- A document warns of the failures of its rules that are ignored, and of no others. -/
  warned : ∀ document : RuleDocument,
    (validator.validateDocument document).value.warnings.filter (·.code == "W001") =
      document.rules.filterMap fun entry =>
        (validator.ignored? entry.rule document.validationContext).map (Diagnostic.ignored entry)

theorem accountsForIgnored (validator : Validator) : validator.AccountsForIgnored :=
  ⟨fun _ _ _ answer => exists_excuses answer, fun _ => warnings_auditEntries [] _⟩

/-- The rule `user.age` reads a member of a variable. -/
theorem isCondition_member (functions : FunctionTable) :
    IsCondition functions "user.age" (.node .property none ⟨0, 8⟩
      [.node .identifier (some "user") ⟨0, 4⟩ [], .node .member (some "age") ⟨5, 8⟩ []]) := by
  have split : (Body.of "user.age".toList).tokens = .ok [⟨.ident "user", ⟨0, 4⟩, "user"⟩,
      ⟨.mark .dot, ⟨4, 5⟩, "."⟩, ⟨.ident "age", ⟨5, 8⟩, "age"⟩] :=
    Lexer.tokens_of_split? (n := 3) rfl
  have target : Grammar.Derives Grammar.maxDepth .access [⟨.ident "user", ⟨0, 4⟩, "user"⟩,
      ⟨.mark .dot, ⟨4, 5⟩, "."⟩, ⟨.ident "age", ⟨5, 8⟩, "age"⟩]
      (.node .identifier (some "user") ⟨0, 4⟩ [])
      [⟨.mark .dot, ⟨4, 5⟩, "."⟩, ⟨.ident "age", ⟨5, 8⟩, "age"⟩] :=
    Grammar.Derives.loosen (.identifier ⟨"user", rfl⟩ nofun) (by decide)
  have derived := Grammar.Derives.property target rfl ⟨"age", rfl⟩
  have parsed := Tree.parse_eq_ok_iff.mpr ⟨_, split, derived.loosen (Nat.zero_le _), by decide⟩
  exact ⟨⟨parsed, List.forall_mem_nil _⟩, rfl⟩

/-- A document with that rule alone, in which the member has an absent name. -/
def memberDocument : RuleDocument :=
  ⟨Dictionary.empty.insert "user" (.bool true), .ofList ["age"], true, [⟨"member", "user.age"⟩]⟩

theorem validate_member :
    standard.validate "user.age" memberDocument.validationContext =
      .ok (.ignored (.propertyNotFound "age" .boolean)) := by
  have condition := isCondition_member standard.functions
  rw [validate_of_on condition noTreeFault_standard rfl]
  rfl

/-- The member excuses the failure of the rule, and the document warns of it. -/
theorem accountsForIgnored_member :
    standard.validate "user.age" memberDocument.validationContext =
        .ok (.ignored (.propertyNotFound "age" .boolean)) ∧
      (∃ t s name, standard.Excuses "user.age" memberDocument.validationContext
        (.propertyNotFound "age" .boolean) t s name) ∧
      (standard.validateDocument memberDocument).value.warnings.filter (·.code == "W001") =
        [.ignored ⟨"member", "user.age"⟩ (.propertyNotFound "age" .boolean)] := by
  have accounts := accountsForIgnored standard
  refine ⟨validate_member, accounts.excused _ _ _ validate_member, ?_⟩
  have found := ignored?_eq_some_iff.mpr validate_member
  have rules : memberDocument.rules = [⟨"member", "user.age"⟩] := rfl
  rw [accounts.warned, rules, List.filterMap_cons, found]
  rfl

/-! ## Excuses by chance -/

/-- The failure of a rule is ignored though none of its variables is declared absent. -/
def IgnoresByChance (validator : Validator) (rule : String) (context : Context) : Prop :=
  ∃ e t, validator.validate rule context = .ok (.ignored e) ∧ Tree.parse rule = .ok t ∧
    ∀ name ∈ t.identifiers, context.absent.contains name = false

/-- The rule `-null` negates a literal. -/
theorem isCondition_negated (functions : FunctionTable) :
    IsCondition functions "-null" (.node .negate none ⟨0, 5⟩
      [.node (.literal .null) (some "null") ⟨1, 5⟩ []]) := by
  have split : (Body.of "-null".toList).tokens =
      .ok [⟨.mark .minus, ⟨0, 1⟩, "-"⟩, ⟨.null, ⟨1, 5⟩, "null"⟩] :=
    Lexer.tokens_of_split? (n := 2) rfl
  have operand : Grammar.Derives (Grammar.maxDepth - 1) .unary [⟨.null, ⟨1, 5⟩, "null"⟩]
      (.node (.literal .null) (some "null") ⟨1, 5⟩ []) [] :=
    Grammar.Derives.loosen (.literal rfl) (by decide)
  have listed : (Mark.minus, Kind.negate) ∈ Grammar.prefixOperators := List.mem_cons_self
  have parsed : Tree.parse "-null" = .ok (.node .negate none ⟨0, 5⟩
      [.node (.literal .null) (some "null") ⟨1, 5⟩ []]) := by
    refine Tree.parse_eq_ok_iff.mpr ⟨_, split, ?_, by decide⟩
    refine Grammar.Derives.loosen (.prefixed listed ?_ operand) (Nat.zero_le _)
    rfl
  exact ⟨⟨parsed, List.forall_mem_nil _⟩, rfl⟩

/-- The rule `fn:trim()` calls a function without arguments. -/
theorem isCondition_bareCall {functions : FunctionTable}
    (known : functions.contains "fn:trim" = true) :
    IsCondition functions "fn:trim()" (.node .function (some "fn:trim") ⟨0, 9⟩ []) := by
  have split : (Body.of "fn:trim()".toList).tokens = .ok [⟨.ident "fn", ⟨0, 2⟩, "fn"⟩,
      ⟨.mark .colon, ⟨2, 3⟩, ":"⟩, ⟨.ident "trim", ⟨3, 7⟩, "trim"⟩, ⟨.mark .openParen, ⟨7, 8⟩, "("⟩,
      ⟨.mark .closeParen, ⟨8, 9⟩, ")"⟩] :=
    Lexer.tokens_of_split? (n := 5) rfl
  have list : Grammar.Items (Grammar.maxDepth - 1) .closeParen [⟨.mark .closeParen, ⟨8, 9⟩, ")"⟩] []
      ⟨.mark .closeParen, ⟨8, 9⟩, ")"⟩ [] := .none rfl
  have parsed : Tree.parse "fn:trim()" = .ok (.node .function (some "fn:trim") ⟨0, 9⟩ []) := by
    refine Tree.parse_eq_ok_iff.mpr ⟨_, split, ?_, by decide⟩
    refine Grammar.Derives.loosen (.qualifiedCall ⟨"fn", rfl⟩ ?_ list) (Nat.zero_le _)
    exact ⟨rfl, ⟨"trim", rfl⟩, rfl, rfl, rfl⟩
  refine ⟨⟨parsed, ?_⟩, rfl⟩
  intro name member
  rw [List.mem_singleton.mp member]
  exact known

/-- A failure that the standard validator ignores by chance. -/
theorem ignoresByChance_of_truth (condition : IsCondition standard.functions rule t)
    (on : context.evaluate = true)
    (complete : t.identifiers.find? (Tree.lacks context) = none)
    (failed : t.truth ⟨standard.functions, context.resolve⟩ = .error e)
    (touched : t.leafImages.any context.absent.contains = true)
    (chance : ∀ name ∈ t.identifiers, context.absent.contains name = false) :
    standard.IgnoresByChance rule context := by
  refine ⟨e, t, ?_, condition.parsed, chance⟩
  rw [validate_of_on condition noTreeFault_standard on, complete, failed]
  dsimp only
  rw [if_pos touched]

/-- A member, a literal and a function may excuse a failure by chance. -/
theorem ignoresByChance_leaves :
    standard.IgnoresByChance "user.age" memberDocument.validationContext ∧
      standard.IgnoresByChance "-null" ⟨.ofResolver fun _ => none, .ofList ["null"], true⟩ ∧
      standard.IgnoresByChance "fn:trim()" ⟨.ofResolver fun _ => none, .ofList ["fn:trim"], true⟩ := by
  have known : standard.functions.contains "fn:trim" = true := by decide
  refine ⟨?_, ?_, ?_⟩
  · refine ignoresByChance_of_truth (isCondition_member _) rfl rfl rfl rfl ?_
    decide
  · exact ignoresByChance_of_truth (isCondition_negated _) rfl rfl rfl rfl (List.forall_mem_nil _)
  · exact ignoresByChance_of_truth (isCondition_bareCall known) rfl rfl rfl rfl (List.forall_mem_nil _)

end Validator

end TargetingRules
