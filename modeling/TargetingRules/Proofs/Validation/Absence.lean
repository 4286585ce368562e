import TargetingRules.Proofs.Validation.Decision

/-!
# Absent variables

What it does for a rule that names are declared absent. A variable that evaluation does not find is
one of these names, and the rule passes because of it. With more such names a rule that passed keeps
its outcome, and a failure that was held against it is at most forgiven.

Both statements rest on one fact about rules: every variable is a leaf, so the scan of the leaves sees
whatever the scan for missing variables let pass. The first one also needs a lawful scope, since
evaluation asks for a value where the scan asks whether there is one.
-/

namespace TargetingRules

/-! ## Variables and leaves -/

namespace Tree

variable {t : Tree} {rule name : String} {context : Context}

/-- The leaves of a rule name all its variables. -/
theorem identifiers_subset_leafImages (parsed : Tree.parse rule = .ok t) :
    t.identifiers ⊆ t.leafImages := by
  intro name member
  obtain ⟨s, inside, named⟩ := List.mem_filterMap.mp member
  have leaf : s.children = [] :=
    (evaluable_of_parse parsed).atomsAreLeaves s inside (isAtom_of_identifier? named)
  refine List.mem_filterMap.mpr ⟨s, inside, ?_⟩
  simp only [Label.leafImage?, Tree.label, leaf, List.isEmpty_nil, ↓reduceIte]
  exact (identifier?_eq_some_iff.mp named).2

/-- The scan of the leaves sees an absent variable. -/
theorem any_leafImages_of_mem (parsed : Tree.parse rule = .ok t) (member : name ∈ t.identifiers)
    {absent : NameSet} (listed : absent.contains name = true) :
    t.leafImages.any absent.contains = true :=
  List.any_eq_true.mpr ⟨name, identifiers_subset_leafImages parsed member, listed⟩

/-- Where the scan for missing variables finds none, a variable that is not defined is absent. -/
theorem contains_of_find?_eq_none (complete : t.identifiers.find? (lacks context) = none)
    (member : name ∈ t.identifiers) (undefined : context.isDefined name = false) :
    context.absent.contains name = true := by
  have excused := List.find?_eq_none.mp complete name member
  simpa [lacks, undefined] using excused

end Tree

/-! ## Variables that evaluation does not find -/

namespace Validator

variable {validator : Validator} {rule : String} {context : Context} {expression : Expression}

/-- Validating a rule in a context comes to the point where an expression is evaluated. -/
structure ComesToEvaluate (validator : Validator) (rule : String) (context : Context)
    (expression : Expression) : Prop where
  /-- The rule passes the form check. -/
  compiled : (validator.compile rule).value = .ok expression
  /-- Evaluation is asked for. -/
  asked : context.evaluate = true
  /-- Every variable is defined or declared absent. -/
  complete : expression.tree.undefined? context = none

/-- A variable that evaluation does not find is never held against a rule. -/
structure ForgivesMissing (validator : Validator) (rule : String) (context : Context) : Prop where
  /-- It is a variable of the rule that is not defined but declared absent, and the failure is
  ignored as it is. -/
  ignored : ∀ expression, validator.ComesToEvaluate rule context expression → ∀ name,
    expression.evaluateBool context.resolve = .error (.unknownIdentifier name) →
      name ∈ expression.tree.unfold.identifiers ∧ context.resolve name = none ∧
        context.absent.contains name = true ∧
        validator.validate rule context = .ok (.ignored (.unknownIdentifier name))
  /-- No rule is rejected for it. -/
  notFailed : ∀ text name,
    validator.validate rule context ≠ .error ⟨text, .failed (.unknownIdentifier name)⟩
  /-- Where nothing is declared absent, evaluation finds every variable. -/
  found : (∀ name, context.absent.contains name = false) → ∀ expression,
    validator.ComesToEvaluate rule context expression → ∀ name,
      expression.evaluateBool context.resolve ≠ .error (.unknownIdentifier name)

/-- Evaluation that does not find a variable comes upon an absent one, and is ignored. -/
theorem ComesToEvaluate.ignored (comes : validator.ComesToEvaluate rule context expression)
    (calls : validator.functions.CallsFailWith fun e => e.isUnknownIdentifier = false)
    (lawful : context.Lawful) {name : String}
    (failed : expression.evaluateBool context.resolve = .error (.unknownIdentifier name)) :
    name ∈ expression.tree.unfold.identifiers ∧ context.resolve name = none ∧
      context.absent.contains name = true ∧
      validator.validate rule context = .ok (.ignored (.unknownIdentifier name)) := by
  obtain ⟨compiled, asked, complete⟩ := comes
  obtain ⟨t, condition, rfl⟩ := exists_isCondition_of_compile compiled
  rw [undefined?_ofTree] at complete
  rw [Expression.evaluateBool_eq] at failed
  obtain ⟨member, undefined⟩ := condition.missing_of_truth calls failed
  have absent := Tree.contains_of_find?_eq_none complete member
    (lawful.isDefined_eq_false_iff.mpr undefined)
  refine ⟨by rwa [SyntaxTree.unfold_ofTree], undefined, absent, ?_⟩
  have touched := Tree.any_leafImages_of_mem condition.parsed member absent
  have ignores : ignores (.ofTree t) context.absent (.unknownIdentifier name) = true := by
    rw [← touched, ← touches_ofTree]
    rfl
  rw [validate_of_isCondition condition, if_pos asked, evaluate_ofTree, complete]
  simp only [failed, ignores, ↓reduceIte]

theorem failed_of_evaluate {text : String} {e : EvalError}
    (answer : (evaluate expression context).value = .error ⟨text, .failed e⟩) :
    expression.tree.undefined? context = none ∧
      expression.evaluateBool context.resolve = .error e := by
  unfold evaluate at answer
  split at answer
  next => cases answer
  next complete =>
    split at answer
    next => cases answer
    next e' failed =>
      split at answer
      next => cases answer
      next =>
        refine ⟨complete, ?_⟩
        rw [failed]
        cases e' with
        | tree fault => cases answer
        | _ => cases answer; rfl

/-- A failure that is held against a rule is that of its evaluation. -/
theorem exists_comesToEvaluate_of_failed {text : String} {e : EvalError}
    (answer : validator.validate rule context = .error ⟨text, .failed e⟩) :
    ∃ expression, validator.ComesToEvaluate rule context expression ∧
      expression.evaluateBool context.resolve = .error e := by
  have formal := validator.formal_compile rule
  unfold validate audit at answer
  split at answer
  next => cases answer
  next =>
    dsimp only at answer
    split at answer
    next rejection failed =>
      cases answer
      exact (formal _ failed).elim
    next expression compiled =>
      split at answer
      next asked =>
        obtain ⟨complete, failed⟩ := failed_of_evaluate answer
        exact ⟨expression, ⟨compiled, asked, complete⟩, failed⟩
      next => cases answer

/-- Where functions report no missing variables of their own and the variables with a value are the
defined ones, no missing variable is held against a rule. -/
theorem forgivesMissing (validator : Validator)
    (calls : validator.functions.CallsFailWith fun e => e.isUnknownIdentifier = false) (rule : String)
    (context : Context) (lawful : context.Lawful) : validator.ForgivesMissing rule context := by
  constructor
  case ignored => exact fun expression comes name failed => comes.ignored calls lawful failed
  case notFailed =>
    intro text name answer
    obtain ⟨expression, comes, failed⟩ := exists_comesToEvaluate_of_failed answer
    obtain ⟨_, _, _, passed⟩ := comes.ignored calls lawful failed
    rw [passed] at answer
    cases answer
  case found =>
    intro nothing expression comes name failed
    obtain ⟨_, _, absent, _⟩ := comes.ignored calls lawful failed
    rw [nothing name] at absent
    cases absent

/-- A rule that is one variable is a condition, whatever functions there are. -/
theorem isCondition_flag (functions : FunctionTable) :
    IsCondition functions "flag" (.node .identifier (some "flag") ⟨0, 4⟩ []) := by
  have split : (Body.of "flag".toList).tokens = .ok [⟨.ident "flag", ⟨0, 4⟩, "flag"⟩] :=
    Lexer.tokens_of_split? (n := 1) rfl
  have derived : Grammar.Derives Grammar.maxDepth .primary [⟨.ident "flag", ⟨0, 4⟩, "flag"⟩]
      (.node .identifier (some "flag") ⟨0, 4⟩ []) [] := .identifier ⟨"flag", rfl⟩ id
  have parsed : Tree.parse "flag" = .ok (.node .identifier (some "flag") ⟨0, 4⟩ []) :=
    Tree.parse_eq_ok_iff.mpr ⟨_, split, derived.loosen (Nat.zero_le _), by decide⟩
  have noCall : (Tree.node .identifier (some "flag") ⟨0, 4⟩ []).callees = [] := rfl
  exact ⟨⟨parsed, by simp [noCall]⟩, rfl⟩

theorem found_standard :
    FunctionTable.standard.CallsFailWith fun e => e.isUnknownIdentifier = false :=
  FunctionTable.ordinary_standard.mono fun _ => EvalError.IsOrdinary.known

/-- A rule that is one variable, which is declared absent and not defined. -/
theorem forgivesMissing_absent_variable :
    (FunctionTable.standard.CallsFailWith fun e => e.isUnknownIdentifier = false) ∧
      (Variables.scope .empty).Lawful ∧
      standard.ForgivesMissing "flag" ⟨Variables.scope .empty, .ofList ["flag"], true⟩ ∧
      standard.validate "flag" ⟨Variables.scope .empty, .ofList ["flag"], true⟩ =
        .ok (.ignored (.unknownIdentifier "flag")) := by
  have lawful := Variables.lawful_scope .empty
  have forgives := forgivesMissing standard found_standard "flag"
    ⟨Variables.scope .empty, .ofList ["flag"], true⟩ lawful
  have comes : standard.ComesToEvaluate "flag" ⟨Variables.scope .empty, .ofList ["flag"], true⟩
      ⟨"flag", .ofTree (.node .identifier (some "flag") ⟨0, 4⟩ []), .boolean, .standard⟩ := by
    refine ⟨compile_of_isCondition (isCondition_flag _), rfl, ?_⟩
    rw [undefined?_ofTree]
    rfl
  have failed : Expression.evaluateBool
      ⟨"flag", .ofTree (.node .identifier (some "flag") ⟨0, 4⟩ []), .boolean, .standard⟩
      (Variables.scope .empty).resolve = .error (.unknownIdentifier "flag") := by
    rw [Expression.evaluateBool_eq]
    rfl
  obtain ⟨_, _, _, passed⟩ := forgives.ignored _ comes "flag" failed
  exact ⟨found_standard, lawful, forgives, passed⟩

end Validator

/-! ## More absent names -/

/-- What may become of the answer to a rule when more names are declared absent: the answer before,
and the one in a context with more of them. -/
inductive Relaxes (rule : String) (context : Context) :
    Except Rejection Outcome → Except Rejection Outcome → Prop where
  /-- A rule that passes keeps its outcome. -/
  | passed (outcome : Outcome) : Relaxes rule context (.ok outcome) (.ok outcome)
  /-- A malformed rule is as malformed as before. -/
  | malformed (cause : EvalError) :
      Relaxes rule context (.error ⟨rule, .malformed cause⟩) (.error ⟨rule, .malformed cause⟩)
  /-- A disallowed construct stays disallowed. -/
  | disallowed (construct : Construct) :
      Relaxes rule context (.error ⟨rule, .disallowed construct⟩)
        (.error ⟨rule, .disallowed construct⟩)
  /-- A variable is missing still, and it is not among the absent names. -/
  | undefined (name : String) {other : String} (undefined : context.isDefined other = false)
      (required : context.absent.contains other = false) :
      Relaxes rule context (.error ⟨rule, .undefined name⟩) (.error ⟨rule, .undefined other⟩)
  /-- A variable that was missing is now absent, and the rule passes, whatever its evaluation does. -/
  | excused {name : String} (absent : context.absent.contains name = true) (outcome : Outcome) :
      Relaxes rule context (.error ⟨rule, .undefined name⟩) (.ok outcome)
  /-- A failure is held against the rule as before. -/
  | failed (e : EvalError) :
      Relaxes rule context (.error ⟨rule, .failed e⟩) (.error ⟨rule, .failed e⟩)
  /-- A failure is now ignored. -/
  | forgiven (e : EvalError) : Relaxes rule context (.error ⟨rule, .failed e⟩) (.ok (.ignored e))

/-- With more absent names no more variables are missing. -/
theorem Tree.Misses.of_subset {t s : Tree} {name : String} {scope : Scope} {evaluate : Bool}
    {absent larger : NameSet}
    (wider : ∀ name, absent.contains name = true → larger.contains name = true)
    (misses : t.Misses ⟨scope, larger, evaluate⟩ s name) :
    t.Misses ⟨scope, absent, evaluate⟩ s name := by
  refine { misses with required := ?_ }
  rw [Bool.eq_false_iff]
  intro listed
  have required := misses.required
  rw [wider name listed] at required
  cases required

namespace Validator

variable {validator : Validator} {rule : String} {scope : Scope} {evaluate : Bool}
  {absent larger : NameSet} {t s : Tree} {name : String}

/-- A rule that a missing variable stopped is excused by the scan of the leaves, once it gets past the
scan for missing variables. -/
theorem relaxes_of_misses (calls : validator.functions.CallsFailWith EvalError.NoTreeFault)
    (condition : IsCondition validator.functions rule t)
    (misses : t.Misses ⟨scope, absent, true⟩ s name) :
    Relaxes rule ⟨scope, larger, true⟩ (.error ⟨rule, .undefined name⟩)
      (validator.validate rule ⟨scope, larger, true⟩) := by
  obtain ⟨inside, isVariable, named, undefined, _⟩ := misses
  have member := Tree.mem_identifiers inside isVariable named
  rw [validate_of_on condition calls rfl]
  cases missing : t.identifiers.find? (Tree.lacks ⟨scope, larger, true⟩) with
  | some other =>
    have lacking : Tree.lacks ⟨scope, larger, true⟩ other = true := List.find?_some missing
    simp only [Tree.lacks, Bool.and_eq_true, Bool.not_eq_true'] at lacking
    exact .undefined name lacking.1 lacking.2
  | none =>
    have listed := Tree.contains_of_find?_eq_none missing member undefined
    have touched := Tree.any_leafImages_of_mem condition.parsed member listed
    cases t.truth ⟨validator.functions, scope.resolve⟩ with
    | ok b => exact .excused listed _
    | error e =>
      simp only [touched, ↓reduceIte]
      exact .excused listed _

/-- Where functions report no bookkeeping faults, declaring more names absent only relaxes the answer
to a rule. -/
theorem relaxes_validate (validator : Validator)
    (calls : validator.functions.CallsFailWith EvalError.NoTreeFault) (rule : String)
    (scope : Scope) (evaluate : Bool) {absent larger : NameSet}
    (wider : ∀ name, absent.contains name = true → larger.contains name = true) :
    Relaxes rule ⟨scope, larger, evaluate⟩ (validator.validate rule ⟨scope, absent, evaluate⟩)
      (validator.validate rule ⟨scope, larger, evaluate⟩) := by
  have decided : Decides validator.functions rule ⟨scope, absent, evaluate⟩
      (validator.validate rule ⟨scope, absent, evaluate⟩) := decides_validate calls
  have now {answer : Except Rejection Outcome}
      (decides : Decides validator.functions rule ⟨scope, larger, evaluate⟩ answer) :
      validator.validate rule ⟨scope, larger, evaluate⟩ = answer := validate_of_decides calls decides
  have complete_of {t : Tree} (complete : ∀ s name, ¬ t.Misses ⟨scope, absent, evaluate⟩ s name) :
      ∀ s name, ¬ t.Misses ⟨scope, larger, evaluate⟩ s name :=
    fun s name misses => complete s name (misses.of_subset wider)
  -- The cases before the variables do not read the absent names; the others are followed one by one.
  generalize validator.validate rule ⟨scope, absent, evaluate⟩ = answer at decided ⊢
  cases decided with
  | empty blank =>
    rw [now (.empty blank)]
    exact .passed _
  | malformed visible failed =>
    rw [now (.malformed visible failed)]
    exact .malformed _
  | unknownFunction parsed calls known unknown =>
    rw [now (.unknownFunction parsed calls known unknown)]
    exact .malformed _
  | disallowed compiles first =>
    rw [now (.disallowed compiles first)]
    exact .disallowed _
  | checked condition off =>
    rw [now (.checked condition off)]
    exact .passed _
  | undefined condition on misses stands leftmost =>
    cases on
    exact relaxes_of_misses calls condition misses
  | evaluated condition on complete value =>
    rw [now (.evaluated condition on (complete_of complete) value)]
    exact .passed _
  | ignored condition on complete failed touches =>
    have touches' := { touches with absent := wider _ touches.absent }
    rw [now (.ignored condition on (complete_of complete) failed touches')]
    exact .passed _
  | @failed t e condition on complete failed untouched =>
    by_cases touched : ∃ s name, t.Touches larger s name
    · obtain ⟨s, name, touches⟩ := touched
      rw [now (.ignored condition on (complete_of complete) failed touches)]
      exact .forgiven _
    · have untouched' := fun s name touches => touched ⟨s, name, touches⟩
      rw [now (.failed condition on (complete_of complete) failed untouched')]
      exact .failed _

/-- A rule that is one variable, which is not defined: it is rejected until it is declared absent. -/
theorem relaxes_absent_variable :
    FunctionTable.standard.CallsFailWith EvalError.NoTreeFault ∧
      (∀ name, (NameSet.ofList []).contains name = true →
        (NameSet.ofList ["flag"]).contains name = true) ∧
      Relaxes "flag" ⟨.ofResolver fun _ => none, .ofList ["flag"], true⟩
        (standard.validate "flag" ⟨.ofResolver fun _ => none, .ofList [], true⟩)
        (standard.validate "flag" ⟨.ofResolver fun _ => none, .ofList ["flag"], true⟩) := by
  have wider : ∀ name, (NameSet.ofList []).contains name = true →
      (NameSet.ofList ["flag"]).contains name = true := fun name listed => by cases listed
  exact ⟨noTreeFault_standard, wider,
    relaxes_validate standard noTreeFault_standard "flag" (.ofResolver fun _ => none) true wider⟩

end Validator

end TargetingRules
