import Mathlib.Data.List.Find
import TargetingRules.Proofs.Evaluation.Agreement
import TargetingRules.Proofs.Validation.Absence

/-!
# What the answer to a rule depends on

Two runs of the validator on one rule, in different surroundings. From one lawful scope to another with
more variables nothing changes but what a variable that is now defined explains: a rule that passes
still passes, and a value or a failure that is held against it stays. Functions, variables and absent
names that the rule does not mention have no influence at all on the answer, whether the scopes are
lawful or not; the log is another matter, since it lists every absent name.
-/

namespace TargetingRules

/-! ## More variables -/

/-- What may become of the answer to a rule when more variables are defined: the answer before, and
the one in a scope that has more of them. -/
inductive Settles (rule : String) (more : Scope) :
    Except Rejection Outcome → Except Rejection Outcome → Prop where
  /-- The answer stays as it is. -/
  | same (answer : Except Rejection Outcome) : Settles rule more answer answer
  /-- A failure was ignored; its variable is now defined, and the rule has a value. -/
  | evaluated {e : EvalError} (supplied : more.resolve.Supplies e) (b : Bool) :
      Settles rule more (.ok (.ignored e)) (.ok (.evaluated b))
  /-- A failure was ignored; its variable is now defined, and another failure is ignored. -/
  | ignored {e : EvalError} (supplied : more.resolve.Supplies e) (e' : EvalError) :
      Settles rule more (.ok (.ignored e)) (.ok (.ignored e'))
  /-- A variable was missing that is now defined. -/
  | found {name : String} {v : Value} (defined : more.resolve name = some v)
      (answer : Except Rejection Outcome) :
      Settles rule more (.error ⟨rule, .undefined name⟩) answer

/-- What a validator finds with some variables it also finds with more of them. -/
structure Validator.Persists (validator : Validator) (scope more : Scope) : Prop where
  /-- A compiled expression keeps its value and its error, unless the error is that a variable is
  missing which is now defined. -/
  evaluated : ∀ text type expression,
    (Expression.compile validator.functions text type).value = .ok expression →
      AgreeUnless more.resolve.Supplies (expression.evaluate scope.resolve)
          (expression.evaluate more.resolve) ∧
        AgreeUnless more.resolve.Supplies (expression.evaluateBool scope.resolve)
          (expression.evaluateBool more.resolve)
  /-- So does the answer to a rule. -/
  validated : ∀ rule absent evaluate, Settles rule more
    (validator.validate rule ⟨scope, absent, evaluate⟩)
    (validator.validate rule ⟨more, absent, evaluate⟩)

section More

variable {t s : Tree} {name : String} {scope more : Scope} {evaluate : Bool} {absent : NameSet}

/-- With more variables no more of them are missing. -/
theorem Tree.Misses.of_extends (lawful : scope.Lawful) (lawful' : more.Lawful)
    (extension : more.resolve.Extends scope.resolve)
    (misses : t.Misses ⟨more, absent, evaluate⟩ s name) :
    t.Misses ⟨scope, absent, evaluate⟩ s name := by
  have undefined : more.resolve name = none := lawful'.isDefined_eq_false_iff.mp misses.undefined
  refine { misses with undefined := lawful.isDefined_eq_false_iff.mpr ?_ }
  rcases extension.eq_or_supplies name with same | ⟨missing, _⟩
  · exact same.trans undefined
  · exact missing

theorem Tree.agreeUnless_truth {resolve more : Resolver} (extension : more.Extends resolve)
    (functions : FunctionTable) (t : Tree) :
    AgreeUnless more.Supplies (t.truth ⟨functions, resolve⟩) (t.truth ⟨functions, more⟩) :=
  (t.agreeUnless_of_extends extension functions).bind fun _ => .refl _

end More

namespace Validator

/-- With more variables the answer to a rule stays, but for missing variables. -/
theorem settles_validate (validator : Validator)
    (calls : validator.functions.CallsFailWith EvalError.NoTreeFault)
    (known : validator.functions.CallsFailWith fun e => e.isUnknownIdentifier = false)
    {scope more : Scope} (lawful : scope.Lawful) (lawful' : more.Lawful)
    (extension : more.resolve.Extends scope.resolve) (rule : String) (absent : NameSet)
    (evaluate : Bool) :
    Settles rule more (validator.validate rule ⟨scope, absent, evaluate⟩)
      (validator.validate rule ⟨more, absent, evaluate⟩) := by
  have decided : Decides validator.functions rule ⟨scope, absent, evaluate⟩
      (validator.validate rule ⟨scope, absent, evaluate⟩) := decides_validate calls
  have now {answer : Except Rejection Outcome}
      (decides : Decides validator.functions rule ⟨more, absent, evaluate⟩ answer) :
      validator.validate rule ⟨more, absent, evaluate⟩ = answer := validate_of_decides calls decides
  have complete_of {t : Tree} (complete : ∀ s name, ¬ t.Misses ⟨scope, absent, evaluate⟩ s name) :
      ∀ s name, ¬ t.Misses ⟨more, absent, evaluate⟩ s name :=
    fun s name misses => complete s name (misses.of_extends lawful lawful' extension)
  have agree (t : Tree) := t.agreeUnless_truth extension validator.functions
  generalize validator.validate rule ⟨scope, absent, evaluate⟩ = answer at decided ⊢
  cases decided with
  | empty blank =>
    rw [now (.empty blank)]
    exact .same _
  | malformed visible failed =>
    rw [now (.malformed visible failed)]
    exact .same _
  | unknownFunction parsed calls known unknown =>
    rw [now (.unknownFunction parsed calls known unknown)]
    exact .same _
  | disallowed compiles first =>
    rw [now (.disallowed compiles first)]
    exact .same _
  | checked condition off =>
    rw [now (.checked condition off)]
    exact .same _
  | @undefined t s name condition on misses stands leftmost =>
    cases value : more.resolve name with
    | some v => exact .found value _
    | none =>
      have leftmost' := fun s' name' (misses' : t.Misses ⟨more, absent, evaluate⟩ s' name') =>
        leftmost s' name' (misses'.of_extends lawful lawful' extension)
      have undefined := lawful'.isDefined_eq_false_iff.mpr value
      rw [now (.undefined condition on { misses with undefined := undefined } stands leftmost')]
      exact .same _
  | @evaluated t b condition on complete value =>
    rcases agree t with same | ⟨e, failed, _⟩
    · rw [now (.evaluated condition on (complete_of complete) (same.symm.trans value))]
      exact .same _
    · rw [value] at failed
      cases failed
  | @ignored t s name e condition on complete failed touches =>
    rcases agree t with same | ⟨e', failed', supplied⟩
    · rw [now (.ignored condition on (complete_of complete) (same.symm.trans failed) touches)]
      exact .same _
    · rw [failed] at failed'
      cases failed'
      cases value : t.truth ⟨validator.functions, more.resolve⟩ with
      | ok b =>
        rw [now (.evaluated condition on (complete_of complete) value)]
        exact .evaluated supplied b
      | error e' =>
        rw [now (.ignored condition on (complete_of complete) value touches)]
        exact .ignored supplied e'
  | @failed t e condition on complete failed untouched =>
    rcases agree t with same | ⟨e', failed', name, v, rfl, _⟩
    · rw [now (.failed condition on (complete_of complete) (same.symm.trans failed) untouched)]
      exact .same _
    · -- A missing variable is absent, and a leaf names it: such a failure is never held against a rule.
      obtain ⟨member, undefined⟩ := condition.missing_of_truth known failed'
      have listed := Tree.contains_of_find?_eq_none
        (Tree.find?_identifiers_eq_none_iff.mpr complete) member
        (lawful.isDefined_eq_false_iff.mpr undefined)
      have touched := Tree.any_leafImages_of_mem condition.parsed member listed
      obtain ⟨s, name, touches⟩ := Tree.any_leafImages_iff.mp touched
      exact absurd touches (untouched s name)

/-- Where functions report neither missing variables nor bookkeeping faults and the variables with a
value are the defined ones, defining more variables breaks no rule. -/
theorem persists (validator : Validator)
    (calls : validator.functions.CallsFailWith EvalError.NoTreeFault)
    (known : validator.functions.CallsFailWith fun e => e.isUnknownIdentifier = false)
    {scope more : Scope} (lawful : scope.Lawful) (lawful' : more.Lawful)
    (extension : more.resolve.Extends scope.resolve) : validator.Persists scope more := by
  constructor
  case evaluated =>
    intro text type expression _
    exact ⟨expression.agreeUnless_evaluate extension, expression.agreeUnless_evaluateBool extension⟩
  case validated =>
    intro rule absent evaluate
    exact validator.settles_validate calls known lawful lawful' extension rule absent evaluate

/-- A variable is added to none at all. -/
theorem persists_first_variable :
    FunctionTable.standard.CallsFailWith EvalError.NoTreeFault ∧
      (FunctionTable.standard.CallsFailWith fun e => e.isUnknownIdentifier = false) ∧
      (Scope.ofResolver fun _ => none).Lawful ∧
      (Scope.ofResolver fun name => if name = "flag" then some (.bool true) else none).Lawful ∧
      Resolver.Extends (fun name => if name = "flag" then some (.bool true) else none)
        (fun _ => none) ∧
      standard.Persists (.ofResolver fun _ => none)
        (.ofResolver fun name => if name = "flag" then some (.bool true) else none) := by
  have extension : Resolver.Extends (fun name => if name = "flag" then some (.bool true) else none)
      (fun _ => none) := fun name v defined => by cases defined
  have lawful := Scope.lawful_ofResolver fun _ => none
  have lawful' := Scope.lawful_ofResolver fun name => if name = "flag" then some (.bool true) else none
  exact ⟨noTreeFault_standard, found_standard, lawful, lawful', extension,
    persists standard noTreeFault_standard found_standard lawful lawful' extension⟩

end Validator

/-! ## What a rule does not mention -/

/-- Two validators in their contexts look the same to an expression: they agree on the variables, on
the functions and on the leaves that it names. -/
structure Tree.SeesSame (t : Tree) (validator validator' : Validator) (context context' : Context) :
    Prop where
  defined : ∀ name ∈ t.identifiers, context.isDefined name = context'.isDefined name
  resolved : ∀ name ∈ t.identifiers, context.resolve name = context'.resolve name
  called : ∀ name ∈ t.callees, validator.functions.get? name = validator'.functions.get? name
  absent : ∀ name ∈ t.leafImages, context.absent.contains name = context'.absent.contains name

section Sees

variable {validator validator' : Validator} {context context' : Context} {rule : String} {t : Tree}

/-- An expression has the same value for those that look the same to it. -/
theorem Tree.SeesSame.truth_eq (sees : t.SeesSame validator validator' context context') :
    t.truth ⟨validator.functions, context.resolve⟩ =
      t.truth ⟨validator'.functions, context'.resolve⟩ := by
  have agree : ∀ s ∈ t.preorder, Environment.AgreeAt (fun _ => False)
      ⟨validator.functions, context.resolve⟩ ⟨validator'.functions, context'.resolve⟩ s := by
    intro s inside
    constructor
    case resolves =>
      intro isVariable name named
      exact .inl (sees.resolved name (Tree.mem_identifiers inside isVariable named))
    case calls =>
      intro isCall name named
      have member := Tree.mem_callees inside isCall
      rw [named] at member
      exact sees.called name member
  have value := (Tree.agreeUnless_evaluate agree).eq fun _ => id
  rw [Tree.truth, Tree.truth, value]

/-- The scan for unknown functions finds the same in both tables. -/
theorem Tree.SeesSame.find?_callees (sees : t.SeesSame validator validator' context context') :
    (t.callees.find? fun name => !validator.functions.contains name) =
      t.callees.find? fun name => !validator'.functions.contains name := by
  refine List.find?_congr fun name member => ?_
  rw [Dictionary.contains, Dictionary.contains, sees.called name member]

/-- The scan of the leaves finds the same in both sets; none of them need be empty for that. -/
theorem Tree.SeesSame.any_leafImages (sees : t.SeesSame validator validator' context context') :
    t.leafImages.any context.absent.contains = t.leafImages.any context'.absent.contains := by
  rw [Bool.eq_iff_iff, List.any_eq_true, List.any_eq_true]
  refine exists_congr fun name => and_congr_right fun member => ?_
  rw [sees.absent name member]

/-- The scan for missing variables finds the same in both contexts, since every variable is a leaf. -/
theorem Tree.SeesSame.find?_identifiers (sees : t.SeesSame validator validator' context context')
    (parsed : Tree.parse rule = .ok t) :
    t.identifiers.find? (Tree.lacks context) = t.identifiers.find? (Tree.lacks context') := by
  refine List.find?_congr fun name member => ?_
  have leaf := Tree.identifiers_subset_leafImages parsed member
  rw [Tree.lacks, Tree.lacks, sees.defined name member, sees.absent name leaf]

namespace Validator

/-- A failure is ignored for both absent sets or for neither. -/
theorem ignores_eq_of_seesSame (sees : t.SeesSame validator validator' context context')
    (e : EvalError) :
    ignores (.ofTree t) context.absent e = ignores (.ofTree t) context'.absent e := by
  have touched := sees.any_leafImages
  rw [← touches_ofTree, ← touches_ofTree] at touched
  cases e with
  | tree fault => rfl
  | _ => exact touched

/-- A condition gets the same answer when it is evaluated. -/
theorem evaluate_eq_of_seesSame (parsed : Tree.parse rule = .ok t)
    (sees : t.SeesSame validator validator' context context') :
    (evaluate ⟨rule, .ofTree t, .boolean, validator.functions⟩ context).value =
      (evaluate ⟨rule, .ofTree t, .boolean, validator'.functions⟩ context').value := by
  simp only [evaluate_ofTree, sees.find?_identifiers parsed, sees.truth_eq,
    ignores_eq_of_seesSame sees]

/-- A rule passes the form check of both validators, or is rejected by both for the same reason. -/
theorem same_form (sees : ∀ t, Tree.parse rule = .ok t →
      t.SeesSame validator validator' context context') :
    (∃ rejection, (validator.compile rule).value = .error rejection ∧
        (validator'.compile rule).value = .error rejection) ∨
      ∃ t, IsCondition validator.functions rule t ∧ IsCondition validator'.functions rule t := by
  have compiled := validator.compile_value rule
  have compiled' := validator'.compile_value rule
  cases parsed : Tree.parse rule with
  | error e =>
    rw [parsed] at compiled compiled'
    exact .inl ⟨_, compiled, compiled'⟩
  | ok t =>
    simp only [parsed, ← (sees t parsed).find?_callees] at compiled compiled'
    cases unknown : t.callees.find? fun name => !validator.functions.contains name with
    | some name =>
      rw [unknown] at compiled compiled'
      exact .inl ⟨_, compiled, compiled'⟩
    | none =>
      have compiles := compiles_of_find?_callees parsed unknown
      have compiles' : Compiles validator'.functions rule t :=
        compiles_of_find?_callees parsed ((sees t parsed).find?_callees.symm.trans unknown)
      cases constructs : t.constructs with
      | cons construct others =>
        rw [unknown, constructs] at compiled compiled'
        exact .inl ⟨_, compiled, compiled'⟩
      | nil => exact .inr ⟨t, ⟨compiles, constructs⟩, ⟨compiles', constructs⟩⟩

/-- Validators give a rule the same answer in contexts of the same mode that look the same to it,
whatever else they hold and whatever their functions do. -/
theorem validate_eq_of_seesSame (mode : context.evaluate = context'.evaluate)
    (sees : ∀ t, Tree.parse rule = .ok t → t.SeesSame validator validator' context context') :
    validator.validate rule context = validator'.validate rule context' := by
  cases blank : isEmptyRule rule with
  | true => rw [validate_of_isEmptyRule blank, validate_of_isEmptyRule blank]
  | false =>
    rcases same_form sees with ⟨rejection, failed, failed'⟩ | ⟨t, condition, condition'⟩
    · rw [validate_of_compile blank failed, validate_of_compile blank failed']
    · have same := evaluate_eq_of_seesSame condition.parsed (sees t condition.parsed)
      rw [validate_of_isCondition condition, validate_of_isCondition condition', mode, same]

/-- A rule that calls a function is a condition where the function is known. -/
theorem isCondition_call {functions : FunctionTable} (known : functions.contains "fn:trim" = true) :
    IsCondition functions "fn:trim(flag)"
      (.node .function (some "fn:trim") ⟨0, 13⟩ [.node .identifier (some "flag") ⟨8, 12⟩ []]) := by
  have split : (Body.of "fn:trim(flag)".toList).tokens = .ok [⟨.ident "fn", ⟨0, 2⟩, "fn"⟩,
      ⟨.mark .colon, ⟨2, 3⟩, ":"⟩, ⟨.ident "trim", ⟨3, 7⟩, "trim"⟩, ⟨.mark .openParen, ⟨7, 8⟩, "("⟩,
      ⟨.ident "flag", ⟨8, 12⟩, "flag"⟩, ⟨.mark .closeParen, ⟨12, 13⟩, ")"⟩] :=
    Lexer.tokens_of_split? (n := 6) rfl
  have inner : Grammar.Derives (Grammar.maxDepth - 1) .primary [⟨.ident "flag", ⟨8, 12⟩, "flag"⟩,
      ⟨.mark .closeParen, ⟨12, 13⟩, ")"⟩] (.node .identifier (some "flag") ⟨8, 12⟩ [])
      [⟨.mark .closeParen, ⟨12, 13⟩, ")"⟩] := .identifier ⟨"flag", rfl⟩ id
  have list := Grammar.Items.some (.one (inner.loosen (Nat.zero_le _))) rfl
  have parsed : Tree.parse "fn:trim(flag)" = .ok (.node .function (some "fn:trim") ⟨0, 13⟩
      [.node .identifier (some "flag") ⟨8, 12⟩ []]) := by
    refine Tree.parse_eq_ok_iff.mpr ⟨_, split, ?_, by decide⟩
    refine Grammar.Derives.loosen (.qualifiedCall ⟨"fn", rfl⟩ ?_ list) (Nat.zero_le _)
    exact ⟨rfl, ⟨"trim", rfl⟩, rfl, rfl, rfl⟩
  refine ⟨⟨parsed, ?_⟩, rfl⟩
  intro name member
  rw [List.mem_singleton.mp member]
  exact known

/-- A rule that calls a function with a variable does not care for other functions, variables and
absent names. -/
theorem validate_call_eq :
    (∀ t, Tree.parse "fn:trim(flag)" = .ok t → t.SeesSame standard
        ⟨FunctionTable.standard.insert "fn:flag" (.variadic fun _ => .ok .null)⟩
        ⟨.ofResolver fun name => if name = "flag" then some (.bool true) else none,
          .ofList ["other"], true⟩
        ⟨.ofResolver fun _ => some (.bool true), .ofList [], true⟩) ∧
      standard.validate "fn:trim(flag)"
          ⟨.ofResolver fun name => if name = "flag" then some (.bool true) else none,
            .ofList ["other"], true⟩ =
        Validator.validate ⟨FunctionTable.standard.insert "fn:flag" (.variadic fun _ => .ok .null)⟩
          "fn:trim(flag)" ⟨.ofResolver fun _ => some (.bool true), .ofList [], true⟩ := by
  have sees : ∀ t, Tree.parse "fn:trim(flag)" = .ok t → t.SeesSame standard
      ⟨FunctionTable.standard.insert "fn:flag" (.variadic fun _ => .ok .null)⟩
      ⟨.ofResolver fun name => if name = "flag" then some (.bool true) else none,
        .ofList ["other"], true⟩
      ⟨.ofResolver fun _ => some (.bool true), .ofList [], true⟩ := by
    intro t parsed
    have known : FunctionTable.standard.contains "fn:trim" = true := by decide
    rw [(isCondition_call known).parsed] at parsed
    cases parsed
    constructor
    case defined =>
      intro name member
      rw [List.mem_singleton.mp member]
      rfl
    case resolved =>
      intro name member
      rw [List.mem_singleton.mp member]
      rfl
    case called =>
      intro name member
      rw [List.mem_singleton.mp member, Dictionary.get?_insert, if_neg (by decide)]
      rfl
    case absent =>
      intro name member
      rw [List.mem_singleton.mp member]
      rfl
  exact ⟨sees, validate_eq_of_seesSame rfl sees⟩

end Validator

end Sees

end TargetingRules
