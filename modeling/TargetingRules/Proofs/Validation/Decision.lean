import Mathlib.Data.List.Basic
import TargetingRules.Proofs.Syntax.Places
import TargetingRules.Proofs.Validation.Compiled

/-!
# The decision on a rule

Validating a rule is a sequence of scans over numbered nodes. What it decides is said here of the
expression that the rule states: an answer for each of nine cases, of which the first that applies
counts. The variable that a rejection names is the leftmost one in the text of the rule, although the
scan knows no places; this holds because the nodes are met in the order of the text.
-/

namespace TargetingRules

/-! ## Parts of an expression -/

/-- A part of an expression is a variable that a context neither defines nor declares absent. -/
structure Tree.Misses (t : Tree) (context : Context) (s : Tree) (name : String) : Prop where
  inside : s ∈ t.preorder
  isVariable : s.kind = .identifier
  named : s.image = some name
  undefined : context.isDefined name = false
  required : context.absent.contains name = false

/-- A part of an expression is a leaf that names an absent variable. -/
structure Tree.Touches (t : Tree) (absent : NameSet) (s : Tree) (name : String) : Prop where
  inside : s ∈ t.preorder
  isLeaf : s.children = []
  named : s.image = some name
  absent : absent.contains name = true

/-- The value of an expression, read as a truth value. -/
def Tree.truth (t : Tree) (env : Environment) : Except EvalError Bool := do
  (← t.evaluate env).truth

/-! ## The specification -/

/-- A rule states an expression, and every function that this calls is known. -/
structure Compiles (functions : FunctionTable) (rule : String) (t : Tree) : Prop where
  parsed : Tree.parse rule = .ok t
  known : ∀ name ∈ t.callees, functions.contains name = true

/-- A rule states an expression that may be evaluated as a condition. -/
structure IsCondition (functions : FunctionTable) (rule : String) (t : Tree) : Prop extends
    Compiles functions rule t where
  allowed : t.constructs = []

/-- The answer that a rule gets in a context. -/
inductive Decides (functions : FunctionTable) (rule : String) (context : Context) :
    Except Rejection Outcome → Prop where
  /-- The body is blank. -/
  | empty (blank : isEmptyRule rule = true) : Decides functions rule context (.ok .empty)
  /-- The text cannot be read. -/
  | malformed {e : ParseError} (visible : isEmptyRule rule = false)
      (failed : Tree.parse rule = .error e) :
      Decides functions rule context (.error ⟨rule, .malformed (.parse e)⟩)
  /-- A function is unknown; the first such one in pre-order is named. -/
  | unknownFunction {t : Tree} {before : List String} {name : String} {after : List String}
      (parsed : Tree.parse rule = .ok t) (calls : t.callees = before ++ name :: after)
      (known : ∀ earlier ∈ before, functions.contains earlier = true)
      (unknown : functions.contains name = false) :
      Decides functions rule context (.error ⟨rule, .malformed (.unknownFunction name)⟩)
  /-- There is a construct that rules must not use; the first one in pre-order is named. -/
  | disallowed {t : Tree} {construct : Construct} {others : List Construct}
      (compiles : Compiles functions rule t) (first : t.constructs = construct :: others) :
      Decides functions rule context (.error ⟨rule, .disallowed construct⟩)
  /-- Evaluation is off. -/
  | checked {t : Tree} (condition : IsCondition functions rule t) (off : context.evaluate = false) :
      Decides functions rule context (.ok .checked)
  /-- A variable is missing; the leftmost such one in the text of the rule is named. -/
  | undefined {t s : Tree} {name : String} (condition : IsCondition functions rule t)
      (on : context.evaluate = true) (misses : t.Misses context s name)
      (stands : s.atom.StandsIn 0 rule.toList)
      (leftmost : ∀ s' name', t.Misses context s' name' → s.span.start ≤ s'.span.start) :
      Decides functions rule context (.error ⟨rule, .undefined name⟩)
  /-- The expression has a value. -/
  | evaluated {t : Tree} {b : Bool} (condition : IsCondition functions rule t)
      (on : context.evaluate = true) (complete : ∀ s name, ¬ t.Misses context s name)
      (value : t.truth ⟨functions, context.resolve⟩ = .ok b) :
      Decides functions rule context (.ok (.evaluated b))
  /-- Evaluation fails, and a leaf names an absent variable. -/
  | ignored {t s : Tree} {name : String} {e : EvalError} (condition : IsCondition functions rule t)
      (on : context.evaluate = true) (complete : ∀ s name, ¬ t.Misses context s name)
      (failed : t.truth ⟨functions, context.resolve⟩ = .error e)
      (touches : t.Touches context.absent s name) :
      Decides functions rule context (.ok (.ignored e))
  /-- Evaluation fails, and no leaf names an absent variable. -/
  | failed {t : Tree} {e : EvalError} (condition : IsCondition functions rule t)
      (on : context.evaluate = true) (complete : ∀ s name, ¬ t.Misses context s name)
      (failed : t.truth ⟨functions, context.resolve⟩ = .error e)
      (untouched : ∀ s name, ¬ t.Touches context.absent s name) :
      Decides functions rule context (.error ⟨rule, .failed e⟩)

/-! ## The scans -/

/-- In a list whose fitting entries are in increasing order, the first fitting entry is the least. -/
theorem find?_eq_some_iff_least {α : Type} {xs : List α} {p : α → Bool} {place : α → Nat}
    (increasing : (xs.filter p).Pairwise fun x y => place x < place y) {x : α} :
    xs.find? p = some x ↔ x ∈ xs ∧ p x = true ∧ ∀ y ∈ xs, p y = true → place x ≤ place y := by
  have members : ∀ y, y ∈ xs.filter p ↔ y ∈ xs ∧ p y = true := fun y => List.mem_filter
  rw [← List.head?_filter, ← and_assoc, ← members]
  simp only [← and_imp, ← members]
  cases fitting : xs.filter p with
  | nil => simp
  | cons first others =>
    rw [fitting, List.pairwise_cons] at increasing
    rw [List.head?_cons, Option.some.injEq]
    constructor
    · rintro rfl
      refine ⟨List.mem_cons_self, fun y member => ?_⟩
      rcases List.mem_cons.mp member with rfl | later
      · exact Nat.le_refl _
      · exact Nat.le_of_lt (increasing.1 y later)
    · rintro ⟨member, least⟩
      rcases List.mem_cons.mp member with rfl | later
      · rfl
      · have before := increasing.1 x later
        have after := least first List.mem_cons_self
        omega

namespace Tree

variable {t : Tree} {context : Context}

/-- A name that a context neither defines nor declares absent. -/
def lacks (context : Context) (name : String) : Bool :=
  !context.isDefined name && !context.absent.contains name

theorem misses_iff {s : Tree} {name : String} : t.Misses context s name ↔
    s ∈ t.preorder ∧ s.label.identifier? = some name ∧ lacks context name = true := by
  simp only [identifier?_eq_some_iff, lacks, Bool.and_eq_true, Bool.not_eq_true']
  constructor
  · rintro ⟨inside, isVariable, named, undefined, required⟩
    exact ⟨inside, ⟨isVariable, named⟩, undefined, required⟩
  · rintro ⟨inside, ⟨isVariable, named⟩, undefined, required⟩
    exact ⟨inside, isVariable, named, undefined, required⟩

/-- A variable of an expression is an atom. -/
theorem isAtom_of_identifier? {s : Tree} {name : String} (named : s.label.identifier? = some name) :
    s.kind.isAtom = true := by
  rw [(identifier?_eq_some_iff.mp named).1]
  rfl

/-- The missing variables of a rule stand from left to right in pre-order. -/
theorem pairwise_missing {rule : String} (parsed : Tree.parse rule = .ok t) (context : Context) :
    (t.preorder.filter fun s => s.label.identifier?.any (lacks context)).Pairwise
      fun s s' => s.span.start < s'.span.start := by
  have atoms := pairwise_atoms_of_parse parsed
  rw [Tree.atoms, List.pairwise_map] at atoms
  refine atoms.sublist (List.monotone_filter_right t.preorder fun s missing => ?_)
  obtain ⟨name, named, _⟩ := (Option.any_eq_true _ _).mp missing
  exact isAtom_of_identifier? named

/-- A variable of a rule stands at its place in the text of the rule. -/
theorem standsIn_of_identifier? {rule : String} (parsed : Tree.parse rule = .ok t) {s : Tree}
    (inside : s ∈ t.preorder) {name : String} (named : s.label.identifier? = some name) :
    s.atom.StandsIn 0 rule.toList := by
  refine standsIn_of_parse parsed _ (List.mem_map_of_mem (List.mem_filter.mpr ⟨inside, ?_⟩))
  exact isAtom_of_identifier? named

/-- The scan for missing variables finds the leftmost one. -/
theorem find?_identifiers_eq_some_iff {rule : String} (parsed : Tree.parse rule = .ok t)
    {name : String} : t.identifiers.find? (lacks context) = some name ↔
      ∃ s, t.Misses context s name ∧ s.atom.StandsIn 0 rule.toList ∧
        ∀ s' name', t.Misses context s' name' → s.span.start ≤ s'.span.start := by
  have increasing := pairwise_missing parsed context
  rw [identifiers, List.find?_filterMap]
  simp only [Option.bind_eq_some_iff, find?_eq_some_iff_least increasing, Option.any_eq_true]
  constructor
  · rintro ⟨s, ⟨inside, ⟨name', named', missing⟩, least⟩, named⟩
    rw [named] at named'
    cases named'
    refine ⟨s, misses_iff.mpr ⟨inside, named, missing⟩, standsIn_of_identifier? parsed inside named, ?_⟩
    intro s' name' misses
    obtain ⟨inside', named', missing'⟩ := misses_iff.mp misses
    exact least s' inside' ⟨name', named', missing'⟩
  · rintro ⟨s, misses, stands, leftmost⟩
    obtain ⟨inside, named, missing⟩ := misses_iff.mp misses
    refine ⟨s, ⟨inside, ⟨name, named, missing⟩, ?_⟩, named⟩
    rintro s' inside' ⟨name', named', missing'⟩
    exact leftmost s' name' (misses_iff.mpr ⟨inside', named', missing'⟩)

/-- The scan for missing variables finds none where there is none. -/
theorem find?_identifiers_eq_none_iff :
    t.identifiers.find? (lacks context) = none ↔ ∀ s name, ¬ t.Misses context s name := by
  simp only [List.find?_eq_none, identifiers, List.mem_filterMap]
  constructor
  · intro none s name misses
    obtain ⟨inside, named, missing⟩ := misses_iff.mp misses
    exact none name ⟨s, inside, named⟩ missing
  · rintro complete name ⟨s, inside, named⟩ missing
    exact complete s name (misses_iff.mpr ⟨inside, named, missing⟩)

/-- The scan of the leaves finds one that names an absent variable just if there is one. -/
theorem any_leafImages_iff {absent : NameSet} :
    t.leafImages.any absent.contains = true ↔ ∃ s name, t.Touches absent s name := by
  have isLeaf (s : Tree) : s.label.isLeaf = true ↔ s.children = [] := List.isEmpty_iff
  simp only [List.any_eq_true, leafImages, List.mem_filterMap, Label.leafImage?,
    Option.ite_none_right_eq_some, isLeaf]
  constructor
  · rintro ⟨name, ⟨s, inside, leaf, named⟩, listed⟩
    exact ⟨s, name, inside, leaf, named, listed⟩
  · rintro ⟨s, name, inside, leaf, named, listed⟩
    exact ⟨name, ⟨s, inside, leaf, named⟩, listed⟩

end Tree

/-! ## The validator -/

/-- The scan for unknown functions finds none in a rule that compiles. -/
theorem Compiles.find?_callees {functions : FunctionTable} {rule : String} {t : Tree}
    (compiles : Compiles functions rule t) :
    (t.callees.find? fun name => !functions.contains name) = none := by
  simpa [List.find?_eq_none] using compiles.known

/-- A rule compiles if that scan finds none. -/
theorem compiles_of_find?_callees {functions : FunctionTable} {rule : String} {t : Tree}
    (parsed : Tree.parse rule = .ok t)
    (none : (t.callees.find? fun name => !functions.contains name) = .none) :
    Compiles functions rule t := by
  refine ⟨parsed, fun name inside => ?_⟩
  simpa using List.find?_eq_none.mp none name inside

theorem Expression.evaluateBool_eq (rule : String) (t : Tree) (functions : FunctionTable)
    (resolve : Resolver) : Expression.evaluateBool ⟨rule, .ofTree t, .boolean, functions⟩ resolve =
      t.truth ⟨functions, resolve⟩ := by
  unfold evaluateBool evaluate Tree.truth
  rw [SyntaxTree.evaluate_eq_unfold, SyntaxTree.unfold_ofTree]
  cases t.evaluate ⟨functions, resolve⟩ with
  | error e => rfl
  | ok v =>
    change (do (← ResultType.boolean.coerce v).truth) = v.truth
    unfold ResultType.coerce
    dsimp only
    cases v.truth <;> rfl

/-- A condition fails with ordinary errors, with errors of its functions, or because a variable is not
defined. -/
theorem IsCondition.failsWith_truth {functions : FunctionTable} {rule : String} {t : Tree}
    (condition : IsCondition functions rule t) {allowed : EvalError → Prop}
    (ordinary : ∀ e, EvalError.IsOrdinary e → allowed e) (calls : functions.CallsFailWith allowed)
    {resolve : Resolver} (identifiers : ∀ name ∈ t.identifiers,
      resolve name = none → allowed (.unknownIdentifier name)) :
    FailsWith allowed (t.truth ⟨functions, resolve⟩) := by
  have compiled : (Expression.compile functions rule .boolean).value =
      .ok ⟨rule, .ofTree t, .boolean, functions⟩ :=
    Expression.compile_eq_ok_iff.mpr ⟨t, condition.parsed, condition.known, rfl⟩
  have supported : (SyntaxTree.ofTree t).disallowed? = none := by
    rw [SyntaxTree.disallowed?_eq, SyntaxTree.unfold_ofTree, condition.allowed, List.head?_nil]
  rw [← Expression.evaluateBool_eq rule]
  apply Expression.failsWith_evaluateBool compiled ordinary calls (.inl supported)
  rwa [SyntaxTree.unfold_ofTree]

/-- A condition whose functions report no bookkeeping fault fails with none. -/
theorem IsCondition.noTreeFault_truth {functions : FunctionTable} {rule : String} {t : Tree}
    (condition : IsCondition functions rule t)
    (calls : functions.CallsFailWith EvalError.NoTreeFault) (resolve : Resolver) :
    FailsWith EvalError.NoTreeFault (t.truth ⟨functions, resolve⟩) :=
  condition.failsWith_truth (fun _ => EvalError.IsOrdinary.noTreeFault) calls
    fun _ _ _ _ same => EvalError.noConfusion same

/-- A condition fails for a missing variable only where it names one, as long as its functions report
none of their own. -/
theorem IsCondition.missing_of_truth {functions : FunctionTable} {rule : String} {t : Tree}
    (condition : IsCondition functions rule t)
    (calls : functions.CallsFailWith fun e => e.isUnknownIdentifier = false) {resolve : Resolver}
    {name : String} (failed : t.truth ⟨functions, resolve⟩ = .error (.unknownIdentifier name)) :
    name ∈ t.identifiers ∧ resolve name = none := by
  have other : ∀ e : EvalError, e.isUnknownIdentifier = false →
      ∀ name, e = .unknownIdentifier name → name ∈ t.identifiers ∧ resolve name = none := by
    rintro e isOther name rfl
    cases isOther
  refine condition.failsWith_truth (fun e ordinary => other e ordinary.known) (calls.mono other)
    (fun name' member undefined name same => ?_) _ failed name rfl
  cases same
  exact ⟨member, undefined⟩

theorem Rejection.ofEvalError_of_noTreeFault {rule : String} {e : EvalError}
    (noFault : e.NoTreeFault) : Rejection.ofEvalError rule e = ⟨rule, .failed e⟩ := by
  cases e with
  | tree fault => exact absurd rfl (noFault fault)
  | _ => rfl

namespace Validator

variable {validator : Validator} {rule : String} {context : Context}

theorem ignores_of_noTreeFault {tree : SyntaxTree} {absent : NameSet} {e : EvalError}
    (noFault : e.NoTreeFault) : ignores tree absent e = tree.touches absent := by
  cases e with
  | tree fault => exact absurd rfl (noFault fault)
  | _ => rfl

/-- The answer of the form check for a condition. -/
theorem compile_of_isCondition {t : Tree} (condition : IsCondition validator.functions rule t) :
    (validator.compile rule).value = .ok ⟨rule, .ofTree t, .boolean, validator.functions⟩ := by
  simp only [compile_value, condition.parsed, condition.find?_callees, condition.allowed,
    List.head?_nil]

/-- A rule that passes the form check is a condition. -/
theorem exists_isCondition_of_compile {expression : Expression}
    (compiled : (validator.compile rule).value = .ok expression) :
    ∃ t, IsCondition validator.functions rule t ∧
      expression = ⟨rule, .ofTree t, .boolean, validator.functions⟩ := by
  obtain ⟨compiles, allowed⟩ := compile_eq_ok compiled
  obtain ⟨t, parsed, known, rfl⟩ := Expression.compile_eq_ok_iff.mp compiles
  rw [SyntaxTree.disallowed?_eq, SyntaxTree.unfold_ofTree, List.head?_eq_none_iff] at allowed
  exact ⟨t, ⟨⟨parsed, known⟩, allowed⟩, rfl⟩

/-- The answer for a rule with a body: the form check comes first, then the evaluation if it is asked
for. -/
theorem validate_of_visible (visible : isEmptyRule rule = false) :
    validator.validate rule context = (validator.compile rule).value >>= fun expression =>
      if context.evaluate then (evaluate expression context).value else .ok .checked := by
  unfold validate audit
  rw [if_neg (Bool.eq_false_iff.mp visible)]
  dsimp only
  cases (validator.compile rule).value with
  | error rejection => rfl
  | ok expression =>
    dsimp only [bind, Except.bind]
    split <;> rfl

/-- The answer for a condition. -/
theorem validate_of_isCondition {t : Tree} (condition : IsCondition validator.functions rule t) :
    validator.validate rule context =
      if context.evaluate then
        (evaluate ⟨rule, .ofTree t, .boolean, validator.functions⟩ context).value
      else .ok .checked := by
  rw [validate_of_visible (Tree.not_isEmptyRule_of_parse condition.parsed),
    compile_of_isCondition condition]
  rfl

theorem undefined?_ofTree (t : Tree) (context : Context) :
    (SyntaxTree.ofTree t).undefined? context = t.identifiers.find? (Tree.lacks context) := by
  rw [SyntaxTree.undefined?_eq, SyntaxTree.unfold_ofTree]
  rfl

theorem touches_ofTree (t : Tree) (absent : NameSet) :
    (SyntaxTree.ofTree t).touches absent = t.leafImages.any absent.contains := by
  rw [SyntaxTree.touches_eq, SyntaxTree.unfold_ofTree]

/-- The answer of the evaluation, read off the expression. -/
theorem evaluate_ofTree (rule : String) (t : Tree) (functions : FunctionTable) (context : Context) :
    (evaluate ⟨rule, .ofTree t, .boolean, functions⟩ context).value =
      match t.identifiers.find? (Tree.lacks context) with
      | some name => .error ⟨rule, .undefined name⟩
      | none =>
        match t.truth ⟨functions, context.resolve⟩ with
        | .ok b => .ok (.evaluated b)
        | .error e =>
          if ignores (.ofTree t) context.absent e then .ok (.ignored e)
          else .error (.ofEvalError rule e) := by
  unfold evaluate
  simp only [undefined?_ofTree, Expression.evaluateBool_eq]
  cases t.identifiers.find? (Tree.lacks context) with
  | some name => rfl
  | none =>
    cases t.truth ⟨functions, context.resolve⟩ with
    | ok b => rfl
    | error e =>
      dsimp only
      split <;> rfl

/-- The answer for a condition that is evaluated. -/
theorem validate_of_on {t : Tree} (condition : IsCondition validator.functions rule t)
    (calls : validator.functions.CallsFailWith EvalError.NoTreeFault)
    (on : context.evaluate = true) :
    validator.validate rule context =
      match t.identifiers.find? (Tree.lacks context) with
      | some name => .error ⟨rule, .undefined name⟩
      | none =>
        match t.truth ⟨validator.functions, context.resolve⟩ with
        | .ok b => .ok (.evaluated b)
        | .error e =>
          if t.leafImages.any context.absent.contains then .ok (.ignored e)
          else .error ⟨rule, .failed e⟩ := by
  have fails := condition.noTreeFault_truth calls context.resolve
  rw [validate_of_isCondition condition, if_pos on, evaluate_ofTree]
  cases t.identifiers.find? (Tree.lacks context) with
  | some name => rfl
  | none =>
    cases value : t.truth ⟨validator.functions, context.resolve⟩ with
    | ok b => rfl
    | error e =>
      have noFault := fails e value
      dsimp only
      rw [ignores_of_noTreeFault noFault, touches_ofTree, Rejection.ofEvalError_of_noTreeFault noFault]

/-- The answer for a rule without a body. -/
theorem validate_of_isEmptyRule (blank : isEmptyRule rule = true) :
    validator.validate rule context = .ok .empty := by
  unfold validate audit
  rw [if_pos blank]

/-- The answer for a rule that does not pass the form check. -/
theorem validate_of_compile {rejection : Rejection} (visible : isEmptyRule rule = false)
    (failed : (validator.compile rule).value = .error rejection) :
    validator.validate rule context = .error rejection := by
  rw [validate_of_visible visible, failed]
  rfl

/-- The validator decides on a condition that is evaluated. -/
theorem decides_of_on {t : Tree} (condition : IsCondition validator.functions rule t)
    (calls : validator.functions.CallsFailWith EvalError.NoTreeFault)
    (on : context.evaluate = true) :
    Decides validator.functions rule context (validator.validate rule context) := by
  rw [validate_of_on condition calls on]
  cases missing : t.identifiers.find? (Tree.lacks context) with
  | some name =>
    obtain ⟨s, misses, stands, leftmost⟩ :=
      (Tree.find?_identifiers_eq_some_iff condition.parsed).mp missing
    exact .undefined condition on misses stands leftmost
  | none =>
    have complete := Tree.find?_identifiers_eq_none_iff.mp missing
    cases value : t.truth ⟨validator.functions, context.resolve⟩ with
    | ok b => exact .evaluated condition on complete value
    | error e =>
      dsimp only
      split
      next touched =>
        obtain ⟨s, name, touches⟩ := Tree.any_leafImages_iff.mp touched
        exact .ignored condition on complete value touches
      next untouched =>
        refine .failed condition on complete value fun s name touches => untouched ?_
        exact Tree.any_leafImages_iff.mpr ⟨s, name, touches⟩

/-- The validator gives the answer of a case that applies. -/
theorem decides_validate
    (calls : validator.functions.CallsFailWith EvalError.NoTreeFault) :
    Decides validator.functions rule context (validator.validate rule context) := by
  cases empty : isEmptyRule rule with
  | true =>
    rw [validate_of_isEmptyRule empty]
    exact .empty empty
  | false =>
    have compiled := validator.compile_value rule
    cases parsed : Tree.parse rule with
    | error e =>
      rw [parsed] at compiled
      rw [validate_of_compile empty compiled]
      exact .malformed empty parsed
    | ok t =>
      simp only [parsed] at compiled
      cases unknown : t.callees.find? fun name => !validator.functions.contains name with
      | some name =>
        rw [unknown] at compiled
        rw [validate_of_compile empty compiled]
        obtain ⟨isUnknown, before, after, calls, known⟩ := List.find?_eq_some_iff_append.mp unknown
        refine .unknownFunction parsed calls (fun earlier inside => ?_) (by simpa using isUnknown)
        simpa using known earlier inside
      | none =>
        have compiles := compiles_of_find?_callees parsed unknown
        cases constructs : t.constructs with
        | cons construct others =>
          rw [unknown, constructs] at compiled
          rw [validate_of_compile empty compiled]
          exact .disallowed compiles constructs
        | nil =>
          have condition : IsCondition validator.functions rule t := ⟨compiles, constructs⟩
          cases on : context.evaluate with
          | true => exact decides_of_on condition calls on
          | false =>
            rw [validate_of_isCondition condition, on]
            exact .checked condition on

/-- A case that applies has the answer that the validator gives. -/
theorem validate_of_decides
    (calls : validator.functions.CallsFailWith EvalError.NoTreeFault)
    {answer : Except Rejection Outcome}
    (decides : Decides validator.functions rule context answer) :
    validator.validate rule context = answer := by
  cases decides with
  | empty blank => exact validate_of_isEmptyRule blank
  | malformed notBlank failed =>
    apply validate_of_compile notBlank
    rw [compile_value, failed]
  | @unknownFunction t before name after parsed calls known unknown =>
    have first : (t.callees.find? fun name => !validator.functions.contains name) = some name := by
      refine List.find?_eq_some_iff_append.mpr ⟨by simp [unknown], before, after, calls, ?_⟩
      intro earlier inside
      simp [known earlier inside]
    apply validate_of_compile (Tree.not_isEmptyRule_of_parse parsed)
    simp only [compile_value, parsed, first]
  | @disallowed t construct others compiles first =>
    apply validate_of_compile (Tree.not_isEmptyRule_of_parse compiles.parsed)
    simp only [compile_value, compiles.parsed, compiles.find?_callees, first, List.head?_cons]
  | checked condition off =>
    rw [validate_of_isCondition condition, off]
    rfl
  | undefined condition on misses stands leftmost =>
    have missing := (Tree.find?_identifiers_eq_some_iff condition.parsed).mpr
      ⟨_, misses, stands, leftmost⟩
    rw [validate_of_on condition calls on, missing]
  | evaluated condition on complete value =>
    have missing := Tree.find?_identifiers_eq_none_iff.mpr complete
    rw [validate_of_on condition calls on, missing]
    simp only [value]
  | ignored condition on complete failed touches =>
    have missing := Tree.find?_identifiers_eq_none_iff.mpr complete
    have touched := Tree.any_leafImages_iff.mpr ⟨_, _, touches⟩
    rw [validate_of_on condition calls on, missing]
    simp only [failed, touched, ↓reduceIte]
  | failed condition on complete failed untouched =>
    have missing := Tree.find?_identifiers_eq_none_iff.mpr complete
    rw [validate_of_on condition calls on, missing]
    simp only [failed]
    apply if_neg
    intro touched
    obtain ⟨s, name, touches⟩ := Tree.any_leafImages_iff.mp touched
    exact untouched s name touches

/-- Where functions report no bookkeeping faults, a validator gives just the answer that the first
case that applies has for the rule. -/
theorem validate_eq_iff_decides (validator : Validator)
    (calls : validator.functions.CallsFailWith EvalError.NoTreeFault) (rule : String)
    (context : Context) (answer : Except Rejection Outcome) :
    validator.validate rule context = answer ↔
      Decides validator.functions rule context answer := by
  constructor
  · rintro rfl
    exact decides_validate calls
  · exact validate_of_decides calls

theorem noTreeFault_standard : FunctionTable.standard.CallsFailWith EvalError.NoTreeFault :=
  FunctionTable.ordinary_standard.mono fun _ => EvalError.IsOrdinary.noTreeFault

/-- A rule that is one variable, in a context without variables. -/
theorem validate_lone_variable :
    FunctionTable.standard.CallsFailWith EvalError.NoTreeFault ∧
      Validator.standard.validate "flag" ⟨.ofResolver fun _ => none, .ofList [], true⟩ =
        .error ⟨"flag", .undefined "flag"⟩ := by
  refine ⟨noTreeFault_standard, ?_⟩
  rw [validate_eq_iff_decides standard noTreeFault_standard]
  have read : Lexer.lexeme 0 'f' ['l', 'a', 'g'] = .ok (.ident "flag", 3) := rfl
  have split : (Body.of "flag".toList).tokens = .ok [⟨.ident "flag", ⟨0, 4⟩, "flag"⟩] :=
    Lexer.tokens_of_splits (.lexeme rfl (Lexer.lexeme_eq_ok_iff.mp read) rfl .nil)
  have derived : Grammar.Derives Grammar.maxDepth .primary [⟨.ident "flag", ⟨0, 4⟩, "flag"⟩]
      (.node .identifier (some "flag") ⟨0, 4⟩ []) [] := .identifier ⟨"flag", rfl⟩ id
  have parsed : Tree.parse "flag" = .ok (.node .identifier (some "flag") ⟨0, 4⟩ []) :=
    Tree.parse_eq_ok_iff.mpr ⟨_, split, derived.loosen (Nat.zero_le _), by decide⟩
  have noCall : (Tree.node .identifier (some "flag") ⟨0, 4⟩ []).callees = [] := rfl
  have condition : IsCondition FunctionTable.standard "flag"
      (.node .identifier (some "flag") ⟨0, 4⟩ []) := ⟨⟨parsed, by simp [noCall]⟩, rfl⟩
  refine .undefined condition rfl ⟨List.mem_cons_self, rfl, rfl, rfl, rfl⟩ ?_ ?_
  · exact ⟨"flag", [], [], rfl, rfl, rfl, rfl⟩
  · intro s' name' misses
    exact Nat.zero_le _

end Validator

end TargetingRules
