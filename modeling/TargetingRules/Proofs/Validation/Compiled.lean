import TargetingRules.Proofs.Evaluation.Faultless
import TargetingRules.Proofs.Syntax.Lexing
import TargetingRules.Proofs.Syntax.Parsing
import TargetingRules.Proofs.Syntax.Refusal
import TargetingRules.Proofs.Syntax.Shape
import TargetingRules.Proofs.Validation.Scans

/-!
# Compiled rules

A rule compiles just if it states an expression that calls known functions alone. The literals of
such an expression have values, so evaluation meets none of the faults that would be the evaluator's
own. What errors a compiled rule can end with then depends on its functions and on whether it contains
a construct that has no value.
-/

namespace TargetingRules

/-! ## Expressions of rules -/

theorem IsReadable.of_token {token : Token} {kind : LiteralKind} (decodes : Lexer.Decodes token)
    (isLiteral : Grammar.literal? token.kind = some kind) : IsReadable kind token.text := by
  cases known : token.kind <;> rw [known] at isLiteral <;> cases isLiteral
  case number x =>
    refine ⟨.number x, ?_⟩
    simp only [LiteralKind.evaluate, decodes.number x known]
  case str s =>
    refine ⟨.ofChars s.toList, ?_⟩
    simp only [LiteralKind.evaluate, decodes.string s known]
  all_goals exact ⟨_, rfl⟩

namespace Tree

/-- The literals of the expression that a rule states have values. -/
theorem evaluable_of_parse {rule : String} {t : Tree} (parsed : Tree.parse rule = .ok t) :
    Evaluable t := by
  obtain ⟨tokens, split, derived, low⟩ := parse_eq_ok_iff.mp parsed
  have decodes := (Lexer.splits_of_tokens split).decodes
  refine derived.formed ⟨fun _ _ _ => trivial, fun token member kind isLiteral => ?_⟩
  exact .of_token (decodes token member) isLiteral

/-- The blank bodies are the ones without tokens. -/
theorem tokens_eq_nil_iff {rule : String} :
    (Body.of rule.toList).tokens = .ok [] ↔ isEmptyRule rule = true := by
  rw [isEmptyRule, List.all_eq_true]
  exact Lexer.tokens_eq_nil_iff

/-- The rules that are refused as empty are the ones with a blank body. -/
theorem parse_eq_empty_iff {rule : String} :
    Tree.parse rule = .error .empty ↔ isEmptyRule rule = true := by
  rw [← tokens_eq_nil_iff]
  constructor
  · intro refused
    by_contra visible
    exact failsLocally_parse visible .empty refused
  · intro none
    rw [Tree.parse, none]
    rfl

theorem not_isEmptyRule_of_parse {rule : String} {t : Tree} (parsed : Tree.parse rule = .ok t) :
    isEmptyRule rule = false := by
  rw [Bool.eq_false_iff]
  intro empty
  rw [parse_eq_empty_iff.mpr empty] at parsed
  cases parsed

end Tree

/-! ## Compilation -/

namespace Expression

variable {functions : FunctionTable} {text : String} {type : ResultType}

/-- The answer of a compilation, read off the expression that the rule states. -/
theorem compile_value (functions : FunctionTable) (text : String) (type : ResultType) :
    (compile functions text type).value =
      match Tree.parse text with
      | .error e => .error (.parse e)
      | .ok t =>
        match t.callees.find? fun name => !functions.contains name with
        | some name => .error (.unknownFunction name)
        | none => .ok ⟨text, .ofTree t, type, functions⟩ := by
  unfold compile SyntaxTree.parse
  cases Tree.parse text with
  | error e => rfl
  | ok t =>
    simp only [Except.map, SyntaxTree.unknownFunction?_eq, SyntaxTree.unfold_ofTree]
    cases t.callees.find? fun name => !functions.contains name <;> rfl

theorem compile_eq_ok_iff {expression : Expression} :
    (compile functions text type).value = .ok expression ↔
      ∃ t, Tree.parse text = .ok t ∧ (∀ name ∈ t.callees, functions.contains name = true) ∧
        expression = ⟨text, .ofTree t, type, functions⟩ := by
  have known (t : Tree) : (∀ name ∈ t.callees, functions.contains name = true) ↔
      (t.callees.find? fun name => !functions.contains name) = none := by
    simp [List.find?_eq_none]
  simp only [compile_value, known]
  cases Tree.parse text with
  | error e => simp
  | ok t =>
    simp only [Except.ok.injEq, exists_eq_left']
    cases t.callees.find? fun name => !functions.contains name with
    | some name => simp
    | none => simp [eq_comm]

/-- A rule fails to compile because its text cannot be read or for a function that there is not. -/
theorem failsWith_compile (functions : FunctionTable) (text : String) (type : ResultType) :
    FailsWith (fun e => (∃ p, e = .parse p ∧ p.IsTextual) ∨ ∃ name, e = .unknownFunction name)
      (compile functions text type).value := by
  have textual := SyntaxTree.textual_parse text
  unfold compile
  cases parsed : SyntaxTree.parse text with
  | error p => exact failsWith_error (.inl ⟨p, rfl, textual p parsed⟩)
  | ok tree =>
    dsimp only
    cases tree.unknownFunction? functions with
    | some name => exact failsWith_error (.inr ⟨name, rfl⟩)
    | none => exact failsWith_ok _

end Expression

/-! ## Evaluation -/

theorem ResultType.failsOrdinarily_coerce (type : ResultType) (v : Value) :
    FailsOrdinarily (type.coerce v) := by
  cases type with
  | any => exact failsWith_ok _
  | string => exact failsWith_ok _
  | boolean => exact v.failsOrdinarily_truth.bind fun _ => failsWith_pure _
  | number =>
    refine .ite (fun _ => failsWith_ok _) fun _ => ?_
    exact v.failsOrdinarily_numeric.bind fun _ => failsWith_pure _

namespace Expression

variable {functions : FunctionTable} {text : String} {type : ResultType} {expression : Expression}
  {allowed : EvalError → Prop}

/-- A compiled rule fails with ordinary errors, with errors of its functions, or because it contains a
construct without a value or a variable that is not defined. -/
theorem failsWith_evaluate (compiled : (compile functions text type).value = .ok expression)
    (ordinary : ∀ e, EvalError.IsOrdinary e → allowed e) (calls : functions.CallsFailWith allowed)
    (constructs : expression.tree.disallowed? = none ∨ ∀ construct, allowed (.unsupported construct))
    {resolve : Resolver} (identifiers : ∀ name ∈ expression.tree.unfold.identifiers,
      resolve name = none → allowed (.unknownIdentifier name)) :
    FailsWith allowed (expression.evaluate resolve) := by
  obtain ⟨t, parsed, known, rfl⟩ := compile_eq_ok_iff.mp compiled
  rw [SyntaxTree.unfold_ofTree] at identifiers
  have admits : ∀ s ∈ t.preorder, Admits ⟨functions, resolve⟩ allowed s := by
    intro s inside
    constructor
    case known =>
      intro isCall
      exact known _ (Tree.mem_callees inside isCall)
    case defined =>
      intro isVariable name named undefined
      exact identifiers name (Tree.mem_identifiers inside isVariable named) undefined
    case construct =>
      intro isConstruct construct
      rcases constructs with none | unsupported
      · rw [SyntaxTree.disallowed?_eq, SyntaxTree.unfold_ofTree, List.head?_eq_none_iff,
          Tree.constructs, List.filterMap_eq_nil_iff] at none
        have absent : s.kind.construct? = .none := none s inside
        rw [absent] at isConstruct
        cases isConstruct
      · exact unsupported construct
  have evaluates : FailsWith allowed ((SyntaxTree.ofTree t).evaluate ⟨functions, resolve⟩) := by
    rw [SyntaxTree.evaluate_eq_unfold, SyntaxTree.unfold_ofTree]
    exact TargetingRules.failsWith_evaluate ordinary calls (Tree.evaluable_of_parse parsed) admits
  exact evaluates.bind fun v => (type.failsOrdinarily_coerce v).mono ordinary

theorem failsWith_evaluateBool (compiled : (compile functions text type).value = .ok expression)
    (ordinary : ∀ e, EvalError.IsOrdinary e → allowed e) (calls : functions.CallsFailWith allowed)
    (constructs : expression.tree.disallowed? = none ∨ ∀ construct, allowed (.unsupported construct))
    {resolve : Resolver} (identifiers : ∀ name ∈ expression.tree.unfold.identifiers,
      resolve name = none → allowed (.unknownIdentifier name)) :
    FailsWith allowed (expression.evaluateBool resolve) :=
  (failsWith_evaluate compiled ordinary calls constructs identifiers).bind fun v =>
    v.failsOrdinarily_truth.mono ordinary

end Expression

/-! ## Conditions -/

/-- What a rejection says is the form of the rule: it cannot be read, calls a function that there is
not, or uses a construct that conditions must not use. -/
def Rejection.IsFormal (rejection : Rejection) : Prop :=
  match rejection.defect with
  | .malformed _ | .disallowed _ => True
  | _ => False

namespace Validator

/-- The answer of the form check, read off the expression that the rule states. -/
theorem compile_value (validator : Validator) (rule : String) :
    (validator.compile rule).value =
      match Tree.parse rule with
      | .error e => .error ⟨rule, .malformed (.parse e)⟩
      | .ok t =>
        match t.callees.find? fun name => !validator.functions.contains name with
        | some name => .error ⟨rule, .malformed (.unknownFunction name)⟩
        | none =>
          match t.constructs.head? with
          | some construct => .error ⟨rule, .disallowed construct⟩
          | none => .ok ⟨rule, .ofTree t, .boolean, validator.functions⟩ := by
  have value := Expression.compile_value validator.functions rule .boolean
  have textual := SyntaxTree.textual_parse rule
  unfold compile
  dsimp only
  rw [value]
  unfold SyntaxTree.parse at textual
  cases parsed : Tree.parse rule with
  | error e =>
    rw [parsed] at textual
    have reason : e.IsTextual := textual e rfl
    cases e with
    | tree fault => exact reason.elim
    | _ => rfl
  | ok t =>
    dsimp only
    cases t.callees.find? fun name => !validator.functions.contains name with
    | some name => rfl
    | none =>
      simp only [SyntaxTree.disallowed?_eq, SyntaxTree.unfold_ofTree]
      cases t.constructs.head? <;> rfl

/-- The form check rejects a rule for its form alone. -/
theorem formal_compile (validator : Validator) (rule : String) :
    FailsWith Rejection.IsFormal (validator.compile rule).value := by
  rw [compile_value]
  cases Tree.parse rule with
  | error e => exact failsWith_error trivial
  | ok t =>
    dsimp only
    cases t.callees.find? fun name => !validator.functions.contains name with
    | some name => exact failsWith_error trivial
    | none =>
      cases t.constructs.head? with
      | some construct => exact failsWith_error trivial
      | none => exact failsWith_ok _

/-- A rule that passes the form check compiles to an expression without disallowed constructs. -/
theorem compile_eq_ok {validator : Validator} {rule : String} {expression : Expression}
    (compiled : (validator.compile rule).value = .ok expression) :
    (Expression.compile validator.functions rule .boolean).value = .ok expression ∧
      expression.tree.disallowed? = none := by
  unfold compile at compiled
  dsimp only at compiled
  split at compiled
  next => cases compiled
  next compiles =>
    split at compiled
    next => cases compiled
    next none =>
      cases compiled
      exact ⟨compiles, none⟩

end Validator

end TargetingRules
