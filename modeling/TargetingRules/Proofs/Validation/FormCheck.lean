import TargetingRules.Proofs.Validation.Accounting
import TargetingRules.Proofs.Validation.Decision

/-!
# The form check

A rule passes the form check if its body is blank, or if it states an expression that calls known
functions alone and has no construct that rules must not use. The check sees such a construct wherever
it stands, because the constructs of an expression are just those that its tokens write. It looks for
unknown functions first: a rule with a construct as well as an unknown function is malformed.

Verifying a rule begins with the form check, and ends with it where evaluation is off.
-/

namespace TargetingRules

namespace Validator

variable {validator : Validator} {rule : String} {context : Context} {t : Tree}
  {rejection : Rejection}

/-! ## Answers of the form check -/

theorem checkSyntax_of_isEmptyRule (blank : isEmptyRule rule = true) :
    validator.checkSyntax rule = .ok () := by
  unfold checkSyntax auditSyntax
  rw [if_pos blank]

theorem checkSyntax_of_visible (visible : isEmptyRule rule = false) :
    validator.checkSyntax rule = (validator.compile rule).value.map fun _ => () := by
  unfold checkSyntax auditSyntax
  rw [if_neg (Bool.eq_false_iff.mp visible)]

/-- The answer for a rule that states an expression. -/
theorem checkSyntax_of_parse (parsed : Tree.parse rule = .ok t) :
    validator.checkSyntax rule =
      match t.callees.find? fun name => !validator.functions.contains name with
      | some name => .error ⟨rule, .malformed (.unknownFunction name)⟩
      | none =>
        match t.constructs.head? with
        | some construct => .error ⟨rule, .disallowed construct⟩
        | none => .ok () := by
  rw [checkSyntax_of_visible (Tree.not_isEmptyRule_of_parse parsed), compile_value, parsed]
  dsimp only
  cases t.callees.find? fun name => !validator.functions.contains name with
  | some name => rfl
  | none => cases t.constructs.head? <;> rfl

/-- The answer for a rule that compiles: the first construct of its expression is named. -/
theorem checkSyntax_of_compiles (compiles : Compiles validator.functions rule t) :
    validator.checkSyntax rule =
      match t.constructs.head? with
      | some construct => .error ⟨rule, .disallowed construct⟩
      | none => .ok () := by
  rw [checkSyntax_of_parse compiles.parsed, compiles.find?_callees]

/-- A rule that passes is blank, or a condition. -/
theorem isCondition_of_checkSyntax (passed : validator.checkSyntax rule = .ok ()) :
    isEmptyRule rule = true ∨ ∃ t, IsCondition validator.functions rule t := by
  cases blank : isEmptyRule rule with
  | true => exact .inl rfl
  | false =>
    refine .inr ?_
    rw [checkSyntax_of_visible blank] at passed
    cases compiled : (validator.compile rule).value with
    | error rejection =>
      rw [compiled] at passed
      cases passed
    | ok expression =>
      obtain ⟨t, condition, _⟩ := exists_isCondition_of_compile compiled
      exact ⟨t, condition⟩

/-! ## Constructs -/

/-- No construct gets past the form check, and it takes nothing else for one. -/
structure GuardsConstructs (validator : Validator) (rule : String) : Prop where
  /-- The tokens of a rule that passes write no construct. -/
  tokens : validator.checkSyntax rule = .ok () →
    ∃ tokens, (Body.of rule.toList).tokens = .ok tokens ∧ ∀ token ∈ tokens, token.construct? = none
  /-- Its syntax tree, which it has unless it is blank, has neither constructs nor parameter lists. -/
  nodes : validator.checkSyntax rule = .ok () → isEmptyRule rule = true ∨
    ∃ tree, SyntaxTree.parse rule = .ok tree ∧
      ∀ node ∈ tree.nodes, node.kind.construct? = none ∧ node.kind ≠ .lambdaParameters
  /-- A rule that compiles and whose tokens write a construct is rejected for one of those. -/
  rejected : ∀ type expression tokens,
    (Expression.compile validator.functions rule type).value = .ok expression →
      (Body.of rule.toList).tokens = .ok tokens → (∃ token ∈ tokens, token.construct? ≠ none) →
        ∃ token ∈ tokens, ∃ construct, token.construct? = some construct ∧
          validator.checkSyntax rule = .error ⟨rule, .disallowed construct⟩
  /-- If they write no other construct, it is this one. -/
  named : ∀ type expression tokens construct,
    (Expression.compile validator.functions rule type).value = .ok expression →
      (Body.of rule.toList).tokens = .ok tokens →
        (∃ token ∈ tokens, token.construct? = some construct) →
          (∀ token ∈ tokens, ∀ other, token.construct? = some other → other = construct) →
            validator.checkSyntax rule = .error ⟨rule, .disallowed construct⟩

/-- Where an expression has no construct, no node of its tree is one. -/
theorem construct?_of_mem_nodes (plain : t.constructs = []) {node : Node}
    (member : node ∈ (SyntaxTree.ofTree t).nodes) : node.kind.construct? = none := by
  obtain ⟨s, inside, same⟩ := SyntaxTree.exists_label_of_mem_nodes member
  have sameKind : node.kind = s.kind := congrArg Label.kind same
  rw [sameKind]
  exact List.filterMap_eq_nil_iff.mp plain s inside

/-- The tree of a condition has no lists of parameters, because they stand in lambdas only. -/
theorem ne_lambdaParameters_of_mem_nodes (condition : IsCondition validator.functions rule t)
    {node : Node} (member : node ∈ (SyntaxTree.ofTree t).nodes) :
    node.kind ≠ .lambdaParameters := by
  intro isParameters
  obtain ⟨s, inside, same⟩ := SyntaxTree.exists_label_of_mem_nodes member
  have sameKind : node.kind = s.kind := congrArg Label.kind same
  have lambdas := (Tree.evaluable_of_parse condition.parsed).parametersInLambdas
  have arrow := lambdas s inside (sameKind.symm.trans isParameters)
  rw [condition.allowed] at arrow
  cases arrow

/-- A rule that compiles is rejected for a construct that one of its tokens writes. -/
theorem exists_rejected_of_written {tokens : List Token}
    (compiles : Compiles validator.functions rule t)
    (split : (Body.of rule.toList).tokens = .ok tokens)
    (written : ∃ token ∈ tokens, token.construct? ≠ none) :
    ∃ token ∈ tokens, ∃ construct, token.construct? = some construct ∧
      validator.checkSyntax rule = .error ⟨rule, .disallowed construct⟩ := by
  have same := Tree.writtenConstructs_perm split compiles.parsed
  cases constructs : t.constructs with
  | nil =>
    obtain ⟨token, member, isWritten⟩ := written
    rw [constructs, List.perm_nil, writtenConstructs, List.filterMap_eq_nil_iff] at same
    exact absurd (same token member) isWritten
  | cons construct others =>
    have member : construct ∈ writtenConstructs tokens := by
      rw [same.mem_iff, constructs]
      exact List.mem_cons_self
    obtain ⟨token, inside, writes⟩ := List.mem_filterMap.mp member
    refine ⟨token, inside, construct, writes, ?_⟩
    rw [checkSyntax_of_compiles compiles, constructs, List.head?_cons]

/-- The form check finds every construct, at any depth and whatever functions there are. -/
theorem guardsConstructs (validator : Validator) (rule : String) :
    validator.GuardsConstructs rule := by
  constructor
  case tokens =>
    intro passed
    rcases isCondition_of_checkSyntax passed with blank | ⟨t, condition⟩
    · exact ⟨[], Tree.tokens_eq_nil_iff.mpr blank, by simp⟩
    · obtain ⟨tokens, split, _⟩ := Tree.parse_eq_ok_iff.mp condition.parsed
      have same := Tree.writtenConstructs_perm split condition.parsed
      rw [condition.allowed, List.perm_nil, writtenConstructs, List.filterMap_eq_nil_iff] at same
      exact ⟨tokens, split, same⟩
  case nodes =>
    intro passed
    rcases isCondition_of_checkSyntax passed with blank | ⟨t, condition⟩
    · exact .inl blank
    · have read := SyntaxTree.parse_eq_ok_iff.mpr ⟨t, condition.parsed, rfl⟩
      refine .inr ⟨.ofTree t, read, fun node member => ?_⟩
      exact ⟨construct?_of_mem_nodes condition.allowed member,
        ne_lambdaParameters_of_mem_nodes condition member⟩
  case rejected =>
    intro type expression tokens compiled split written
    obtain ⟨t, parsed, known, _⟩ := Expression.compile_eq_ok_iff.mp compiled
    exact exists_rejected_of_written ⟨parsed, known⟩ split written
  case named =>
    rintro type expression tokens construct compiled split ⟨token, member, writes⟩ only
    obtain ⟨t, parsed, known, _⟩ := Expression.compile_eq_ok_iff.mp compiled
    have written : ∃ token ∈ tokens, token.construct? ≠ none :=
      ⟨token, member, by rw [writes]; exact Option.some_ne_none construct⟩
    obtain ⟨token', member', other, writes', failed⟩ :=
      exists_rejected_of_written ⟨parsed, known⟩ split written
    obtain rfl := only token' member' other writes'
    exact failed

/-- The tokens of the rule `f(x=y)`, an assignment in the argument of a function. -/
def nestedTokens : List Token :=
  [⟨.ident "f", ⟨0, 1⟩, "f"⟩, ⟨.mark .openParen, ⟨1, 2⟩, "("⟩, ⟨.ident "x", ⟨2, 3⟩, "x"⟩,
    ⟨.mark .assign, ⟨3, 4⟩, "="⟩, ⟨.ident "y", ⟨4, 5⟩, "y"⟩, ⟨.mark .closeParen, ⟨5, 6⟩, ")"⟩]

/-- The expression that it states. -/
def nestedAssignment : Tree :=
  .node .function (some "f") ⟨0, 6⟩ [.node .assign none ⟨2, 5⟩
    [.node .identifier (some "x") ⟨2, 3⟩ [], .node .identifier (some "y") ⟨4, 5⟩ []]]

/-- A table with the function `f` alone. -/
def onlyF : FunctionTable :=
  Dictionary.empty.insert "f" (.variadic fun _ => .ok .null)

theorem tokens_nestedAssignment : (Body.of "f(x=y)".toList).tokens = .ok nestedTokens :=
  Lexer.tokens_of_split? (n := 6) rfl

theorem parse_nestedAssignment : Tree.parse "f(x=y)" = .ok nestedAssignment := by
  have target : Grammar.Derives (Grammar.maxDepth - 1) .lambda (nestedTokens.drop 2)
      (.node .identifier (some "x") ⟨2, 3⟩ []) (nestedTokens.drop 3) :=
    Grammar.Derives.loosen (.identifier ⟨"x", rfl⟩ nofun) (by decide)
  have value : Grammar.Derives (Grammar.maxDepth - 2) .assignment (nestedTokens.drop 4)
      (.node .identifier (some "y") ⟨4, 5⟩ []) (nestedTokens.drop 5) :=
    Grammar.Derives.loosen (.identifier ⟨"y", rfl⟩ id) (Nat.zero_le _)
  have list := Grammar.Items.some (.one (.assign target rfl value)) rfl
  refine Tree.parse_eq_ok_iff.mpr ⟨_, tokens_nestedAssignment, ?_, by decide⟩
  refine Grammar.Derives.loosen (.call ⟨"f", rfl⟩ ?_ list) (Nat.zero_le _)
  rfl

theorem read_nestedAssignment : SyntaxTree.parse "f(x=y)" = .ok (.ofTree nestedAssignment) :=
  SyntaxTree.parse_eq_ok_iff.mpr ⟨_, parse_nestedAssignment, rfl⟩

theorem mem_nodes_nestedAssignment :
    ⟨.assign, none, ⟨2, 5⟩, [0, 1]⟩ ∈ (SyntaxTree.ofTree nestedAssignment).nodes :=
  List.mem_toArray.mpr (by decide)

theorem known_nestedAssignment : ∀ name ∈ nestedAssignment.callees, onlyF.contains name = true := by
  intro name member
  rw [List.mem_singleton.mp member]
  decide

/-- The assignment is found in the argument of a function. -/
theorem guardsConstructs_nestedAssignment :
    checkSyntax ⟨onlyF⟩ "f(x=y)" = .error ⟨"f(x=y)", .disallowed .assignment⟩ := by
  have compiled : (Expression.compile onlyF "f(x=y)" .boolean).value =
      .ok ⟨"f(x=y)", .ofTree nestedAssignment, .boolean, onlyF⟩ :=
    Expression.compile_eq_ok_iff.mpr ⟨_, parse_nestedAssignment, known_nestedAssignment, rfl⟩
  refine (guardsConstructs ⟨onlyF⟩ "f(x=y)").named .boolean _ _ .assignment compiled
    tokens_nestedAssignment ?_ ?_
  · exact ⟨⟨.mark .assign, ⟨3, 4⟩, "="⟩, by simp [nestedTokens], rfl⟩
  · simp [nestedTokens, Token.construct?, Mark.construct?]

/-! ## Constructs and unknown functions -/

theorem constructs_ne_nil_of_mem_nodes {node : Node} (inside : node ∈ (SyntaxTree.ofTree t).nodes)
    (isConstruct : node.kind = .assign ∨ node.kind = .concatenation ∨ node.kind = .arrow) :
    t.constructs ≠ [] := by
  intro none
  have plain := construct?_of_mem_nodes none inside
  rcases isConstruct with kind | kind | kind <;> rw [kind] at plain <;> cases plain

/-- A rule with a construct that rules must not use is rejected for such a construct if it calls known
functions alone, and as malformed, for a function that is not known, if it does not. -/
theorem checkSyntax_of_disallowed (validator : Validator) {rule : String} {tree : SyntaxTree}
    (read : SyntaxTree.parse rule = .ok tree) {node : Node} (inside : node ∈ tree.nodes)
    (isConstruct : node.kind = .assign ∨ node.kind = .concatenation ∨ node.kind = .arrow) :
    ((∀ name ∈ tree.unfold.callees, validator.functions.contains name = true) →
        ∃ construct ∈ tree.unfold.constructs,
          validator.checkSyntax rule = .error ⟨rule, .disallowed construct⟩) ∧
      ((∃ name ∈ tree.unfold.callees, validator.functions.contains name = false) →
        ∃ name ∈ tree.unfold.callees, validator.functions.contains name = false ∧
          validator.checkSyntax rule = .error ⟨rule, .malformed (.unknownFunction name)⟩) := by
  obtain ⟨t, parsed, rfl⟩ := SyntaxTree.parse_eq_ok_iff.mp read
  rw [SyntaxTree.unfold_ofTree]
  constructor
  · intro known
    obtain ⟨construct, others, constructs⟩ :=
      List.exists_cons_of_ne_nil (constructs_ne_nil_of_mem_nodes inside isConstruct)
    refine ⟨construct, by rw [constructs]; exact List.mem_cons_self, ?_⟩
    rw [checkSyntax_of_compiles ⟨parsed, known⟩, constructs, List.head?_cons]
  · rintro ⟨name, member, unknown⟩
    rw [checkSyntax_of_parse parsed]
    cases first : t.callees.find? fun name => !validator.functions.contains name with
    | none =>
      have known := List.find?_eq_none.mp first name member
      rw [unknown] at known
      exact absurd rfl known
    | some name' =>
      have unknown' := List.find?_some first
      exact ⟨name', List.mem_of_find?_eq_some first, by simpa using unknown', rfl⟩

/-- The assignment is reported where the function around it is known. -/
theorem checkSyntax_nestedAssignment :
    SyntaxTree.parse "f(x=y)" = .ok (.ofTree nestedAssignment) ∧
      ⟨.assign, none, ⟨2, 5⟩, [0, 1]⟩ ∈ (SyntaxTree.ofTree nestedAssignment).nodes ∧
      checkSyntax ⟨onlyF⟩ "f(x=y)" = .error ⟨"f(x=y)", .disallowed .assignment⟩ := by
  refine ⟨read_nestedAssignment, mem_nodes_nestedAssignment, ?_⟩
  have answers := checkSyntax_of_disallowed ⟨onlyF⟩ read_nestedAssignment mem_nodes_nestedAssignment
    (.inl rfl)
  rw [SyntaxTree.unfold_ofTree] at answers
  obtain ⟨construct, member, failed⟩ := answers.1 known_nestedAssignment
  rw [failed, List.mem_singleton.mp member]

theorem checkSyntax_unknownFunction : standard.checkSyntax "f(x=y)" =
    .error ⟨"f(x=y)", .malformed (.unknownFunction "f")⟩ := by
  have unknown : standard.functions.contains "f" = false := by decide
  have first : (nestedAssignment.callees.find? fun name => !standard.functions.contains name) =
      some "f" := List.find?_cons_of_pos (Bool.not_eq_eq_eq_not.mpr unknown)
  rw [checkSyntax_of_parse parse_nestedAssignment, first]

/-- Where the function is unknown, the rule is malformed, and not disallowed. -/
theorem unknownFunction_before_assignment :
    ∃ tree, SyntaxTree.parse "f(x=y)" = .ok tree ∧ (∃ node ∈ tree.nodes, node.kind = .assign) ∧
      standard.checkSyntax "f(x=y)" = .error ⟨"f(x=y)", .malformed (.unknownFunction "f")⟩ ∧
      ∀ construct, standard.checkSyntax "f(x=y)" ≠ .error ⟨"f(x=y)", .disallowed construct⟩ := by
  refine ⟨_, read_nestedAssignment, ⟨_, mem_nodes_nestedAssignment, rfl⟩,
    checkSyntax_unknownFunction, ?_⟩
  intro construct disallowed
  rw [checkSyntax_unknownFunction] at disallowed
  cases disallowed

/-! ## The form check and the full check -/

theorem verify_of_isEmptyRule (blank : isEmptyRule rule = true) :
    validator.verify rule context = .ok () := by
  rw [verify, validate_of_isEmptyRule blank]
  rfl

/-- Where evaluation is off, verifying a rule is checking its form. -/
theorem verify_eq_checkSyntax (off : context.evaluate = false) :
    validator.verify rule context = validator.checkSyntax rule := by
  cases blank : isEmptyRule rule with
  | true => rw [verify_of_isEmptyRule blank, checkSyntax_of_isEmptyRule blank]
  | false =>
    rw [checkSyntax_of_visible blank, verify, validate_of_visible blank, off]
    cases (validator.compile rule).value <;> rfl

/-- A rule that does not pass the form check is not verified either, and for the same reason. -/
theorem verify_of_checkSyntax_error (failed : validator.checkSyntax rule = .error rejection) :
    validator.verify rule context = .error rejection := by
  cases blank : isEmptyRule rule with
  | true =>
    rw [checkSyntax_of_isEmptyRule blank] at failed
    cases failed
  | false =>
    rw [checkSyntax_of_visible blank] at failed
    cases compiled : (validator.compile rule).value with
    | ok expression =>
      rw [compiled] at failed
      cases failed
    | error rejection' =>
      rw [compiled] at failed
      cases failed
      rw [verify, validate_of_compile blank compiled]
      rfl

/-- Verifying a rule begins with the form check: without evaluation it is nothing else, with evaluation
it fails where the form check does and in the same way, and what it lets pass has passed the form
check. -/
theorem verify_refines_checkSyntax (validator : Validator) (rule : String) :
    (∀ context, context.evaluate = false →
        validator.verify rule context = validator.checkSyntax rule) ∧
      (∀ rejection, validator.checkSyntax rule = .error rejection →
        ∀ context, validator.verify rule context = .error rejection) ∧
      ∀ context, validator.verify rule context = .ok () → validator.checkSyntax rule = .ok () := by
  refine ⟨fun context off => verify_eq_checkSyntax off,
    fun rejection failed context => verify_of_checkSyntax_error failed, fun context passed => ?_⟩
  cases checked : validator.checkSyntax rule with
  | ok _ => rfl
  | error rejection =>
    rw [verify_of_checkSyntax_error checked] at passed
    cases passed

/-- A rule that does not pass the form check is not verified, although nothing is wrong with its
variables. -/
theorem verify_unknownFunction :
    standard.checkSyntax "f(x=y)" = .error ⟨"f(x=y)", .malformed (.unknownFunction "f")⟩ ∧
      standard.verify "f(x=y)" ⟨.ofResolver fun _ => some .null, .ofList [], true⟩ =
        .error ⟨"f(x=y)", .malformed (.unknownFunction "f")⟩ := by
  refine ⟨checkSyntax_unknownFunction, ?_⟩
  exact (verify_refines_checkSyntax standard "f(x=y)").2.1 _ checkSyntax_unknownFunction _

end Validator

end TargetingRules
