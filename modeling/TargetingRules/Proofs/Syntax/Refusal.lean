import TargetingRules.Proofs.Failing
import TargetingRules.Syntax.Reading

/-!
# How reading fails

Reading a rule fails for what stands in its text, at some place of it unless it has no tokens at all.
Faults in the bookkeeping of the syntax tree are not among the reasons: adding the nodes of an
expression one by one, children first, never refers to a node that is not there.
-/

namespace TargetingRules

/-- A reason in the text for which it cannot be read. -/
def ParseError.IsTextual : ParseError → Prop
  | .tree _ => False
  | _ => True

/-- A reason that is found at some place of the text, or at its end. -/
def ParseError.IsLocal : ParseError → Prop
  | .tree _ | .empty => False
  | _ => True

theorem ParseError.IsLocal.isTextual {e : ParseError} (isLocal : e.IsLocal) : e.IsTextual := by
  cases e with
  | tree fault => exact isLocal
  | _ => trivial

namespace Lexer

theorem failsLocally_lexeme (pos : Nat) (c : Char) (cs : List Char) :
    FailsWith ParseError.IsLocal (lexeme pos c cs) := by
  refine .ite (fun _ => ?_) fun _ => .ite (fun _ => ?_) fun _ => .ite (fun _ => failsWith_ok _)
    fun _ => ?_
  · dsimp only
    split
    next => exact failsWith_ok _
    next => exact failsWith_error trivial
  · split
    next => exact failsWith_ok _
    next => exact failsWith_error trivial
  · split
    next => exact failsWith_ok _
    next => exact failsWith_error trivial

theorem failsLocally_tokens (pos : Nat) (cs : List Char) :
    FailsWith ParseError.IsLocal (tokens pos cs) := by
  fun_induction tokens pos cs with
  | case1 pos => exact failsWith_ok _
  | case2 pos c cs blank ih => exact ih
  | case3 pos c cs visible e failed => exact failsWith_error (failsLocally_lexeme pos c cs e failed)
  | case4 pos c cs visible kind length read text stop e failed =>
    rename_i ih
    exact failsWith_error (ih e failed)
  | case5 pos c cs visible kind length read text stop rest others => exact failsWith_ok _

end Lexer

namespace Grammar

/-- A reader fails for reasons at some token or at the end of the tokens. -/
def FailsLocally (reader : Reader) : Prop :=
  ∀ ts, FailsWith ParseError.IsLocal (reader ts)

theorem failsLocally_unexpected (expected : Expectation) (ts : List Token) :
    (unexpected expected ts).IsLocal := by
  cases ts <;> trivial

theorem failsLocally_expect (mark : Mark) (ts : List Token) :
    FailsWith ParseError.IsLocal (expect mark ts) := by
  unfold expect
  split
  next => exact failsWith_ok _
  next => exact failsWith_error (failsLocally_unexpected _ ts)

theorem failsLocally_propertyName (ts : List Token) :
    FailsWith ParseError.IsLocal (propertyName ts) := by
  unfold propertyName
  split
  next => exact failsWith_ok _
  next => exact failsWith_error (failsLocally_unexpected _ _)

theorem failsLocally_grow (kind : Kind) (image : Option String) (span : Span) (children : List Tree) :
    FailsWith ParseError.IsLocal (grow kind image span children) :=
  .ite (fun _ => failsWith_ok _) fun _ => failsWith_error trivial

theorem failsLocally_branch (kind : Kind) (children : List Tree) :
    FailsWith ParseError.IsLocal (branch kind children) :=
  failsLocally_grow _ _ _ _

section Readers

variable {operand : Reader} {inner : Entry → Reader}

theorem failsLocally_separated (mark : Mark) (reads : FailsLocally operand) (ts : List Token) :
    FailsWith ParseError.IsLocal (separated mark operand ts) := by
  induction known : ts.length using Nat.strongRecOn generalizing ts with
  | ind n ih =>
    rw [separated]
    refine (reads ts).bind fun first => ?_
    split
    next => exact failsWith_pure _
    next taken _ =>
      have fewer := Nat.lt_trans taken.shorter first.shorter
      exact (ih _ (known ▸ fewer) taken.rest rfl).bind fun more => failsWith_pure _

theorem failsLocally_flatChain (kind : Kind) (mark : Mark) (reads : FailsLocally operand) :
    FailsLocally (flatChain kind mark operand) := by
  intro ts
  refine (failsLocally_separated mark reads ts).bind fun operands => ?_
  dsimp only
  split
  next => exact (failsWith_pure _).bind fun tree => failsWith_pure _
  next => exact (failsLocally_branch _ _).bind fun tree => failsWith_pure _

theorem failsLocally_leftChainFrom (kind? : Mark → Option Kind) (reads : FailsLocally operand)
    {ts : List Token} (left : Parsed ts) :
    FailsWith ParseError.IsLocal (leftChainFrom kind? operand left) := by
  induction known : left.rest.length using Nat.strongRecOn generalizing left with
  | ind n ih =>
    rw [leftChainFrom]
    split
    next => exact failsWith_ok _
    next kind taken _ =>
      refine (reads taken.rest).bind fun right => (failsLocally_branch _ _).bind fun tree => ?_
      have fewer := Nat.lt_trans right.shorter taken.shorter
      exact ih _ (known ▸ fewer) _ rfl

theorem failsLocally_leftChain (kind? : Mark → Option Kind) (reads : FailsLocally operand) :
    FailsLocally (leftChain kind? operand) :=
  fun ts => (reads ts).bind fun left => failsLocally_leftChainFrom kind? reads left

theorem failsLocally_closedList (close : Mark) (reads : ∀ entry, FailsLocally (inner entry))
    (ts : List Token) : FailsWith ParseError.IsLocal (closedList close inner ts) := by
  unfold closedList
  split
  next => exact failsWith_ok _
  next =>
    exact (failsLocally_separated _ (reads _) ts).bind fun items =>
      (failsLocally_expect close _).bind fun last => failsWith_pure _

theorem failsLocally_named (reads : ∀ entry, FailsLocally (inner entry)) (token : Token)
    (ts : List Token) : FailsWith ParseError.IsLocal (named inner token ts) := by
  unfold named
  split
  next => exact failsWith_ok _
  next callee _ =>
    exact (failsLocally_closedList _ reads _).bind fun arguments =>
      (failsLocally_grow _ _ _ _).bind fun tree => failsWith_pure _

theorem failsLocally_primary (reads : ∀ entry, FailsLocally (inner entry)) :
    FailsLocally (primary inner) := by
  intro ts
  unfold primary
  split
  next => exact failsWith_error (failsLocally_unexpected _ [])
  next token rest =>
    split
    next => exact failsWith_ok _
    next => exact failsWith_ok _
    next => exact failsWith_ok _
    next => exact failsWith_ok _
    next => exact failsLocally_named reads token rest
    next =>
      exact (reads _ _).bind fun inside => (failsLocally_expect _ _).bind fun close => failsWith_pure _
    next =>
      exact (failsLocally_closedList _ reads _).bind fun items =>
        (failsLocally_grow _ _ _ _).bind fun tree => failsWith_pure _
    next => exact failsWith_error (failsLocally_unexpected _ _)

theorem failsLocally_accessFrom (reads : ∀ entry, FailsLocally (inner entry)) {ts : List Token}
    (target : Parsed ts) : FailsWith ParseError.IsLocal (accessFrom inner target) := by
  induction known : target.rest.length using Nat.strongRecOn generalizing target with
  | ind n ih =>
    rw [accessFrom]
    split
    next dot _ =>
      refine (failsLocally_propertyName _).bind fun name => ?_
      have fewer := Nat.lt_trans name.shorter dot.shorter
      dsimp only
      split
      next opening _ =>
        refine (failsLocally_closedList _ reads _).bind fun list => (failsLocally_grow _ _ _ _).bind
          fun arguments => (failsLocally_branch _ _).bind fun tree => ?_
        have fewer := Nat.lt_trans (Nat.lt_trans list.shorter opening.shorter) fewer
        exact ih _ (known ▸ fewer) _ rfl
      next =>
        refine (failsLocally_branch _ _).bind fun tree => ?_
        exact ih _ (known ▸ fewer) _ rfl
    next =>
      split
      next opening _ =>
        refine (reads _ _).bind fun index => (failsLocally_expect _ _).bind fun close =>
          (failsLocally_grow _ _ _ _).bind fun tree => ?_
        have fewer := Nat.lt_trans (Nat.lt_trans close.shorter index.shorter) opening.shorter
        exact ih _ (known ▸ fewer) _ rfl
      next => exact failsWith_ok _

theorem failsLocally_access (reads : ∀ entry, FailsLocally (inner entry)) :
    FailsLocally (access inner) :=
  fun ts => (failsLocally_primary reads ts).bind fun target => failsLocally_accessFrom reads target

theorem failsLocally_unary (reads : ∀ entry, FailsLocally (inner entry)) :
    FailsLocally (unary inner) := by
  intro ts
  unfold unary
  split
  next => exact failsLocally_access reads ts
  next =>
    exact (reads _ _).bind fun operand => (failsLocally_grow _ _ _ _).bind fun tree => failsWith_pure _

theorem failsLocally_disjunction (reads : ∀ entry, FailsLocally (inner entry)) :
    FailsLocally (disjunction inner) := by
  have equality : FailsLocally (equality inner) :=
    failsLocally_leftChain _ <| failsLocally_leftChain _ <| failsLocally_leftChain _ <|
      failsLocally_leftChain _ <| failsLocally_leftChain _ (failsLocally_unary reads)
  exact failsLocally_flatChain _ _ (failsLocally_flatChain _ _ equality)

theorem failsLocally_ternary (reads : ∀ entry, FailsLocally (inner entry)) :
    FailsLocally (ternary inner) := by
  intro ts
  refine (failsLocally_disjunction reads ts).bind fun condition => ?_
  split
  next => exact failsWith_pure _
  next =>
    exact (reads _ _).bind fun whenTrue => (failsLocally_expect _ _).bind fun colon =>
      (reads _ _).bind fun whenFalse => (failsLocally_branch _ _).bind fun tree => failsWith_pure _

theorem failsLocally_lambda (reads : ∀ entry, FailsLocally (inner entry)) :
    FailsLocally (lambda inner) := by
  intro ts
  unfold lambda
  split
  next => exact failsLocally_ternary reads ts
  next => exact (reads _ _).bind fun body => (failsLocally_branch _ _).bind fun tree => failsWith_pure _

theorem failsLocally_assignment (reads : ∀ entry, FailsLocally (inner entry)) :
    FailsLocally (assignment inner) := by
  intro ts
  refine (failsLocally_lambda reads ts).bind fun target => ?_
  split
  next => exact failsWith_pure _
  next => exact (reads _ _).bind fun value => (failsLocally_branch _ _).bind fun tree => failsWith_pure _

end Readers

theorem failsLocally_nested (textEnd depth : Nat) (entry : Entry) :
    FailsLocally (nested textEnd depth entry) := by
  induction depth generalizing entry with
  | zero => exact fun ts => failsWith_error trivial
  | succ depth ih =>
    cases entry with
    | assignment => exact failsLocally_assignment ih
    | lambda => exact failsLocally_lambda ih
    | ternary => exact failsLocally_ternary ih
    | unary => exact failsLocally_unary ih

theorem failsLocally_expression (textEnd : Nat) {ts : List Token} (nonempty : ts ≠ []) :
    FailsWith ParseError.IsLocal (expression textEnd ts) := by
  refine .ite (fun empty => absurd (List.isEmpty_iff.mp empty) nonempty) fun _ => ?_
  refine (failsLocally_nested _ _ _ ts).bind fun parsed => ?_
  split
  next => exact failsWith_pure _
  next => exact failsWith_error trivial

end Grammar

/-! ## Bookkeeping -/

namespace TreeBuilder

/-- Add nodes one by one. -/
def pushAll (builder : TreeBuilder) : List Node → Except TreeError TreeBuilder
  | [] => .ok builder
  | node :: nodes => do
    let (builder, _) ← builder.push node
    builder.pushAll nodes

theorem push_eq_ok {builder : TreeBuilder} {node : Node}
    (below : ∀ child ∈ node.children, child < builder.nodes.size) :
    ∃ builder', builder.push node = .ok (builder', builder.nodes.size) ∧
      builder'.nodes = builder.nodes.push node := by
  have absent : node.children.find? (builder.nodes.size ≤ ·) = none := by
    refine List.find?_eq_none.mpr fun child member => ?_
    have := below child member
    simpa using this
  unfold push
  split
  next child found =>
    rw [absent] at found
    cases found
  next => exact ⟨_, rfl, rfl⟩

theorem pushAll_eq_ok {nodes : List Node} {builder : TreeBuilder}
    (below : ∀ (k : Nat) (bound : k < nodes.length), ∀ child ∈ nodes[k].children,
      child < builder.nodes.size + k) :
    ∃ builder', builder.pushAll nodes = .ok builder' ∧
      builder'.nodes = builder.nodes ++ nodes.toArray := by
  induction nodes generalizing builder with
  | nil => exact ⟨builder, rfl, by simp⟩
  | cons node nodes ih =>
    obtain ⟨next, pushed, same⟩ := push_eq_ok (below 0 (Nat.zero_lt_succ _))
    rw [List.getElem_cons_zero] at pushed same
    have later : ∀ (k : Nat) (bound : k < nodes.length), ∀ child ∈ nodes[k].children,
        child < next.nodes.size + k := by
      intro k bound child member
      have := below (k + 1) (Nat.succ_lt_succ bound) child member
      rw [same, Array.size_push]
      omega
    obtain ⟨last, pushedAll, same'⟩ := ih later
    refine ⟨last, ?_, by rw [same', same]; simp⟩
    simp only [pushAll, pushed, bind, Except.bind, pushedAll]

end TreeBuilder

/-- Adding the nodes of a syntax tree one by one gives the tree. -/
theorem SyntaxTree.pushAll_nodes (tree : SyntaxTree) :
    ∃ builder, TreeBuilder.empty.pushAll tree.nodes.toList = .ok builder ∧
      builder.finish tree.root = .ok tree := by
  have below : ∀ (k : Nat) (bound : k < tree.nodes.toList.length),
      ∀ child ∈ tree.nodes.toList[k].children, child < TreeBuilder.empty.nodes.size + k := by
    intro k bound child member
    have := tree.first k (by simpa using bound) child (by simpa using member)
    simpa [TreeBuilder.empty] using this
  obtain ⟨builder, pushed, same⟩ := TreeBuilder.pushAll_eq_ok below
  refine ⟨builder, pushed, ?_⟩
  obtain ⟨nodes, first⟩ := builder
  simp only [TreeBuilder.empty, Array.toArray_toList, Array.empty_append] at same
  subst same
  have nonempty : tree.nodes.isEmpty = false := by
    have := tree.root_lt
    simp only [Array.isEmpty, decide_eq_false_iff_not]
    omega
  simp only [TreeBuilder.finish, nonempty, Bool.false_eq_true, ↓reduceIte, tree.root_lt, ↓reduceDIte]

/-- A text with tokens is refused, if at all, for what is found at some place of it. -/
theorem Tree.failsLocally_parse {rule : String} (visible : (Body.of rule.toList).tokens ≠ .ok []) :
    FailsWith ParseError.IsLocal (Tree.parse rule) := by
  unfold Tree.parse
  cases tokenized : (Body.of rule.toList).tokens with
  | error e => exact failsWith_error (Lexer.failsLocally_tokens _ _ e tokenized)
  | ok tokens =>
    refine Grammar.failsLocally_expression _ ?_
    rintro rfl
    exact visible tokenized

/-- Reading a rule never fails for a fault in the bookkeeping of its syntax tree. -/
theorem SyntaxTree.textual_parse (rule : String) :
    FailsWith ParseError.IsTextual (SyntaxTree.parse rule) := by
  refine FailsWith.map ?_ SyntaxTree.ofTree
  by_cases empty : (Body.of rule.toList).tokens = .ok []
  · rw [Tree.parse, empty]
    exact failsWith_error trivial
  · exact (Tree.failsLocally_parse empty).mono fun _ => ParseError.IsLocal.isTextual

end TargetingRules
