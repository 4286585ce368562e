import TargetingRules.Proofs.Syntax.Correspondence

/-!
# Reading corresponding lists

Every reader of the grammar keeps two runs on corresponding lists in step, given readers of nested
expressions that do. By induction on the levels of nesting the same holds of the readers that `nested`
supplies, and so of reading all tokens of two texts. The limits on nesting and on height are met by both
runs at once, since neither depends on places.
-/

namespace TargetingRules

namespace Grammar

variable {f g : Span → Span}

/-- On corresponding lists two readers are in step. -/
def ReadsInStep (f g : Span → Span) (reader reader' : Reader) : Prop :=
  ∀ ⦃ts us : List Token⦄, Corresponds f g ts us → InStep (SameParsed f g) (reader ts) (reader' us)

section Readers

variable {operand operand' : Reader} {inner inner' : Entry → Reader} {ts us : List Token}

/-! ## Chains -/

theorem separated_inStep (reads : ReadsInStep f g operand operand') (mark : Mark)
    (related : Corresponds f g ts us) :
    InStep (SameSeveral f g) (separated mark operand ts) (separated mark operand' us) := by
  induction known : ts.length using Nat.strongRecOn generalizing ts us with
  | ind n ih =>
    rw [separated.eq_1 mark operand ts, separated.eq_1 mark operand' us]
    refine (reads related).bind fun first first' same => ?_
    have next := same.rest.take? mark
    generalize take? mark first.rest = taken, take? mark first'.rest = taken' at next
    cases next with
    | none =>
      exact .ok ⟨List.cons_ne_nil _ _, Tree.relocateAll_one same.tree, same.rest⟩
    | @some taken taken' both =>
      have fewer := Nat.lt_trans taken.shorter first.shorter
      refine (ih _ (known ▸ fewer) both.rest rfl).bind fun more more' others => ?_
      refine .ok ⟨List.cons_ne_nil _ _, ?_, others.rest⟩
      simp only [Tree.relocateAll, same.tree, others.trees]

theorem flatChain_inStep (compatible : Span.Compatible f g) (kind : Kind) (mark : Mark)
    (reads : ReadsInStep f g operand operand') :
    ReadsInStep f g (flatChain kind mark operand) (flatChain kind mark operand') := by
  intro ts us related
  refine (separated_inStep reads mark related).bind fun operands operands' same => ?_
  obtain ⟨trees, rest, shorter⟩ := operands
  obtain ⟨trees', rest', shorter'⟩ := operands'
  obtain ⟨nonempty, listed, others⟩ := same
  dsimp only at nonempty listed others ⊢
  match trees, trees', nonempty, listed with
  | [t], [t'], _, listed =>
    simp only [Tree.relocateAll, List.cons.injEq, and_true] at listed
    exact .ok ⟨listed, others⟩
  | t :: next :: trees, t' :: next' :: trees', nonempty, listed =>
    exact (branch_inStep compatible kind listed nonempty).bind fun t t' same => .ok ⟨same, others⟩
  | [_], _ :: _ :: _, _, listed => simp [Tree.relocateAll] at listed
  | _ :: _ :: _, [_], _, listed => simp [Tree.relocateAll] at listed

theorem leftChainFrom_inStep (compatible : Span.Compatible f g) (kind? : Mark → Option Kind)
    (reads : ReadsInStep f g operand operand') {left : Parsed ts} {left' : Parsed us}
    (same : SameParsed f g left left') :
    InStep (SameParsed f g) (leftChainFrom kind? operand left) (leftChainFrom kind? operand' left') := by
  induction known : left.rest.length using Nat.strongRecOn generalizing left left' with
  | ind n ih =>
    rw [leftChainFrom.eq_1 kind? operand left, leftChainFrom.eq_1 kind? operand' left']
    have next := same.rest.operator? kind?
    generalize operator? kind? left.rest = op, operator? kind? left'.rest = op' at next
    cases next with
    | none => exact .ok same
    | @some op op' both =>
      obtain ⟨kind, op⟩ := op
      obtain ⟨kind', op'⟩ := op'
      obtain ⟨rfl, ops⟩ := both
      refine (reads ops.rest).bind fun right right' second => ?_
      have trees := Tree.relocateAll_pair same.tree second.tree
      refine (branch_inStep compatible _ trees (List.cons_ne_nil _ _)).bind fun t t' whole => ?_
      have fewer := Nat.lt_trans right.shorter op.shorter
      exact ih _ (known ▸ fewer) ⟨whole, second.rest⟩ rfl

theorem leftChain_inStep (compatible : Span.Compatible f g) (kind? : Mark → Option Kind)
    (reads : ReadsInStep f g operand operand') :
    ReadsInStep f g (leftChain kind? operand) (leftChain kind? operand') :=
  fun _ _ related => (reads related).bind fun _ _ same => leftChainFrom_inStep compatible kind? reads same

/-! ## Operands -/

theorem closedList_inStep (reads : ∀ entry, ReadsInStep f g (inner entry) (inner' entry))
    (close : Mark) (related : Corresponds f g ts us) :
    InStep (SameClosed f g) (closedList close inner ts) (closedList close inner' us) := by
  have next := related.take? close
  unfold closedList
  generalize take? close ts = taken, take? close us = taken' at next
  cases next with
  | some both => exact .ok ⟨rfl, both.rest, both.token⟩
  | none =>
    refine (separated_inStep (reads .assignment) .comma related).bind fun items items' same => ?_
    refine (same.rest.expect close).bind fun last last' closed => ?_
    exact .ok ⟨same.trees, closed.rest, closed.token⟩

theorem named_inStep (compatible : Span.Compatible f g)
    (reads : ∀ entry, ReadsInStep f g (inner entry) (inner' entry)) {token token' : Token}
    (isName : IsName token) (related : Corresponds f g (token :: ts) (token' :: us)) :
    InStep (SameParsed f g) (named inner token ts) (named inner' token' us) := by
  have next := related.callee? isName compatible
  unfold named
  generalize callee? token ts = callee, callee? token' us = callee' at next
  cases next with
  | none =>
    cases related with
    | cons first _ others => exact .ok ⟨first.leaf isName.isOperand _, others⟩
  | @some callee callee' both =>
    refine (closedList_inStep reads .closeParen both.rest).bind fun list list' same => ?_
    have place := compatible.join both.span same.close.place
    rw [both.image]
    exact (grow_inStep .function _ place same.trees).bind fun t t' whole => .ok ⟨whole, same.rest⟩

theorem primary_inStep (compatible : Span.Compatible f g)
    (reads : ∀ entry, ReadsInStep f g (inner entry) (inner' entry)) :
    ReadsInStep f g (primary inner) (primary inner') := by
  intro ts us related
  have failed := related.unexpected .expression
  cases related with
  | nil => exact .error failed
  | @cons token token' ts us first qualified others =>
    obtain ⟨kind, span, text⟩ := token
    obtain ⟨kind', span', text'⟩ := token'
    obtain rfl : kind = kind' := first.kind
    cases kind with
    | number x => exact .ok ⟨first.leaf rfl _, others⟩
    | str s => exact .ok ⟨first.leaf rfl _, others⟩
    | bool b => exact .ok ⟨first.leaf rfl _, others⟩
    | null => exact .ok ⟨first.leaf rfl _, others⟩
    | ident name => exact named_inStep compatible reads ⟨name, rfl⟩ (.cons first qualified others)
    | mark mark =>
      cases mark with
      | openParen =>
        refine (reads .assignment others).bind fun inside inside' same => ?_
        exact (same.rest.expect .closeParen).bind fun close close' closed =>
          .ok ⟨same.tree, closed.rest⟩
      | openBracket =>
        refine (closedList_inStep reads .closeBracket others).bind fun items items' same => ?_
        have place := compatible.join first.place same.close.place
        exact (grow_inStep .list none place same.trees).bind fun t t' whole => .ok ⟨whole, same.rest⟩
      | _ => exact .error failed

theorem accessFrom_inStep (compatible : Span.Compatible f g)
    (reads : ∀ entry, ReadsInStep f g (inner entry) (inner' entry)) {target : Parsed ts}
    {target' : Parsed us} (same : SameParsed f g target target') :
    InStep (SameParsed f g) (accessFrom inner target) (accessFrom inner' target') := by
  induction known : target.rest.length using Nat.strongRecOn generalizing target target' with
  | ind n ih =>
    rw [accessFrom.eq_1 inner target, accessFrom.eq_1 inner' target']
    have next := same.rest.take? .dot
    have nextOpening := same.rest.take? .openBracket
    generalize take? .dot target.rest = dot, take? .dot target'.rest = dot' at next
    generalize take? .openBracket target.rest = opening,
      take? .openBracket target'.rest = opening' at nextOpening
    cases next with
    | @some dot dot' dots =>
      refine dots.rest.propertyName.bind fun name name' names => ?_
      obtain ⟨names, isName⟩ := names
      have fewer := Nat.lt_trans name.shorter dot.shorter
      have member := names.token.leaf isName.isOperand .member
      have next := names.rest.take? .openParen
      dsimp only
      generalize take? .openParen name.rest = opening, take? .openParen name'.rest = opening' at next
      cases next with
      | @some opening opening' openings =>
        refine (closedList_inStep reads .closeParen openings.rest).bind fun list list' lists => ?_
        have place := compatible.join openings.token.place lists.close.place
        refine (grow_inStep .arguments none place lists.trees).bind fun arguments arguments' both => ?_
        have trees := Tree.relocateAll_triple same.tree member both
        refine (branch_inStep compatible .methodCall trees (List.cons_ne_nil _ _)).bind
          fun t t' whole => ?_
        have fewer := Nat.lt_trans (Nat.lt_trans list.shorter opening.shorter) fewer
        exact ih _ (known ▸ fewer) ⟨whole, lists.rest⟩ rfl
      | none =>
        have trees := Tree.relocateAll_pair same.tree member
        refine (branch_inStep compatible .property trees (List.cons_ne_nil _ _)).bind
          fun t t' whole => ?_
        exact ih _ (known ▸ fewer) ⟨whole, names.rest⟩ rfl
    | none =>
      cases nextOpening with
      | @some opening opening' openings =>
        refine (reads .assignment openings.rest).bind fun index index' indices => ?_
        refine (indices.rest.expect .closeBracket).bind fun close close' closed => ?_
        have place :=
          compatible.join (Tree.span_eq_of_relocate same.tree) closed.token.place
        have trees := Tree.relocateAll_pair same.tree indices.tree
        refine (grow_inStep .index none place trees).bind fun t t' whole => ?_
        have fewer := Nat.lt_trans (Nat.lt_trans close.shorter index.shorter) opening.shorter
        exact ih _ (known ▸ fewer) ⟨whole, closed.rest⟩ rfl
      | none => exact .ok same

theorem access_inStep (compatible : Span.Compatible f g)
    (reads : ∀ entry, ReadsInStep f g (inner entry) (inner' entry)) :
    ReadsInStep f g (access inner) (access inner') :=
  fun _ _ related => (primary_inStep compatible reads related).bind fun _ _ same =>
    accessFrom_inStep compatible reads same

theorem unary_inStep (compatible : Span.Compatible f g)
    (reads : ∀ entry, ReadsInStep f g (inner entry) (inner' entry)) :
    ReadsInStep f g (unary inner) (unary inner') := by
  intro ts us related
  have next := related.operator? unary?
  unfold unary
  generalize operator? unary? ts = op, operator? unary? us = op' at next
  cases next with
  | none => exact access_inStep compatible reads related
  | @some op op' both =>
    obtain ⟨kind, op⟩ := op
    obtain ⟨kind', op'⟩ := op'
    obtain ⟨rfl, both⟩ := both
    refine (reads .unary both.rest).bind fun operand operand' same => ?_
    have place := compatible.join both.token.place (Tree.span_eq_of_relocate same.tree)
    have trees := Tree.relocateAll_one same.tree
    exact (grow_inStep _ none place trees).bind fun t t' whole => .ok ⟨whole, same.rest⟩

/-! ## Levels -/

theorem disjunction_inStep (compatible : Span.Compatible f g)
    (reads : ∀ entry, ReadsInStep f g (inner entry) (inner' entry)) :
    ReadsInStep f g (disjunction inner) (disjunction inner') := by
  have product : ReadsInStep f g (product inner) (product inner') :=
    leftChain_inStep compatible product? (unary_inStep compatible reads)
  have concatenation : ReadsInStep f g (concatenation inner) (concatenation inner') :=
    leftChain_inStep compatible concatenation? (leftChain_inStep compatible sum? product)
  have equality : ReadsInStep f g (equality inner) (equality inner') :=
    leftChain_inStep compatible equality? (leftChain_inStep compatible relation? concatenation)
  have conjunction : ReadsInStep f g (conjunction inner) (conjunction inner') :=
    flatChain_inStep compatible .and .and equality
  exact flatChain_inStep compatible .or .or conjunction

theorem ternary_inStep (compatible : Span.Compatible f g)
    (reads : ∀ entry, ReadsInStep f g (inner entry) (inner' entry)) :
    ReadsInStep f g (ternary inner) (ternary inner') := by
  intro ts us related
  refine (disjunction_inStep compatible reads related).bind fun condition condition' first => ?_
  have next := first.rest.take? .question
  generalize take? .question condition.rest = taken, take? .question condition'.rest = taken' at next
  cases next with
  | none => exact .ok first
  | some both =>
    refine (reads .ternary both.rest).bind fun whenTrue whenTrue' second => ?_
    refine (second.rest.expect .colon).bind fun colon colon' colons => ?_
    refine (reads .ternary colons.rest).bind fun whenFalse whenFalse' third => ?_
    have trees := Tree.relocateAll_triple first.tree second.tree third.tree
    exact (branch_inStep compatible .ternary trees (List.cons_ne_nil _ _)).bind
      fun t t' whole => .ok ⟨whole, third.rest⟩

theorem lambda_inStep (compatible : Span.Compatible f g)
    (reads : ∀ entry, ReadsInStep f g (inner entry) (inner' entry)) :
    ReadsInStep f g (lambda inner) (lambda inner') := by
  intro ts us related
  have next := related.lambdaHead? compatible
  unfold lambda
  generalize lambdaHead? ts = head, lambdaHead? us = head' at next
  cases next with
  | none => exact ternary_inStep compatible reads related
  | @some head head' heads =>
    refine (reads .lambda heads.rest).bind fun body body' bodies => ?_
    have trees := Tree.relocateAll_pair heads.tree bodies.tree
    exact (branch_inStep compatible .arrow trees (List.cons_ne_nil _ _)).bind
      fun t t' whole => .ok ⟨whole, bodies.rest⟩

theorem assignment_inStep (compatible : Span.Compatible f g)
    (reads : ∀ entry, ReadsInStep f g (inner entry) (inner' entry)) :
    ReadsInStep f g (assignment inner) (assignment inner') := by
  intro ts us related
  refine (lambda_inStep compatible reads related).bind fun target target' targets => ?_
  have next := targets.rest.take? .assign
  generalize take? .assign target.rest = taken, take? .assign target'.rest = taken' at next
  cases next with
  | none => exact .ok targets
  | some both =>
    refine (reads .assignment both.rest).bind fun value value' values => ?_
    have trees := Tree.relocateAll_pair targets.tree values.tree
    exact (branch_inStep compatible .assign trees (List.cons_ne_nil _ _)).bind
      fun t t' whole => .ok ⟨whole, values.rest⟩

end Readers

/-! ## Whole texts -/

theorem nested_inStep (compatible : Span.Compatible f g) (textEnd textEnd' depth : Nat)
    (entry : Entry) : ReadsInStep f g (nested textEnd depth entry) (nested textEnd' depth entry) := by
  induction depth generalizing entry with
  | zero => exact fun _ _ _ => .error rfl
  | succ depth ih =>
    cases entry with
    | assignment => exact assignment_inStep compatible ih
    | lambda => exact lambda_inStep compatible ih
    | ternary => exact ternary_inStep compatible ih
    | unary => exact unary_inStep compatible ih

/-- Corresponding lists make up one expression at two places, or are refused with one error. -/
theorem expression_inStep (compatible : Span.Compatible f g) {ts us : List Token}
    (related : Corresponds f g ts us) (textEnd textEnd' : Nat) :
    InStep (fun t t' => t.relocate f = t'.relocate g) (expression textEnd ts)
      (expression textEnd' us) := by
  have reads := nested_inStep compatible textEnd textEnd' maxDepth .assignment related
  cases related with
  | nil => exact .error rfl
  | cons first qualified others =>
    refine reads.bind fun parsed parsed' same => ?_
    obtain ⟨t, rest, shorter⟩ := parsed
    obtain ⟨t', rest', shorter'⟩ := parsed'
    obtain ⟨whole, left⟩ := same
    dsimp only at whole left ⊢
    cases left with
    | nil => exact .ok whole
    | cons next _ _ =>
      apply InStep.error
      simp only [ParseError.unplaced, next.kind]

end Grammar

/-- Two rules whose bodies have corresponding tokens are read in step. -/
theorem SyntaxTree.parse_inStep {f g : Span → Span} (compatible : Span.Compatible f g)
    {rule rule' : String} {ts us : List Token} (tokenized : (Body.of rule.toList).tokens = .ok ts)
    (tokenized' : (Body.of rule'.toList).tokens = .ok us) (related : Grammar.Corresponds f g ts us) :
    InStep (fun tree tree' => tree.relocate f = tree'.relocate g)
      (SyntaxTree.parse rule) (SyntaxTree.parse rule') := by
  have read : InStep (fun t t' => t.relocate f = t'.relocate g) (Tree.parse rule)
      (Tree.parse rule') := by
    rw [Tree.parse, Tree.parse, tokenized, tokenized']
    exact Grammar.expression_inStep compatible related _ _
  refine read.map fun t t' same => ?_
  rw [relocate_ofTree, relocate_ofTree, same]

end TargetingRules
