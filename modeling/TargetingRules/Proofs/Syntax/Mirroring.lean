import TargetingRules.Proofs.Syntax.Printing

/-!
# Token lists that derive the same expressions

What the grammar derives from a list of tokens depends on their kinds and texts, and on whether a
name, a colon and a name before a parenthesis touch; on nothing else of their places. A relation
between what is left of two lists mirrors one in the other if it keeps these three. Then the two
derive expressions of one outline and leave related lists, and what comes after a list may differ.
-/

namespace TargetingRules.Grammar

/-- Two tokens say the same in the same characters. -/
def Alike (token token' : Token) : Prop :=
  token.kind = token'.kind ∧ token.text = token'.text

/-- Related lists go on with tokens that say the same and are the namespace of a function in both
lists or in neither. -/
def Mirrors (Related : List Token → List Token → Prop) : Prop :=
  ∀ ⦃token : Token⦄ ⦃ts us : List Token⦄, Related (token :: ts) us →
    ∃ token' us', us = token' :: us' ∧ Alike token token' ∧ Related ts us' ∧
      (OpensQualified token ts ↔ OpensQualified token' us')

theorem Alike.isMark {token token' : Token} (alike : Alike token token') {mark : Mark}
    (isMark : IsMark mark token) : IsMark mark token' :=
  alike.1.symm.trans isMark

theorem Alike.isName {token token' : Token} (alike : Alike token token') (isName : IsName token) :
    IsName token' :=
  isName.imp fun _ kind => alike.1.symm.trans kind

theorem Alike.outline_leaf {token token' : Token} (alike : Alike token token') (kind : Kind) :
    (leaf kind token').outline = (leaf kind token).outline := by
  simp only [leaf, Tree.outline, alike.2]

section Mirroring

variable {Related : List Token → List Token → Prop} (mirrors : Mirrors Related)

include mirrors

theorem Mirrors.mark {mark : Mark} {token : Token} {ts us : List Token}
    (related : Related (token :: ts) us) (isMark : IsMark mark token) :
    ∃ token' us', us = token' :: us' ∧ IsMark mark token' ∧ Related ts us' := by
  obtain ⟨token', us', rfl, alike, others, _⟩ := mirrors related
  exact ⟨token', us', rfl, alike.isMark isMark, others⟩

theorem Mirrors.name {token : Token} {ts us : List Token} (related : Related (token :: ts) us)
    (isName : IsName token) :
    ∃ token' us', us = token' :: us' ∧ IsName token' ∧ Alike token token' ∧ Related ts us' := by
  obtain ⟨token', us', rfl, alike, others, _⟩ := mirrors related
  exact ⟨token', us', rfl, alike.isName isName, alike, others⟩

theorem Names.mirror {ts names rest us : List Token} (listed : Names ts names rest)
    (related : Related ts us) :
    ∃ names' rest', Names us names' rest' ∧ Related rest rest' ∧
      Tree.outlineAll (names'.map (leaf .identifier)) =
        Tree.outlineAll (names.map (leaf .identifier)) := by
  induction listed generalizing us with
  | one isName =>
    obtain ⟨name', us', rfl, isName', alike, others⟩ := mirrors.name related isName
    refine ⟨[name'], us', .one isName', others, ?_⟩
    simp only [List.map_cons, List.map_nil, Tree.outlineAll, alike.outline_leaf]
  | more isName isComma _ ih =>
    obtain ⟨name', us', rfl, isName', alike, related⟩ := mirrors.name related isName
    obtain ⟨comma', us', rfl, isComma', related⟩ := mirrors.mark related isComma
    obtain ⟨names', rest', listed', related, outlines⟩ := ih related
    refine ⟨name' :: names', rest', .more isName' isComma' listed', related, ?_⟩
    simp only [List.map_cons, Tree.outlineAll, alike.outline_leaf, outlines]

theorem Parameters.mirror {ts rest us : List Token} {params : Tree}
    (head : Parameters ts params rest) (related : Related ts us) :
    ∃ params' rest', Parameters us params' rest' ∧ Related rest rest' ∧
      params'.outline = params.outline := by
  cases head with
  | name isName isArrow =>
    obtain ⟨name', us', rfl, isName', alike, related⟩ := mirrors.name related isName
    obtain ⟨arrow', us', rfl, isArrow', related⟩ := mirrors.mark related isArrow
    refine ⟨_, us', .name isName' isArrow', related, ?_⟩
    simp only [spanning, Tree.outline, Tree.outlineAll, alike.outline_leaf]
  | none isOpen isClose isArrow =>
    obtain ⟨opening', us', rfl, isOpen', related⟩ := mirrors.mark related isOpen
    obtain ⟨close', us', rfl, isClose', related⟩ := mirrors.mark related isClose
    obtain ⟨arrow', us', rfl, isArrow', related⟩ := mirrors.mark related isArrow
    exact ⟨_, us', .none isOpen' isClose' isArrow', related, rfl⟩
  | names isOpen listed isClose isArrow =>
    obtain ⟨opening', us', rfl, isOpen', related⟩ := mirrors.mark related isOpen
    obtain ⟨names', us', listed', related, outlines⟩ := listed.mirror mirrors related
    obtain ⟨close', us', rfl, isClose', related⟩ := mirrors.mark related isClose
    obtain ⟨arrow', us', rfl, isArrow', related⟩ := mirrors.mark related isArrow
    refine ⟨_, us', .names isOpen' listed' isClose' isArrow', related, ?_⟩
    simp only [spanning, Tree.outline, outlines]

mutual

/-- Related lists derive expressions of one outline and leave related lists. -/
theorem Derives.mirror {n : Nat} {ℓ : Level} {ts : List Token} {t : Tree} {rest us : List Token} :
    Derives n ℓ ts t rest → Related ts us →
      ∃ t' rest', Derives n ℓ us t' rest' ∧ Related rest rest' ∧ t'.outline = t.outline
  | .tighter inner, related => by
    obtain ⟨t', rest', derived, related, outline⟩ := inner.mirror related
    exact ⟨t', rest', .tighter derived, related, outline⟩
  | .assign left isOp right, related => by
    obtain ⟨target', _, left', related, targets⟩ := left.mirror related
    obtain ⟨op', us', rfl, isOp', related⟩ := mirrors.mark related isOp
    obtain ⟨value', rest', right', related, values⟩ := right.mirror related
    refine ⟨_, rest', .assign left' isOp' right', related, ?_⟩
    simp only [spanning, Tree.outline, Tree.outlineAll, targets, values]
  | .lambda head inner, related => by
    obtain ⟨params', us', head', related, names⟩ := head.mirror mirrors related
    obtain ⟨body', rest', inner', related, bodies⟩ := inner.mirror related
    refine ⟨_, rest', .lambda head' inner', related, ?_⟩
    simp only [spanning, Tree.outline, Tree.outlineAll, names, bodies]
  | .ternary first isQuestion second isColon third, related => by
    obtain ⟨condition', _, first', related, conditions⟩ := first.mirror related
    obtain ⟨question', us', rfl, isQuestion', related⟩ := mirrors.mark related isQuestion
    obtain ⟨whenTrue', _, second', related, trues⟩ := second.mirror related
    obtain ⟨colon', us', rfl, isColon', related⟩ := mirrors.mark related isColon
    obtain ⟨whenFalse', rest', third', related, falses⟩ := third.mirror related
    refine ⟨_, rest', .ternary first' isQuestion' second' isColon' third', related, ?_⟩
    simp only [spanning, Tree.outline, Tree.outlineAll, conditions, trues, falses]
  | .flat listed operands several, related => by
    obtain ⟨trees', rest', operands', related, outlines⟩ := operands.mirror related
    have same := Tree.length_eq_of_outlineAll outlines
    refine ⟨_, rest', .flat listed operands' (by omega), related, ?_⟩
    simp only [spanning, Tree.outline, outlines]
  | .binary listed first isOp second, related => by
    obtain ⟨left', _, first', related, lefts⟩ := first.mirror related
    obtain ⟨op', us', rfl, isOp', related⟩ := mirrors.mark related isOp
    obtain ⟨right', rest', second', related, rights⟩ := second.mirror related
    refine ⟨_, rest', .binary listed first' isOp' second', related, ?_⟩
    simp only [spanning, Tree.outline, Tree.outlineAll, lefts, rights]
  | .prefixed listed isOp inner, related => by
    obtain ⟨op', us', rfl, isOp', related⟩ := mirrors.mark related isOp
    obtain ⟨operand', rest', inner', related, operands⟩ := inner.mirror related
    refine ⟨_, rest', .prefixed listed isOp' inner', related, ?_⟩
    simp only [Tree.outline, Tree.outlineAll, operands]
  | .property inner isDot isName, related => by
    obtain ⟨target', _, inner', related, targets⟩ := inner.mirror related
    obtain ⟨dot', us', rfl, isDot', related⟩ := mirrors.mark related isDot
    obtain ⟨name', us', rfl, isName', alike, related⟩ := mirrors.name related isName
    refine ⟨_, us', .property inner' isDot' isName', related, ?_⟩
    simp only [spanning, Tree.outline, Tree.outlineAll, targets, alike.outline_leaf]
  | .method inner isDot isName isOpen list, related => by
    obtain ⟨target', _, inner', related, targets⟩ := inner.mirror related
    obtain ⟨dot', us', rfl, isDot', related⟩ := mirrors.mark related isDot
    obtain ⟨name', us', rfl, isName', alike, related⟩ := mirrors.name related isName
    obtain ⟨opening', us', rfl, isOpen', related⟩ := mirrors.mark related isOpen
    obtain ⟨arguments', close', rest', list', related, outlines⟩ := list.mirror related
    refine ⟨_, rest', .method inner' isDot' isName' isOpen' list', related, ?_⟩
    simp only [spanning, Tree.outline, Tree.outlineAll, targets, alike.outline_leaf, outlines]
  | .index inner isOpen nested isClose, related => by
    obtain ⟨target', _, inner', related, targets⟩ := inner.mirror related
    obtain ⟨opening', us', rfl, isOpen', related⟩ := mirrors.mark related isOpen
    obtain ⟨index', _, nested', related, indices⟩ := nested.mirror related
    obtain ⟨close', us', rfl, isClose', related⟩ := mirrors.mark related isClose
    refine ⟨_, us', .index inner' isOpen' nested' isClose', related, ?_⟩
    simp only [Tree.outline, Tree.outlineAll, targets, indices]
  | .literal isLiteral, related => by
    obtain ⟨token', us', rfl, alike, related, _⟩ := mirrors related
    exact ⟨_, us', .literal (alike.1 ▸ isLiteral), related, alike.outline_leaf _⟩
  | .identifier isName unqualified, related => by
    obtain ⟨token', us', rfl, alike, related, qualified⟩ := mirrors related
    refine ⟨_, us', .identifier (alike.isName isName) ?_, related, alike.outline_leaf _⟩
    rwa [← qualified]
  | .call isName isOpen list, related => by
    obtain ⟨token', us', rfl, isName', alike, related⟩ := mirrors.name related isName
    obtain ⟨opening', us', rfl, isOpen', related⟩ := mirrors.mark related isOpen
    obtain ⟨arguments', close', rest', list', related, outlines⟩ := list.mirror related
    refine ⟨_, rest', .call isName' isOpen' list', related, ?_⟩
    simp only [Tree.outline, outlines, alike.2]
  | .qualifiedCall isName qualified list, related => by
    obtain ⟨scope', us', rfl, alikeScope, related, both⟩ := mirrors related
    have qualified' := both.mp qualified
    obtain ⟨colon', us', rfl, _, related, _⟩ := mirrors related
    obtain ⟨name', us', rfl, alikeName, related, _⟩ := mirrors related
    obtain ⟨opening', us', rfl, _, related, _⟩ := mirrors related
    obtain ⟨arguments', close', rest', list', related, outlines⟩ := list.mirror related
    refine ⟨_, rest', .qualifiedCall (alikeScope.isName isName) qualified' list', related, ?_⟩
    simp only [Tree.outline, outlines, alikeScope.2, alikeName.2]
  | .parentheses isOpen inner isClose, related => by
    obtain ⟨opening', us', rfl, isOpen', related⟩ := mirrors.mark related isOpen
    obtain ⟨t', _, inner', related, outline⟩ := inner.mirror related
    obtain ⟨close', us', rfl, isClose', related⟩ := mirrors.mark related isClose
    exact ⟨t', us', .parentheses isOpen' inner' isClose', related, outline⟩
  | .list isOpen list, related => by
    obtain ⟨opening', us', rfl, isOpen', related⟩ := mirrors.mark related isOpen
    obtain ⟨items', close', rest', list', related, outlines⟩ := list.mirror related
    refine ⟨_, rest', .list isOpen' list', related, ?_⟩
    simp only [Tree.outline, outlines]

theorem Series.mirror {n : Nat} {ℓ : Level} {mark : Mark} {ts : List Token} {trees : List Tree}
    {rest us : List Token} :
    Series n ℓ mark ts trees rest → Related ts us →
      ∃ trees' rest', Series n ℓ mark us trees' rest' ∧ Related rest rest' ∧
        Tree.outlineAll trees' = Tree.outlineAll trees
  | .one last, related => by
    obtain ⟨t', rest', last', related, outline⟩ := last.mirror related
    refine ⟨[t'], rest', .one last', related, ?_⟩
    simp only [Tree.outlineAll, outline]
  | .more first isOp others, related => by
    obtain ⟨t', _, first', related, outline⟩ := first.mirror related
    obtain ⟨op', us', rfl, isOp', related⟩ := mirrors.mark related isOp
    obtain ⟨trees', rest', others', related, outlines⟩ := others.mirror related
    refine ⟨t' :: trees', rest', .more first' isOp' others', related, ?_⟩
    simp only [Tree.outlineAll, outline, outlines]

theorem Items.mirror {n : Nat} {mark : Mark} {ts : List Token} {trees : List Tree} {close : Token}
    {rest us : List Token} :
    Items n mark ts trees close rest → Related ts us →
      ∃ trees' close' rest', Items n mark us trees' close' rest' ∧ Related rest rest' ∧
        Tree.outlineAll trees' = Tree.outlineAll trees
  | .none isClose, related => by
    obtain ⟨close', us', rfl, isClose', related⟩ := mirrors.mark related isClose
    exact ⟨[], close', us', .none isClose', related, rfl⟩
  | .some listed isClose, related => by
    obtain ⟨trees', _, listed', related, outlines⟩ := listed.mirror related
    obtain ⟨close', us', rfl, isClose', related⟩ := mirrors.mark related isClose
    exact ⟨trees', close', us', .some listed' isClose', related, outlines⟩

end

end Mirroring

end TargetingRules.Grammar
