import TargetingRules.Proofs.Syntax.Nesting
import TargetingRules.Proofs.Syntax.Traversal

/-!
# The extent of each node of a rule

Each node of a rule stands on characters of the body, from the start of a token to the end of a token,
around its children, which stand one after the other. The leaves therefore come in the order of the
text, and the nodes made of one token have its text. One sort of node has no token at its end: a list of
parameters that is empty reaches up to the arrow.
-/

namespace TargetingRules

open Grammar

/-! ## Leaves in order -/

namespace Tree

/-- What holds of a node if it holds of its children holds of every expression. -/
@[elab_as_elim]
theorem induction_children {Q : Tree → Prop}
    (node : ∀ kind image span children, (∀ t ∈ children, Q t) → Q (.node kind image span children))
    (t : Tree) : Q t := by
  cases t with
  | node kind image span children =>
    exact node kind image span children fun t _ => induction_children node t

variable {tokens : List Token} {t : Tree}

/-- All nodes of an expression lie in it. -/
theorem within_of_fits (fits : ∀ s ∈ t.preorder, s.Fits tokens) :
    ∀ s ∈ t.preorder, s.span.Within t.span := by
  induction t using induction_children with
  | node kind image span children ih =>
    intro s inside
    have root := fits _ (mem_preorder_node.mpr (.inl rfl))
    rcases mem_preorder_node.mp inside with rfl | ⟨child, member, below⟩
    · exact ⟨Nat.le_refl _, Nat.le_refl _⟩
    · have fits' : ∀ r ∈ child.preorder, r.Fits tokens := fun r among =>
        fits r (mem_preorder_node.mpr (.inr ⟨child, member, among⟩))
      exact (ih child member fits' s below).trans (root.contains child member)

/-- The leaves of an expression stand in the order of the text. -/
theorem pairwise_leaves (fits : ∀ s ∈ t.preorder, s.Fits tokens) :
    (t.preorder.filter fun s => s.children.isEmpty).Pairwise fun first second =>
      first.span.Before second.span := by
  induction t using induction_children with
  | node kind image span children ih =>
    have root := fits _ (mem_preorder_node.mpr (.inl rfl))
    have fits' : ∀ child ∈ children, ∀ s ∈ child.preorder, s.Fits tokens := fun child member s among =>
      fits s (mem_preorder_node.mpr (.inr ⟨child, member, among⟩))
    cases children with
    | nil => exact List.pairwise_singleton _ _
    | cons first others =>
      rw [preorder, List.filter_cons, preorderAll_eq, List.filter_flatten, List.map_map]
      refine List.pairwise_flatten.mpr ⟨?_, ?_⟩
      · intro leaves among
        obtain ⟨child, member, rfl⟩ := List.mem_map.mp among
        exact ih child member (fits' child member)
      · rw [List.pairwise_map]
        refine root.apart.imp_of_mem fun {left right} member member' before s inside r inside' => ?_
        have first := within_of_fits (fits' left member) s (List.mem_filter.mp inside).1
        have second := within_of_fits (fits' right member') r (List.mem_filter.mp inside').1
        exact Nat.le_trans first.2 (Nat.le_trans before second.1)

end Tree

/-! ## Nodes of a rule -/

namespace SyntaxTree

section Nodes

variable {tree : SyntaxTree} {id : Nat}

/-- The children of a node in order. -/
def childNodes (tree : SyntaxTree) (id : Nat) (bound : id < tree.nodes.size) : List Node :=
  tree.nodes[id].children.pmap (fun child (_ : child < tree.nodes.size) => tree.nodes[child])
    (children_lt bound)

theorem span_unfoldFrom (bound : id < tree.nodes.size) :
    (tree.unfoldFrom id bound).span = tree.nodes[id].span := by
  rw [unfoldFrom_eq, Tree.span]

/-- The children of a node stand where the children of what the node stands for do. -/
theorem spans_childNodes (bound : id < tree.nodes.size) :
    (tree.childNodes id bound).map Node.span = (tree.unfoldFrom id bound).children.map Tree.span := by
  rw [unfoldFrom_eq, Tree.children, childNodes, List.map_pmap, List.map_pmap]
  exact List.pmap_congr_left _ fun child _ inside _ => (span_unfoldFrom inside).symm

/-- Each node of the syntax tree of an expression stands for a part of the expression. -/
theorem unfoldFrom_mem_preorder (t : Tree) (bound : id < (ofTree t).nodes.size) :
    (ofTree t).unfoldFrom id bound ∈ t.preorder := by
  have order := map_unfoldFrom_preorderFrom (ofTree t).root_lt
  have listed : ⟨id, bound⟩ ∈ (ofTree t).preorderFrom (ofTree t).root (ofTree t).root_lt :=
    (perm_preorderFrom_ofTree t).mem_iff.mpr (List.mem_finRange _)
  have among := List.mem_map_of_mem
    (f := fun number : Fin _ => (ofTree t).unfoldFrom number number.isLt) listed
  rw [order] at among
  change _ ∈ (ofTree t).unfold.preorder at among
  rwa [unfold_ofTree] at among

end Nodes

/-- The nodes of a rule stand in it as the tokens of its body do. -/
structure StandsOn (tree : SyntaxTree) (rule : String) (tokens : List Token) : Prop where
  /-- No node is empty. -/
  nonempty : ∀ node ∈ tree.nodes, node.span.start < node.span.stop
  /-- The nodes are in the body. -/
  inBody : ∀ node ∈ tree.nodes,
    node.span.Within ⟨(Body.of rule.toList).start, (Body.of rule.toList).stop⟩
  /-- A node starts and stops between characters. -/
  characters : ∀ node ∈ tree.nodes, ∃ inside,
    Text.slice? node.span.start node.span.stop rule.toList = some inside
  /-- A node starts with a token. -/
  starts : ∀ node ∈ tree.nodes, ∃ token ∈ tokens, token.span.start = node.span.start
  /-- A node ends with a token, unless it is an empty list of parameters. -/
  stops : ∀ node ∈ tree.nodes, ¬ (node.kind = .lambdaParameters ∧ node.isLeaf = true) →
    ∃ token ∈ tokens, token.span.stop = node.span.stop
  /-- An empty list of parameters goes from its parenthesis to the start of the arrow. -/
  arrow : ∀ node ∈ tree.nodes, node.kind = .lambdaParameters → node.isLeaf = true →
    ∃ opening close arrow, [opening, close, arrow] <:+: tokens ∧ IsMark .openParen opening ∧
      IsMark .closeParen close ∧ IsMark .arrow arrow ∧
        node.span = ⟨opening.span.start, arrow.span.start⟩
  /-- A node contains its children. -/
  contains : ∀ id bound, ∀ child ∈ tree.childNodes id bound, child.span.Within tree.nodes[id].span
  /-- Each child ends before the next one starts. -/
  apart : ∀ id bound, (tree.childNodes id bound).Pairwise fun first second =>
    first.span.Before second.span
  /-- A variable, a literal or a member is one token, with the characters at its place. -/
  atom : ∀ node ∈ tree.nodes, node.kind.isAtom = true → ∃ token ∈ tokens,
    node = ⟨node.kind, some token.text, token.span, []⟩ ∧
      Text.slice? node.span.start node.span.stop rule.toList = some token.text.toList
  /-- The leaves are listed from left to right. -/
  leaves : tree.leaves.Pairwise fun first second =>
    first.span.Before second.span ∧ first.span.start < second.span.start

section Standing

variable {rule : String} {t : Tree} {tokens : List Token}

theorem fits_of_derives (split : (Body.of rule.toList).tokens = .ok tokens)
    (derived : Derives maxDepth .assignment tokens t []) : ∀ s ∈ t.preorder, s.Fits tokens := by
  intro s inside
  refine derived.nests.fits _ (Lexer.splits_of_tokens split).ordered s ?_
  rwa [Tree.preorderAll, Tree.preorderAll, List.append_nil]

/-- What a node shows is what a fitting part of the expression shows. -/
theorem exists_fits_of_mem_nodes (fits : ∀ s ∈ t.preorder, s.Fits tokens) {node : Node}
    (member : node ∈ (ofTree t).nodes) : ∃ s : Tree, s.Fits tokens ∧ s.kind = node.kind ∧
      s.image = node.image ∧ s.span = node.span ∧ (s.IsEmptyParameters ↔
        node.kind = .lambdaParameters ∧ node.isLeaf = true) ∧ (s.children = [] ↔ node.children = []) := by
  obtain ⟨s, inside, same⟩ := exists_label_of_mem_nodes member
  obtain ⟨kind, image, span, isLeaf⟩ := Label.mk.inj same
  refine ⟨s, fits s inside, kind.symm, image.symm, span.symm, ?_, ?_⟩
  · rw [Tree.IsEmptyParameters, kind, isLeaf, List.isEmpty_iff]
  · rw [← List.isEmpty_iff, ← isLeaf, Node.isLeaf, List.isEmpty_iff]

/-- A node for a variable, a literal or a member is one token. -/
theorem exists_token_of_isAtom (fits : ∀ s ∈ t.preorder, s.Fits tokens) {node : Node}
    (member : node ∈ (ofTree t).nodes) (isAtom : node.kind.isAtom = true) : ∃ token ∈ tokens,
      node.kind.OfToken token ∧ node = ⟨node.kind, some token.text, token.span, []⟩ := by
  obtain ⟨s, fits, kind, image, span, _, children⟩ := exists_fits_of_mem_nodes fits member
  obtain ⟨token, among, ofToken, isLeaf⟩ := fits.atom (kind ▸ isAtom)
  rw [isLeaf] at image span children
  refine ⟨token, among, kind ▸ ofToken, ?_⟩
  rw [Node.mk.injEq]
  exact ⟨rfl, image.symm, span.symm, children.mp rfl⟩

/-- A node of a rule starts and stops between characters. -/
theorem isBoundary_of_fits (split : (Body.of rule.toList).tokens = .ok tokens) {s : Tree}
    (fits : s.Fits tokens) :
    s.span.Within ⟨(Body.of rule.toList).start, (Body.of rule.toList).stop⟩ ∧
      Text.IsBoundary s.span.start rule.toList ∧ Text.IsBoundary s.span.stop rule.toList := by
  have slices := (Lexer.splits_of_tokens split).slice (Body.slice?_of rule.toList)
  obtain ⟨first, member, starts⟩ := fits.starts
  obtain ⟨range, sliced⟩ := slices first member
  have starting := (Text.isBoundary_of_slice? sliced).1
  rw [starts] at starting
  by_cases empty : s.IsEmptyParameters
  · obtain ⟨opening, close, arrow, among, _, _, _, place⟩ := fits.arrow empty
    have isArrow : arrow ∈ tokens := among.subset (by simp)
    obtain ⟨range', sliced'⟩ := slices arrow isArrow
    have forward := (Lexer.splits_of_tokens split).ordered.nonempty arrow isArrow
    have stopping := (Text.isBoundary_of_slice? sliced').1
    rw [starts] at range
    rw [place] at range starting ⊢
    exact ⟨⟨range.1, Nat.le_trans (Nat.le_of_lt forward) range'.2⟩, starting, stopping⟩
  · obtain ⟨last, member', stops⟩ := fits.stops empty
    obtain ⟨range', sliced'⟩ := slices last member'
    have stopping := (Text.isBoundary_of_slice? sliced').2
    rw [stops] at stopping
    exact ⟨⟨starts ▸ range.1, stops ▸ range'.2⟩, starting, stopping⟩

theorem pairwise_leaves_ofTree (fits : ∀ s ∈ t.preorder, s.Fits tokens) :
    (ofTree t).leaves.Pairwise fun first second =>
      first.span.Before second.span ∧ first.span.start < second.span.start := by
  have leaves : (ofTree t).leaves.map Node.label =
      (t.preorder.filter fun s => s.children.isEmpty).map Tree.label := by
    have labels := congrArg (List.filter Label.isLeaf) (labels_visited (ofTree t))
    rw [unfold_ofTree, List.filter_map, List.filter_map] at labels
    rw [leaves_eq]
    exact labels
  have ordered : ((ofTree t).leaves.map Node.label).Pairwise fun first second =>
      first.span.Before second.span ∧ first.span.start < second.span.start := by
    rw [leaves, List.pairwise_map]
    refine (Tree.pairwise_leaves fits).imp_of_mem fun {first second} member _ before => ⟨before, ?_⟩
    exact Nat.lt_of_lt_of_le (fits first (List.mem_filter.mp member).1).nonempty before
  exact List.pairwise_map.mp ordered

/-- The nodes of every rule nest as its text does. -/
theorem standsOn_of_parse {tree : SyntaxTree} (success : SyntaxTree.parse rule = .ok tree) :
    ∃ tokens, (Body.of rule.toList).tokens = .ok tokens ∧ tree.StandsOn rule tokens := by
  obtain ⟨t, parsed, rfl⟩ := parse_eq_ok_iff.mp success
  obtain ⟨tokens, split, derived, _⟩ := Tree.parse_eq_ok_iff.mp parsed
  have fits := fits_of_derives split derived
  refine ⟨tokens, split, ?_⟩
  constructor
  case nonempty =>
    intro node member
    obtain ⟨s, fits, _, _, span, _⟩ := exists_fits_of_mem_nodes fits member
    exact span ▸ fits.nonempty
  case inBody =>
    intro node member
    obtain ⟨s, fits, _, _, span, _⟩ := exists_fits_of_mem_nodes fits member
    exact span ▸ (isBoundary_of_fits split fits).1
  case characters =>
    intro node member
    obtain ⟨s, fits, _, _, span, _⟩ := exists_fits_of_mem_nodes fits member
    obtain ⟨_, starts, stops⟩ := isBoundary_of_fits split fits
    rw [← span]
    exact Text.exists_slice?_of_isBoundary starts stops (Nat.le_of_lt fits.nonempty)
  case starts =>
    intro node member
    obtain ⟨s, fits, _, _, span, _⟩ := exists_fits_of_mem_nodes fits member
    exact span ▸ fits.starts
  case stops =>
    intro node member named
    obtain ⟨s, fits, _, _, span, empty, _⟩ := exists_fits_of_mem_nodes fits member
    exact span ▸ fits.stops (mt empty.mp named)
  case arrow =>
    intro node member isList isLeaf
    obtain ⟨s, fits, _, _, span, empty, _⟩ := exists_fits_of_mem_nodes fits member
    exact span ▸ fits.arrow (empty.mpr ⟨isList, isLeaf⟩)
  case contains =>
    intro id bound child member
    have root := fits _ (unfoldFrom_mem_preorder t bound)
    have place := List.mem_map_of_mem (f := Node.span) member
    rw [spans_childNodes] at place
    obtain ⟨s, among, same⟩ := List.mem_map.mp place
    exact same ▸ span_unfoldFrom bound ▸ root.contains s among
  case apart =>
    intro id bound
    have root := fits _ (unfoldFrom_mem_preorder t bound)
    have spans : (((ofTree t).childNodes id bound).map Node.span).Pairwise Span.Before := by
      rw [spans_childNodes, List.pairwise_map]
      exact root.apart
    exact List.pairwise_map.mp spans
  case atom =>
    intro node member isAtom
    obtain ⟨token, among, _, same⟩ := exists_token_of_isAtom fits member isAtom
    have slices := (Lexer.splits_of_tokens split).slice (Body.slice?_of rule.toList) token among
    refine ⟨token, among, same, ?_⟩
    rw [same]
    exact slices.2
  case leaves => exact pairwise_leaves_ofTree fits

end Standing

/-- The expression `f(() -> é[0])` without blanks. -/
def parameterless : Tree :=
  .node .function (some "f") ⟨0, 12⟩ [
    .node .arrow none ⟨2, 11⟩ [.node .lambdaParameters none ⟨2, 4⟩ [],
      .node .index none ⟨6, 11⟩ [.node .identifier (some "é") ⟨6, 8⟩ [],
        .node (.literal .number) (some "0") ⟨9, 10⟩ []]]]

/-- The tokens of `f(()->é[0])`. -/
def parameterlessTokens : List Token := [
  ⟨.ident "f", ⟨0, 1⟩, "f"⟩, ⟨.mark .openParen, ⟨1, 2⟩, "("⟩, ⟨.mark .openParen, ⟨2, 3⟩, "("⟩,
  ⟨.mark .closeParen, ⟨3, 4⟩, ")"⟩, ⟨.mark .arrow, ⟨4, 6⟩, "->"⟩, ⟨.ident "é", ⟨6, 8⟩, "é"⟩,
  ⟨.mark .openBracket, ⟨8, 9⟩, "["⟩, ⟨.number 0, ⟨9, 10⟩, "0"⟩,
  ⟨.mark .closeBracket, ⟨10, 11⟩, "]"⟩, ⟨.mark .closeParen, ⟨11, 12⟩, ")"⟩]

/-- A lambda without parameters, whose empty list of them reaches up to the arrow. -/
theorem standsOn_parameterless :
    SyntaxTree.parse "f(()->é[0])" = .ok (ofTree parameterless) ∧
      ⟨.lambdaParameters, none, ⟨2, 4⟩, []⟩ ∈ (ofTree parameterless).nodes ∧
      (ofTree parameterless).StandsOn "f(()->é[0])" parameterlessTokens := by
  have tokens : (Body.of "f(()->é[0])".toList).tokens = .ok parameterlessTokens :=
    Lexer.tokens_of_split? (n := 20) rfl
  have parsed : SyntaxTree.parse "f(()->é[0])" = .ok (ofTree parameterless) :=
    parse_of_run (.fail .empty) tokens rfl rfl rfl rfl
  obtain ⟨tokens', split, standsOn⟩ := standsOn_of_parse parsed
  rw [tokens] at split
  cases split
  exact ⟨parsed, List.mem_toArray.mpr List.mem_cons_self, standsOn⟩

end SyntaxTree

end TargetingRules
