import TargetingRules.Proofs.Syntax.Mentions
import TargetingRules.Proofs.Syntax.Nesting
import TargetingRules.Proofs.Syntax.Traversal

/-!
# Named nodes from left to right

A variable, a literal, a member and a call of a function start with the tokens that name them. A call is
put together only when its arguments have been read, but it reaches back to its name, and its arguments
come after that. So the nodes with an image, in pre-order, start further and further to the right, and
the first one of a sort in pre-order is the first one in the text of the rule.
-/

namespace TargetingRules

open Grammar
open Lexer (Ordered)

/-! ## Starts of groups -/

theorem Label.Carries.ne_nil {label : Label} {group : List Token} (carries : label.Carries group) :
    group ≠ [] := by
  cases carries <;> exact List.cons_ne_nil _ _

/-- A node carries a group of tokens and starts where the group does. -/
structure Label.Opens (label : Label) (group : List Token) : Prop where
  carries : label.Carries group
  starts : label.span.start = (extent group).start

theorem Label.Opens.exists_token {label : Label} {group : List Token} (opens : label.Opens group) :
    ∃ token ∈ group, token.span.start = label.span.start := by
  have nonempty : group.map Token.span ≠ [] := by simpa using opens.carries.ne_nil
  obtain ⟨span, among, starts⟩ := (Span.covers_cover nonempty).start
  obtain ⟨token, member, rfl⟩ := List.mem_map.mp among
  exact ⟨token, member, starts.trans opens.starts.symm⟩

/-- Nodes that open with groups start where tokens of the groups do, in the same order. -/
theorem starts_sublist {labels : List Label} {groups : List (List Token)}
    (opened : List.Forall₂ Label.Opens labels groups) :
    (labels.map fun label => label.span.start).Sublist
      (groups.flatten.map fun token => token.span.start) := by
  induction opened with
  | nil => exact .slnil
  | @cons label group labels groups opens _ ih =>
    obtain ⟨token, member, starts⟩ := opens.exists_token
    have first : [label.span.start].Sublist (group.map fun token => token.span.start) :=
      List.singleton_sublist.mpr (List.mem_map.mpr ⟨token, member, starts⟩)
    rw [List.map_cons, List.flatten_cons, List.map_append]
    exact first.append ih

theorem Lexer.Ordered.pairwise_starts {pos : Nat} {ts : List Token} (ordered : Ordered pos ts) :
    (ts.map fun token => token.span.start).Pairwise (· < ·) := by
  have before := List.pairwise_map.mp ordered.pairwise
  exact List.pairwise_map.mpr before

/-! ## Derivations -/

namespace Grammar

/-- Some tokens are read from the front, and nodes open with groups of them, in the same order. -/
def Opened (ts : List Token) (labels : List Label) (rest : List Token) : Prop :=
  ∀ pos, Ordered pos ts → ∃ front groups stop, ts = front ++ rest ∧ Ordered stop rest ∧
    groups.flatten.Sublist front ∧ List.Forall₂ Label.Opens labels groups

section Opened

variable {ts middle rest : List Token} {xs ys : List Label} {token close : Token} {isLeaf : Bool}

theorem Opened.append (first : Opened ts xs middle) (second : Opened middle ys rest) :
    Opened ts (xs ++ ys) rest := by
  intro pos ordered
  obtain ⟨front, groups, between, rfl, ordered', sub, opened⟩ := first pos ordered
  obtain ⟨front', groups', stop, rfl, ordered'', sub', opened'⟩ := second between ordered'
  refine ⟨front ++ front', groups ++ groups', stop, ?_, ordered'', ?_, List.rel_append opened opened'⟩
  · rw [List.append_assoc]
  · rw [List.flatten_append]
    exact sub.append sub'

theorem Opened.skip (token : Token) (rest : List Token) : Opened (token :: rest) [] rest :=
  fun _ ⟨_, _, ordered⟩ => ⟨[token], [], _, rfl, ordered, List.nil_sublist _, .nil⟩

/-- A token after what was read is read as well. -/
theorem Opened.then (first : Opened ts xs (token :: rest)) : Opened ts xs rest := by
  have both := first.append (.skip token rest)
  rwa [List.append_nil] at both

/-- A token before what was read is read as well. -/
theorem Opened.after (token : Token) (second : Opened ts xs rest) : Opened (token :: ts) xs rest :=
  (Opened.skip token ts).append second

/-- A node that is one token. -/
theorem Opened.take {label : Label} (carries : label.Carries [token])
    (place : label.span = token.span) (rest : List Token) : Opened (token :: rest) [label] rest := by
  rintro pos ⟨_, _, ordered⟩
  refine ⟨[token], [[token]], _, rfl, ordered, List.Sublist.refl _, .cons ⟨carries, ?_⟩ .nil⟩
  rw [place]
  rfl

/-- The leaf for a variable or a member. -/
theorem Opened.named {kind : Kind} (isName : IsName token)
    (isNamed : kind = .identifier ∨ kind = .member) (rest : List Token) :
    Opened (token :: rest) (leaf kind token).imaged rest := by
  rw [leaf, Tree.imaged_node_some]
  exact .take (.leaf isName isNamed) rfl rest

/-- The call of a function opens with its name, because the token that closes it comes later. -/
theorem Opened.call (isName : IsName token) (inner : Opened ts xs (close :: rest)) :
    Opened (token :: ts)
      (⟨.function, some token.text, token.span.join close.span, isLeaf⟩ :: xs) rest := by
  rintro pos ⟨_, forward, ordered⟩
  obtain ⟨front, groups, stop, rfl, ⟨_, _, ordered'⟩, sub, opened⟩ := inner _ ordered
  have later : token.span.stop ≤ close.span.start := ordered.start_ge close (by simp)
  refine ⟨token :: front ++ [close], [token] :: groups, _, by simp, ordered', ?_,
    .cons ⟨.function isName, ?_⟩ opened⟩
  · exact (sub.trans (List.sublist_append_left front [close])).cons_cons token
  · exact Nat.min_eq_left (Nat.le_of_lt (Nat.lt_of_lt_of_le forward later))

/-- With a namespace, it opens with that. -/
theorem Opened.qualifiedCall {scope colon name opening : Token} (isScope : IsName scope)
    (qualified : OpensQualified scope (colon :: name :: opening :: ts))
    (inner : Opened ts xs (close :: rest)) :
    Opened (scope :: colon :: name :: opening :: ts)
      (⟨.function, some (scope.text ++ ":" ++ name.text),
        (scope.span.join name.span).join close.span, isLeaf⟩ :: xs) rest := by
  obtain ⟨isColon, isName, _, first, second⟩ := qualified
  rintro pos ⟨_, scopes, _, colons, names, _, _, _, ordered⟩
  obtain ⟨front, groups, stop, rfl, ⟨_, _, ordered'⟩, sub, opened⟩ := inner _ ordered
  have later : opening.span.stop ≤ close.span.start := ordered.start_ge close (by simp)
  refine ⟨scope :: colon :: name :: opening :: front ++ [close], [scope, colon, name] :: groups, _,
    by simp, ordered', ?_, .cons ⟨.qualified isScope isColon isName first second, ?_⟩ opened⟩
  · have longer : groups.flatten.Sublist (opening :: (front ++ [close])) :=
      (sub.trans (List.sublist_append_left front [close])).cons opening
    exact ((longer.cons_cons name).cons_cons colon).cons_cons scope
  · simp only [extent, Span.cover, Span.join, List.map_cons, List.map_nil, List.foldl_cons,
      List.foldl_nil]
    omega

end Opened

theorem Names.opened {ts names rest : List Token} (listed : Names ts names rest) :
    Opened ts (Tree.imagedAll (names.map (leaf .identifier))) rest := by
  induction listed with
  | one isName => exact .named isName (.inl rfl) _
  | @more name comma ts names rest isName isComma _ ih =>
    rw [List.map_cons, Tree.imagedAll_cons]
    exact (Opened.named isName (.inl rfl) _).append (ih.after comma)

theorem Parameters.opened {ts : List Token} {params : Tree} {rest : List Token}
    (head : Parameters ts params rest) : Opened ts params.imaged rest := by
  cases head with
  | name isName isArrow => exact (Opened.named isName (.inl rfl) _).then
  | none isOpen isClose isArrow => exact ((Opened.skip _ _).then).then
  | names isOpen listed isClose isArrow =>
    rw [spanning, Tree.imaged_node]
    exact ((listed.opened.then).then).after _

mutual

/-- The nodes of an expression that have an image open with the tokens that name them. -/
theorem Derives.opened {n : Nat} {ℓ : Level} {ts : List Token} {t : Tree} {rest : List Token} :
    Derives n ℓ ts t rest → Opened ts t.imaged rest
  | .tighter inner => inner.opened
  | .assign left _ right => by
    rw [spanning, Tree.imaged_pair]
    exact left.opened.then.append right.opened
  | .lambda head inner => by
    rw [spanning, Tree.imaged_pair]
    exact head.opened.append inner.opened
  | .ternary first _ second _ third => by
    rw [spanning, Tree.imaged_triple]
    exact first.opened.then.append (second.opened.then.append third.opened)
  | .flat _ operands _ => by
    rw [spanning, Tree.imaged_node]
    exact operands.opened
  | .binary _ first _ second => by
    rw [spanning, Tree.imaged_pair]
    exact first.opened.then.append second.opened
  | .prefixed _ _ inner => by
    rw [Tree.imaged_node, Tree.imagedAll_cons, Tree.imagedAll_nil, List.append_nil]
    exact inner.opened.after _
  | .property inner _ isName => by
    rw [spanning, Tree.imaged_pair]
    exact inner.opened.then.append (.named isName (.inr rfl) _)
  | .method inner _ isName _ list => by
    rw [spanning, Tree.imaged_triple, Tree.imaged_node]
    have arguments := list.opened.then
    exact inner.opened.then.append ((Opened.named isName (.inr rfl) _).append (arguments.after _))
  | .index inner _ nested _ => by
    rw [Tree.imaged_pair]
    exact inner.opened.then.append nested.opened.then
  | .literal isLiteral => .take (.literal isLiteral) rfl _
  | .identifier isName _ => .named isName (.inl rfl) _
  | .call isName _ list => by
    rw [Tree.imaged_node_some]
    exact (list.opened.after _).call isName
  | .qualifiedCall isScope qualified list => by
    rw [Tree.imaged_node_some]
    exact list.opened.qualifiedCall isScope qualified
  | .parentheses _ inner _ => inner.opened.then.after _
  | .list _ list => by
    rw [Tree.imaged_node]
    exact list.opened.then.after _

theorem Series.opened {n : Nat} {ℓ : Level} {mark : Mark} {ts : List Token} {trees : List Tree}
    {rest : List Token} : Series n ℓ mark ts trees rest → Opened ts (Tree.imagedAll trees) rest
  | .one last => by
    rw [Tree.imagedAll_cons, Tree.imagedAll_nil, List.append_nil]
    exact last.opened
  | .more first _ others => by
    rw [Tree.imagedAll_cons]
    exact first.opened.then.append others.opened

theorem Items.opened {n : Nat} {mark : Mark} {ts : List Token} {trees : List Tree}
    {close : Token} {rest : List Token} :
    Items n mark ts trees close rest → Opened ts (Tree.imagedAll trees) (close :: rest)
  | .none _ => fun pos ordered => ⟨[], [], pos, rfl, ordered, .slnil, .nil⟩
  | .some listed _ => listed.opened

end

end Grammar

/-! ## Rules -/

/-- The name of a node stands in a text at the start of the node. -/
def Node.StandsBy (node : Node) (name : String) (text : String) : Prop :=
  ∃ before after, text.toList = before ++ name.toList ++ after ∧
    node.span.start = Text.byteLength before

namespace SyntaxTree

variable {rule : String} {tree : SyntaxTree}

/-- From the root of the syntax tree of a rule every node is met. -/
theorem mem_visited_iff (read : SyntaxTree.parse rule = .ok tree) {node : Node} :
    node ∈ tree.visited ↔ node ∈ tree.nodes := by
  obtain ⟨t, _, rfl⟩ := parse_eq_ok_iff.mp read
  rw [visited_eq_map, List.mem_map, Array.mem_iff_getElem]
  constructor
  · rintro ⟨id, _, rfl⟩
    exact ⟨id, id.isLt, rfl⟩
  · rintro ⟨id, bound, rfl⟩
    exact ⟨⟨id, bound⟩, (perm_preorderFrom_ofTree t).mem_iff.mpr (List.mem_finRange _), rfl⟩

/-- The nodes of a rule that have an image open with groups of its tokens. -/
theorem opened_of_parse (read : SyntaxTree.parse rule = .ok tree) :
    ∃ tokens groups, Lexer.Splits (Body.of rule.toList).start (Body.of rule.toList).chars tokens ∧
      groups.flatten.Sublist tokens ∧
        List.Forall₂ (fun node group => node.label.Opens group) tree.imaged groups := by
  obtain ⟨t, parsed, rfl⟩ := parse_eq_ok_iff.mp read
  obtain ⟨tokens, split, derived, _⟩ := Tree.parse_eq_ok_iff.mp parsed
  have splits := Lexer.splits_of_tokens split
  obtain ⟨front, groups, _, whole, _, sub, opened⟩ := derived.opened _ splits.ordered
  rw [List.append_nil] at whole
  rw [← unfold_ofTree t, ← labels_imaged, List.forall₂_map_left_iff] at opened
  exact ⟨tokens, groups, splits, whole ▸ sub, opened⟩

/-- The named nodes of a rule, in pre-order, start further and further to the right. -/
theorem pairwise_imaged_of_parse (read : SyntaxTree.parse rule = .ok tree) :
    tree.imaged.Pairwise fun first second => first.span.start < second.span.start := by
  obtain ⟨tokens, groups, splits, sub, opened⟩ := opened_of_parse read
  have starts := starts_sublist (List.forall₂_map_left_iff.mpr opened)
  rw [List.map_map] at starts
  have increasing := splits.ordered.pairwise_starts.sublist (starts.trans (sub.map _))
  exact List.pairwise_map.mp increasing

/-- Each of them starts with its name. -/
theorem standsBy_of_parse (read : SyntaxTree.parse rule = .ok tree) {node : Node}
    (member : node ∈ tree.imaged) {name : String} (named : node.image = some name) :
    node.StandsBy name rule := by
  obtain ⟨tokens, groups, splits, sub, opened⟩ := opened_of_parse read
  obtain ⟨i, bound, rfl⟩ := List.mem_iff_getElem.mp member
  have bound' : i < groups.length := by rwa [← opened.length_eq]
  have opens := opened.get bound bound'
  have inside : ∀ token ∈ groups[i], token ∈ tokens := fun token among =>
    sub.subset (List.mem_flatten_of_mem (List.getElem_mem bound') among)
  have stands := opens.carries.standsIn fun token among => splits.standsIn token (inside token among)
  have image := opens.carries.image_eq fun token among => splits.text_of_colon token (inside token among)
  obtain ⟨_, before, after, same, whole, starts, _⟩ := stands.whole
  obtain rfl := Option.some.inj (named.symm.trans image)
  cases same
  rw [Nat.zero_add] at starts
  exact ⟨before, after, whole, opens.starts.trans starts⟩

end SyntaxTree

end TargetingRules
