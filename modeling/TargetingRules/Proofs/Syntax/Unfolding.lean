import Mathlib.Data.List.Nodup
import TargetingRules.Syntax.Numbering

/-!
# Numbered nodes and the expressions they stand for

Numbering an expression and following the numbers again gives the expression back. A traversal of
numbered nodes meets, in order, what a traversal of the expression meets; this needs no more than
that children come first, and holds of every syntax tree.
-/

namespace TargetingRules

namespace SyntaxTree

variable {tree : SyntaxTree}

theorem children_lt {id : Nat} (bound : id < tree.nodes.size) :
    ∀ child ∈ tree.nodes[id].children, child < tree.nodes.size :=
  fun child member => Nat.lt_trans (tree.first id bound child member) bound

theorem unfoldFrom_eq {id : Nat} (bound : id < tree.nodes.size) :
    tree.unfoldFrom id bound = .node tree.nodes[id].kind tree.nodes[id].image tree.nodes[id].span
      (tree.nodes[id].children.pmap tree.unfoldFrom (children_lt bound)) := by
  rw [unfoldFrom, List.pmap_eq_map_attach]

/-! ## Numbering -/

theorem prefix_drop_of_append {α : Type} {xs ys all : List α} {base : Nat}
    (segment : xs ++ ys <+: all.drop base) :
    xs <+: all.drop base ∧ ys <+: all.drop (base + xs.length) := by
  obtain ⟨after, split⟩ := segment
  refine ⟨⟨ys ++ after, by rw [← split, List.append_assoc]⟩, ⟨after, ?_⟩⟩
  rw [← List.drop_drop, ← split, List.append_assoc, List.drop_left]

theorem getElem?_of_prefix_drop {α : Type} {x : α} {all : List α} {base : Nat}
    (segment : [x] <+: all.drop base) : all[base]? = some x := by
  obtain ⟨after, split⟩ := segment
  have front : (all.drop base)[0]? = some x := by rw [← split]; rfl
  rwa [List.getElem?_drop] at front

/-- If nothing comes twice in some lists together, it is in one of them only. -/
theorem index_unique_of_nodup_flatten {α : Type} {parts : List (List α)} (nodup : parts.flatten.Nodup)
    {x : α} {i j : Nat} (bound : i < parts.length) (bound' : j < parts.length)
    (here : x ∈ parts[i]) (there : x ∈ parts[j]) : i = j := by
  have apart := List.pairwise_iff_getElem.mp (List.nodup_flatten.mp nodup).2
  rcases Nat.lt_trichotomy i j with less | same | more
  · exact absurd there (apart i j bound bound' less here)
  · exact same
  · exact absurd here (apart j i bound' bound more there)

mutual

/-- Where the nodes of an expression stand, its last node stands for the expression. -/
theorem unfoldFrom_of_numbered (tree : SyntaxTree) (base : Nat) : (t : Tree) →
    t.numbered base <+: tree.nodes.toList.drop base →
      ∀ bound, tree.unfoldFrom (base + t.size - 1) bound = t
  | .node kind image span children, segment, bound => by
    obtain ⟨below, last⟩ := prefix_drop_of_append segment
    have found := getElem?_of_prefix_drop last
    rw [Tree.length_numberedAll, Array.getElem?_toList] at found
    obtain ⟨inside, found⟩ := Array.getElem?_eq_some_iff.mp found
    change tree.unfoldFrom (base + Tree.sizeAll children) inside = _
    rw [unfoldFrom_eq]
    congr 1
    · rw [found]
    · rw [found]
    · rw [found]
    · simp only [found, pmap_unfoldFrom_of_numbered tree base children below]

theorem pmap_unfoldFrom_of_numbered (tree : SyntaxTree) (base : Nat) : (ts : List Tree) →
    Tree.numberedAll base ts <+: tree.nodes.toList.drop base →
      ∀ bounds, (Tree.rootNumbers base ts).pmap tree.unfoldFrom bounds = ts
  | [], _, _ => rfl
  | t :: ts, segment, bounds => by
    obtain ⟨first, others⟩ := prefix_drop_of_append segment
    rw [Tree.length_numbered] at others
    simp only [Tree.rootNumbers, List.pmap_cons, unfoldFrom_of_numbered tree base t first,
      pmap_unfoldFrom_of_numbered tree (base + t.size) ts others]

end

/-- The syntax tree of an expression stands for the expression. -/
@[simp] theorem unfold_ofTree (t : Tree) : (ofTree t).unfold = t := by
  have bound := (ofTree t).root_lt
  change (ofTree t).unfoldFrom (t.size - 1) bound = t
  have found := unfoldFrom_of_numbered (ofTree t) 0 t
    (by simp only [List.drop_zero]; exact List.prefix_rfl)
  simp only [Nat.zero_add] at found
  exact found bound

/-! ## Traversals -/

end SyntaxTree

/-- What a traversal can see of a node. -/
structure Label where
  /-- The kind of the node. -/
  kind : Kind
  /-- Its image. -/
  image : Option String
  /-- Its place. -/
  span : Span
  /-- Whether it has no children. -/
  isLeaf : Bool

/-- The label of a numbered node. -/
def Node.label (node : Node) : Label :=
  ⟨node.kind, node.image, node.span, node.isLeaf⟩

/-- The label of the root of an expression. -/
def Tree.label (t : Tree) : Label :=
  ⟨t.kind, t.image, t.span, t.children.isEmpty⟩

namespace Tree

mutual

/-- A numbered node carries the label of a part of the expression. -/
theorem exists_label_of_mem_numbered {node : Node} : (base : Nat) → (t : Tree) →
    node ∈ t.numbered base → ∃ s ∈ t.preorder, node.label = s.label
  | base, .node kind image span children, member => by
    rw [numbered, List.mem_append, List.mem_singleton] at member
    rcases member with below | rfl
    · obtain ⟨s, inside, same⟩ := exists_label_of_mem_numberedAll base children below
      exact ⟨s, List.mem_cons_of_mem _ inside, same⟩
    · refine ⟨_, List.mem_cons_self, ?_⟩
      cases children <;> rfl

theorem exists_label_of_mem_numberedAll {node : Node} : (base : Nat) → (ts : List Tree) →
    node ∈ numberedAll base ts → ∃ s ∈ preorderAll ts, node.label = s.label
  | base, [], member => by cases member
  | base, t :: ts, member => by
    rw [numberedAll, List.mem_append] at member
    rcases member with first | others
    · obtain ⟨s, inside, same⟩ := exists_label_of_mem_numbered base t first
      exact ⟨s, List.mem_append_left _ inside, same⟩
    · obtain ⟨s, inside, same⟩ := exists_label_of_mem_numberedAll (base + t.size) ts others
      exact ⟨s, List.mem_append_right _ inside, same⟩

end

end Tree

theorem Tree.preorderAll_eq (ts : List Tree) : preorderAll ts = (ts.map preorder).flatten := by
  induction ts with
  | nil => rfl
  | cons t ts ih => simp only [preorderAll, ih, List.map_cons, List.flatten_cons]

namespace SyntaxTree

variable {tree : SyntaxTree}

/-- The nodes that a node leads to in pre-order. -/
def visitedFrom (tree : SyntaxTree) (id : Nat) (bound : id < tree.nodes.size) : List Node :=
  tree.nodes[id] :: (tree.nodes[id].children.attach.map fun ⟨child, member⟩ =>
    have earlier : child < id := tree.first id bound child member
    tree.visitedFrom child (Nat.lt_trans earlier bound)).flatten
termination_by id

/-- The nodes that the root leads to in pre-order. -/
def visited (tree : SyntaxTree) : List Node :=
  tree.visitedFrom tree.root tree.root_lt

theorem visitedFrom_eq {id : Nat} (bound : id < tree.nodes.size) :
    tree.visitedFrom id bound = tree.nodes[id] ::
      (tree.nodes[id].children.pmap tree.visitedFrom (children_lt bound)).flatten := by
  rw [visitedFrom, List.pmap_eq_map_attach]

theorem labels_visitedFrom {id : Nat} (bound : id < tree.nodes.size) :
    (tree.visitedFrom id bound).map Node.label =
      (tree.unfoldFrom id bound).preorder.map Tree.label := by
  induction id using Nat.strongRecOn with
  | ind id ih =>
    rw [visitedFrom_eq, unfoldFrom_eq, Tree.preorder, Tree.preorderAll_eq]
    simp only [List.map_cons, List.map_flatten, List.map_pmap]
    congr 1
    · simp only [Node.label, Tree.label, Node.isLeaf, Tree.kind, Tree.image, Tree.span,
        Tree.children, Label.mk.injEq, true_and]
      rw [Bool.eq_iff_iff, List.isEmpty_iff, List.isEmpty_iff, List.pmap_eq_nil_iff]
    · congr 1
      exact List.pmap_congr_left _ fun child member _ _ =>
        ih child (tree.first id bound child member) _

/-- A traversal of a syntax tree meets the nodes of its expression in pre-order. -/
theorem labels_visited (tree : SyntaxTree) :
    tree.visited.map Node.label = tree.unfold.preorder.map Tree.label :=
  labels_visitedFrom tree.root_lt

/-- The nodes of the syntax tree of an expression are all parts of the expression. -/
theorem exists_label_of_mem_nodes {t : Tree} {node : Node} (member : node ∈ (ofTree t).nodes) :
    ∃ s ∈ t.preorder, node.label = s.label :=
  t.exists_label_of_mem_numbered 0 (List.mem_toArray.mp member)

theorem forM_flatten {m : Type → Type} [Monad m] [LawfulMonad m] {α β : Type} {visit : β → m Unit}
    {step : α → m Unit} {parts : α → List β} (xs : List α)
    (same : ∀ x, step x = (parts x).forM visit) :
    xs.forM step = ((xs.map parts).flatten).forM visit := by
  induction xs with
  | nil => rfl
  | cons x xs ih =>
    simp only [List.forM_eq_forM, List.forM_cons, List.map_cons, List.flatten_cons,
      List.forM_append] at *
    rw [same, ih]

/-- A traversal in a monad visits the nodes in pre-order. -/
theorem walkFrom_eq_forM {m : Type → Type} [Monad m] [LawfulMonad m] (visit : Node → m Unit)
    {id : Nat} (bound : id < tree.nodes.size) :
    tree.walkFrom visit id bound = (tree.visitedFrom id bound).forM visit := by
  induction id using Nat.strongRecOn with
  | ind id ih =>
    rw [walkFrom, visitedFrom]
    simp only [List.forM_eq_forM, List.forM_cons]
    congr 1
    funext _
    exact forM_flatten _ fun child => ih child.1 (tree.first id bound child.1 child.2) _

theorem walk_eq_forM {m : Type → Type} [Monad m] [LawfulMonad m] (tree : SyntaxTree)
    (visit : Node → m Unit) : tree.walk visit = tree.visited.forM visit :=
  walkFrom_eq_forM visit tree.root_lt

/-- What is found is the first fitting node in pre-order. -/
theorem find?_eq (tree : SyntaxTree) (wanted : Node → Bool) :
    tree.find? wanted = tree.visited.find? wanted := by
  rw [find?, walk_eq_forM]
  generalize tree.visited = nodes
  induction nodes with
  | nil => rfl
  | cons node nodes ih =>
    simp only [List.forM_eq_forM, List.forM_cons, List.find?_cons] at *
    cases found : wanted node with
    | true => rfl
    | false => exact ih

theorem collect_eq (nodes collected : List Node) :
    ((nodes.forM fun node => if node.isLeaf then modify (node :: ·) else pure () :
      StateM (List Node) Unit).run collected).2 = (nodes.filter Node.isLeaf).reverse ++ collected := by
  induction nodes generalizing collected with
  | nil => rfl
  | cons node nodes ih =>
    rw [List.forM_eq_forM] at ih
    rw [List.forM_eq_forM, List.forM_cons, List.filter_cons]
    cases node.isLeaf with
    | true =>
      simp only [↓reduceIte, List.reverse_cons, List.append_assoc]
      exact ih (node :: collected)
    | false => exact ih collected

/-- The leaves are the nodes without children in pre-order. -/
theorem leaves_eq (tree : SyntaxTree) : tree.leaves = tree.visited.filter Node.isLeaf := by
  simp only [leaves, walk_eq_forM, collect_eq, List.append_nil, List.reverse_reverse]

end SyntaxTree

end TargetingRules
