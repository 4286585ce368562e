import Mathlib.Data.List.FinRange
import Mathlib.Data.List.Nodup
import Mathlib.Data.List.Perm.Basic
import Mathlib.Logic.Relation
import TargetingRules.Proofs.Syntax.Assembled
import TargetingRules.Proofs.Syntax.Lexing
import TargetingRules.Proofs.Syntax.Parsing

/-!
# Parsed rules are one tree in post-order

The nodes of a syntax tree need only come after their children: nodes may be shared, out of reach of
the root, or in any order that allows this. Those of a rule are numbered in post-order. Every node
but the last, which is the root, is a child of exactly one node and once, and what lies below a node
is an interval of numbers that ends with its own. A traversal therefore meets every node once.

The facts about single numbers come from two equations of lists: the post-order of a segment of
numbered nodes, and the children of all its nodes put together.
-/

namespace TargetingRules

namespace SyntaxTree

/-- A node is among the children of another one. -/
def IsChild (tree : SyntaxTree) (child parent : Nat) : Prop :=
  ∃ bound : parent < tree.nodes.size, child ∈ tree.nodes[parent].children

/-- A node leads to another one through any number of children. -/
def Below (tree : SyntaxTree) (low high : Nat) : Prop :=
  Relation.ReflTransGen tree.IsChild low high

/-- The numbers of the nodes that a node leads to, each after its children. -/
def postorderFrom (tree : SyntaxTree) (id : Nat) (bound : id < tree.nodes.size) : List Nat :=
  (tree.nodes[id].children.attach.map fun ⟨child, member⟩ =>
    have earlier : child < id := tree.first id bound child member
    tree.postorderFrom child (Nat.lt_trans earlier bound)).flatten ++ [id]
termination_by id

/-- The numbers of the nodes that a node leads to, each before its children. -/
def preorderFrom (tree : SyntaxTree) (id : Nat) (bound : id < tree.nodes.size) :
    List (Fin tree.nodes.size) :=
  ⟨id, bound⟩ :: (tree.nodes[id].children.attach.map fun ⟨child, member⟩ =>
    have earlier : child < id := tree.first id bound child member
    tree.preorderFrom child (Nat.lt_trans earlier bound)).flatten
termination_by id

/-- The nodes are one tree, numbered in post-order. -/
structure PostOrdered (tree : SyntaxTree) : Prop where
  /-- The root is the last node. -/
  root_last : tree.root + 1 = tree.size
  /-- Every other node is a child of exactly one node. -/
  parent : ∀ id < tree.root, ∃! parent, tree.IsChild id parent
  /-- A child occurs once among the children of its parent. -/
  once : ∀ node ∈ tree.nodes, node.children.Nodup
  /-- Every node is in reach of the root. -/
  reached : ∀ id < tree.size, tree.Below id tree.root
  /-- The numbers below a node are an interval that ends with its own. -/
  interval : ∀ id < tree.size, ∃ first ≤ id, ∀ low, tree.Below low id ↔ first ≤ low ∧ low ≤ id
  /-- The numbers count the nodes in post-order. -/
  numbering : tree.postorderFrom tree.root tree.root_lt = List.range tree.size
  /-- A traversal visits every node once. -/
  walk_eq : ∃ order : List (Fin tree.nodes.size), order.Perm (List.finRange tree.nodes.size) ∧
    ∀ {m : Type → Type} [Monad m] [LawfulMonad m] (visit : Node → m Unit),
      tree.walk visit = order.forM fun ⟨id, _⟩ => visit tree.nodes[id]

variable {tree : SyntaxTree}

/-! ## Orders of any syntax tree -/

theorem postorderFrom_eq {id : Nat} (bound : id < tree.nodes.size) :
    tree.postorderFrom id bound =
      (tree.nodes[id].children.pmap tree.postorderFrom (children_lt bound)).flatten ++ [id] := by
  rw [postorderFrom, List.pmap_eq_map_attach]

theorem preorderFrom_eq {id : Nat} (bound : id < tree.nodes.size) :
    tree.preorderFrom id bound = ⟨id, bound⟩ ::
      (tree.nodes[id].children.pmap tree.preorderFrom (children_lt bound)).flatten := by
  rw [preorderFrom, List.pmap_eq_map_attach]

/-- The post-order from a node lists what is below it. -/
theorem mem_postorderFrom_iff {low id : Nat} (bound : id < tree.nodes.size) :
    low ∈ tree.postorderFrom id bound ↔ tree.Below low id := by
  induction id using Nat.strongRecOn with
  | ind id ih =>
    rw [postorderFrom_eq, List.mem_append, List.mem_singleton, Below,
      Relation.ReflTransGen.cases_tail_iff, List.mem_flatten, or_comm, eq_comm]
    refine or_congr_right ⟨?_, ?_⟩
    · rintro ⟨part, among, inside⟩
      obtain ⟨child, member, rfl⟩ := List.mem_pmap.mp among
      exact ⟨child, (ih child (tree.first id bound child member) _).mp inside, bound, member⟩
    · rintro ⟨child, below, _, member⟩
      refine ⟨_, List.mem_pmap.mpr ⟨child, member, rfl⟩, ?_⟩
      exact (ih child (tree.first id bound child member) _).mpr below

/-- Pre-order and post-order list the same numbers, each as often. -/
theorem perm_postorderFrom {id : Nat} (bound : id < tree.nodes.size) :
    ((tree.preorderFrom id bound).map Fin.val).Perm (tree.postorderFrom id bound) := by
  induction id using Nat.strongRecOn with
  | ind id ih =>
    rw [preorderFrom, postorderFrom, List.map_cons, List.map_flatten, List.map_map, ← List.flatMap_def,
      ← List.flatMap_def]
    refine .trans (.cons _ ?_) (List.perm_append_singleton id _).symm
    exact .flatMap_left _ fun child _ => ih child.1 (tree.first id bound child.1 child.2) _

theorem visitedFrom_eq_map {id : Nat} (bound : id < tree.nodes.size) :
    tree.visitedFrom id bound = (tree.preorderFrom id bound).map fun ⟨id, _⟩ => tree.nodes[id] := by
  induction id using Nat.strongRecOn with
  | ind id ih =>
    rw [visitedFrom_eq, preorderFrom_eq, List.map_cons, List.map_flatten, List.map_pmap]
    congr 2
    exact List.pmap_congr_left _ fun child member _ _ =>
      ih child (tree.first id bound child member) _

/-! ## Segments of numbered nodes -/

mutual

/-- From the last node of an expression, the post-order counts its nodes. -/
theorem postorderFrom_of_numbered (tree : SyntaxTree) (base : Nat) : (t : Tree) →
    t.numbered base <+: tree.nodes.toList.drop base →
      ∀ bound, tree.postorderFrom (base + t.size - 1) bound = List.range' base t.size
  | .node kind image span children, segment, bound => by
    obtain ⟨below, last⟩ := prefix_drop_of_append segment
    have found := getElem?_of_prefix_drop last
    rw [Tree.length_numberedAll, Array.getElem?_toList] at found
    obtain ⟨inside, found⟩ := Array.getElem?_eq_some_iff.mp found
    change tree.postorderFrom (base + Tree.sizeAll children) inside = _
    rw [postorderFrom_eq, Tree.size, List.range'_1_concat]
    simp only [found, flatten_postorderFrom_of_numbered tree base children below]

theorem flatten_postorderFrom_of_numbered (tree : SyntaxTree) (base : Nat) : (ts : List Tree) →
    Tree.numberedAll base ts <+: tree.nodes.toList.drop base →
      ∀ bounds, ((Tree.rootNumbers base ts).pmap tree.postorderFrom bounds).flatten =
        List.range' base (Tree.sizeAll ts)
  | [], _, _ => rfl
  | t :: ts, segment, bounds => by
    obtain ⟨first, others⟩ := prefix_drop_of_append segment
    rw [Tree.length_numbered] at others
    simp only [Tree.rootNumbers, List.pmap_cons, List.flatten_cons, Tree.sizeAll,
      postorderFrom_of_numbered tree base t first,
      flatten_postorderFrom_of_numbered tree (base + t.size) ts others, List.range'_append_1]

end

mutual

/-- Every number of a segment is the last one of the segment of a part of the expression. -/
theorem exists_segment {all : List Node} {id : Nat} (base : Nat) : (t : Tree) →
    t.numbered base <+: all.drop base → base ≤ id → id < base + t.size →
      ∃ first s, Tree.numbered first s <+: all.drop first ∧ id + 1 = first + s.size
  | .node kind image span children, segment, above, below => by
    obtain ⟨inside, _⟩ := prefix_drop_of_append segment
    rw [Tree.size] at below
    rcases Nat.lt_or_ge id (base + Tree.sizeAll children) with early | late
    · exact exists_segment_of_all base children inside above early
    · exact ⟨base, _, segment, by simp only [Tree.size]; omega⟩

theorem exists_segment_of_all {all : List Node} {id : Nat} (base : Nat) : (ts : List Tree) →
    Tree.numberedAll base ts <+: all.drop base → base ≤ id → id < base + Tree.sizeAll ts →
      ∃ first s, Tree.numbered first s <+: all.drop first ∧ id + 1 = first + s.size
  | [], _, above, below => absurd below (Nat.not_lt.mpr above)
  | t :: ts, segment, above, below => by
    obtain ⟨first, others⟩ := prefix_drop_of_append segment
    rw [Tree.length_numbered] at others
    rw [Tree.sizeAll] at below
    rcases Nat.lt_or_ge id (base + t.size) with early | late
    · exact exists_segment base t first above early
    · exact exists_segment_of_all (base + t.size) ts others late (by omega)

end

end SyntaxTree

namespace Tree

mutual

/-- The children of all nodes of an expression are its nodes other than the root. -/
theorem perm_children_numbered (base : Nat) : (t : Tree) →
    ((t.numbered base).flatMap Node.children ++ [base + t.size - 1]).Perm (List.range' base t.size)
  | .node kind image span children => by
    have below := perm_children_numberedAll base children
    simp only [numbered, size, List.flatMap_append, List.flatMap_singleton, List.range'_1_concat]
    exact below.append_right _

theorem perm_children_numberedAll (base : Nat) : (ts : List Tree) →
    ((numberedAll base ts).flatMap Node.children ++ rootNumbers base ts).Perm
      (List.range' base (sizeAll ts))
  | [] => .nil
  | t :: ts => by
    have first := perm_children_numbered base t
    have others := perm_children_numberedAll (base + t.size) ts
    simp only [numberedAll, rootNumbers, sizeAll, List.flatMap_append, ← List.range'_append_1]
    refine .trans ?_ (first.append others)
    rw [List.append_assoc, List.append_assoc]
    exact .append_left _ List.perm_middle

end

end Tree

namespace SyntaxTree

/-! ## Numbered expressions -/

variable {tree : SyntaxTree}

theorem size_ofTree (t : Tree) : (ofTree t).size = t.size := by
  simp [SyntaxTree.size, ofTree]

/-- The children of all nodes of a numbered expression are the numbers before the root. -/
theorem perm_children_ofTree (t : Tree) :
    ((ofTree t).nodes.toList.flatMap Node.children).Perm (List.range (ofTree t).root) := by
  have positive := t.size_pos
  have all := t.perm_children_numbered 0
  obtain ⟨before, size⟩ : ∃ before, t.size = before + 1 := ⟨t.size - 1, by omega⟩
  rw [size, List.range'_1_concat, ← List.range_eq_range'] at all
  simp only [Nat.zero_add, Nat.add_sub_cancel] at all
  change ((t.numbered 0).flatMap Node.children).Perm (List.range (t.size - 1))
  rw [size, Nat.add_sub_cancel]
  exact (List.perm_append_right_iff [before]).mp all

theorem IsChild.unique (nodup : (tree.nodes.toList.flatMap Node.children).Nodup) {id parent other : Nat}
    (first : tree.IsChild id parent) (second : tree.IsChild id other) : parent = other := by
  obtain ⟨bound, member⟩ := first
  obtain ⟨bound', member'⟩ := second
  rw [List.flatMap_def] at nodup
  exact index_unique_of_nodup_flatten nodup (by simpa) (by simpa) (by simpa) (by simpa)

theorem exists_isChild_of_mem {id : Nat} (member : id ∈ tree.nodes.toList.flatMap Node.children) :
    ∃ parent, tree.IsChild id parent := by
  obtain ⟨node, among, child⟩ := List.mem_flatMap.mp member
  obtain ⟨parent, bound, rfl⟩ := List.mem_iff_getElem.mp among
  exact ⟨parent, bound, child⟩

theorem postorderFrom_ofTree (t : Tree) :
    (ofTree t).postorderFrom (ofTree t).root (ofTree t).root_lt = List.range t.size := by
  have segment : t.numbered 0 <+: (ofTree t).nodes.toList.drop 0 := List.prefix_rfl
  have order := postorderFrom_of_numbered (ofTree t) 0 t segment
  simp only [Nat.zero_add, ← List.range_eq_range'] at order
  exact order (ofTree t).root_lt

/-- What is below a node is what is below the root of a part of the expression. -/
theorem exists_interval_ofTree (t : Tree) {id : Nat} (bound : id < (ofTree t).size) :
    ∃ first ≤ id, ∀ low, (ofTree t).Below low id ↔ first ≤ low ∧ low ≤ id := by
  have whole : t.numbered 0 <+: (ofTree t).nodes.toList.drop 0 := List.prefix_rfl
  have count := size_ofTree t
  obtain ⟨first, s, segment, last⟩ := exists_segment 0 t whole (Nat.zero_le id) (by omega)
  have positive := s.size_pos
  obtain rfl : id = first + s.size - 1 := by omega
  refine ⟨first, by omega, fun low => ?_⟩
  have inside : first + s.size - 1 < (ofTree t).nodes.size := bound
  rw [← mem_postorderFrom_iff inside, postorderFrom_of_numbered _ first s segment, List.mem_range'_1]
  omega

/-- The pre-order from the root lists every node once. -/
theorem perm_preorderFrom_ofTree (t : Tree) :
    ((ofTree t).preorderFrom (ofTree t).root (ofTree t).root_lt).Perm
      (List.finRange (ofTree t).nodes.size) := by
  have numbers : (List.finRange (ofTree t).nodes.size).map Fin.val =
      (ofTree t).postorderFrom (ofTree t).root (ofTree t).root_lt := by
    rw [postorderFrom_ofTree, List.map_coe_finRange_eq_range]
    exact congrArg List.range (size_ofTree t)
  refine (List.map_perm_map_iff Fin.val_injective).mp ?_
  rw [numbers]
  exact perm_postorderFrom _

theorem postOrdered_ofTree (t : Tree) : (ofTree t).PostOrdered := by
  have children := perm_children_ofTree t
  have nodup := children.nodup_iff.mpr List.nodup_range
  have order := postorderFrom_ofTree t
  constructor
  case root_last =>
    rw [size_ofTree]
    exact Nat.sub_add_cancel t.size_pos
  case parent =>
    intro id early
    obtain ⟨parent, isChild⟩ := exists_isChild_of_mem (children.mem_iff.mpr (List.mem_range.mpr early))
    exact ⟨parent, isChild, fun other isOther => isOther.unique nodup isChild⟩
  case once =>
    exact fun node member => (List.nodup_flatMap.mp nodup).1 node (Array.mem_toList_iff.mpr member)
  case reached =>
    intro id bound
    rwa [← mem_postorderFrom_iff (ofTree t).root_lt, order, List.mem_range, ← size_ofTree]
  case interval => exact fun id bound => exists_interval_ofTree t bound
  case numbering => rw [order, size_ofTree]
  case walk_eq =>
    refine ⟨_, perm_preorderFrom_ofTree t, fun visit => ?_⟩
    rw [walk_eq_forM, visited, visitedFrom_eq_map]
    simp only [List.forM_eq_forM, List.forM_map]

/-- The syntax tree of a rule is one tree in post-order, and its nodes are those that the machine has
pushed when it has read the rule. -/
theorem postOrdered_of_parse {rule : String} {tree : SyntaxTree}
    (success : SyntaxTree.parse rule = .ok tree) :
    tree.PostOrdered ∧ ∀ beyond, ∃ tokens, (Body.of rule.toList).tokens = .ok tokens ∧
      let source : Source := ⟨tokens, Text.byteLength rule.toList⟩
      let run := (Assembler.expression beyond).run source .initial
      run.answer = .ok tree.root ∧ run.last.builder.nodes = tree.nodes ∧
        source.ahead run.last = [] := by
  refine ⟨?_, run_of_parse success⟩
  obtain ⟨t, _, rfl⟩ := parse_eq_ok_iff.mp success
  exact postOrdered_ofTree t

/-- The expression `user.has(a)`. -/
def methodCall : Tree :=
  .node .methodCall none ⟨0, 11⟩ [.node .identifier (some "user") ⟨0, 4⟩ [],
    .node .member (some "has") ⟨5, 8⟩ [],
    .node .arguments none ⟨8, 11⟩ [.node .identifier (some "a") ⟨9, 10⟩ []]]

theorem parse_methodCall : SyntaxTree.parse "user.has(a)" = .ok (ofTree methodCall) := by
  have split : (Body.of "user.has(a)".toList).tokens = .ok [⟨.ident "user", ⟨0, 4⟩, "user"⟩,
      ⟨.mark .dot, ⟨4, 5⟩, "."⟩, ⟨.ident "has", ⟨5, 8⟩, "has"⟩, ⟨.mark .openParen, ⟨8, 9⟩, "("⟩,
      ⟨.ident "a", ⟨9, 10⟩, "a"⟩, ⟨.mark .closeParen, ⟨10, 11⟩, ")"⟩] :=
    Lexer.tokens_of_split? (n := 6) rfl
  exact parse_of_run (.fail .empty) split rfl rfl rfl rfl

/-- The arguments of a method are nodes between its name and itself. -/
theorem postOrdered_methodCall :
    SyntaxTree.parse "user.has(a)" = .ok (ofTree methodCall) ∧ (ofTree methodCall).PostOrdered :=
  ⟨parse_methodCall, (postOrdered_of_parse parse_methodCall).1⟩

end SyntaxTree

end TargetingRules
