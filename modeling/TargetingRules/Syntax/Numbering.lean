import TargetingRules.Syntax.Arena

/-!
# Numbering the nodes of an expression

The nodes of an expression are numbered in post-order: the children of a node from left to right,
then the node. The root comes last and the nodes of a subtree have consecutive numbers.
-/

namespace TargetingRules

namespace Tree

/-- The numbers of the roots of consecutive trees whose nodes are numbered from `base` on. -/
def rootNumbers (base : Nat) : List Tree → List Nat
  | [] => []
  | t :: ts => (base + t.size - 1) :: rootNumbers (base + t.size) ts

mutual

/-- The nodes of a tree in post-order, with numbers from `base` on. -/
def numbered (base : Nat) : Tree → List Node
  | .node kind image span children =>
    numberedAll base children ++ [⟨kind, image, span, rootNumbers base children⟩]

/-- The nodes of consecutive trees in post-order, with numbers from `base` on. -/
def numberedAll (base : Nat) : List Tree → List Node
  | [] => []
  | t :: ts => numbered base t ++ numberedAll (base + t.size) ts

end

mutual

@[simp] theorem length_numbered (base : Nat) (t : Tree) : (numbered base t).length = t.size := by
  match t with
  | .node kind image span children => simp [numbered, size, length_numberedAll base children]

@[simp] theorem length_numberedAll (base : Nat) (ts : List Tree) :
    (numberedAll base ts).length = sizeAll ts := by
  match ts with
  | [] => simp [numberedAll, sizeAll]
  | t :: ts =>
    simp [numberedAll, sizeAll, length_numbered base t, length_numberedAll (base + t.size) ts]

end

theorem lt_of_mem_rootNumbers {base id : Nat} {ts : List Tree}
    (member : id ∈ rootNumbers base ts) : id < base + sizeAll ts := by
  induction ts generalizing base with
  | nil => simp [rootNumbers] at member
  | cons t ts ih =>
    have positive := t.size_pos
    simp only [rootNumbers, List.mem_cons] at member
    simp only [sizeAll]
    rcases member with rfl | member
    · omega
    · have := ih member
      omega

mutual

/-- In the numbering from `base` on, the children of a node have smaller numbers. -/
theorem child_lt_of_numbered (base : Nat) (t : Tree) (k : Nat)
    (bound : k < (numbered base t).length) :
    ∀ child ∈ (numbered base t)[k].children, child < base + k := by
  match t with
  | .node kind image span children =>
    intro child member
    simp only [numbered] at member
    rcases Nat.lt_or_ge k (sizeAll children) with inside | outside
    · rw [List.getElem_append_left (by simpa using inside)] at member
      exact child_lt_of_numberedAll base children k (by simpa using inside) child member
    · rw [List.getElem_append_right (by simpa using outside)] at member
      simp only [List.getElem_singleton] at member
      have := lt_of_mem_rootNumbers member
      omega

/-- The same for consecutive trees. -/
theorem child_lt_of_numberedAll (base : Nat) (ts : List Tree) (k : Nat)
    (bound : k < (numberedAll base ts).length) :
    ∀ child ∈ (numberedAll base ts)[k].children, child < base + k := by
  match ts with
  | [] => simp [numberedAll] at bound
  | t :: ts =>
    intro child member
    simp only [numberedAll] at member
    rcases Nat.lt_or_ge k t.size with inside | outside
    · rw [List.getElem_append_left (by simpa using inside)] at member
      exact child_lt_of_numbered base t k (by simpa using inside) child member
    · rw [List.getElem_append_right (by simpa using outside)] at member
      have := child_lt_of_numberedAll (base + t.size) ts (k - (numbered base t).length)
        (by simp [sizeAll] at bound ⊢; omega) child member
      simp only [length_numbered] at this
      omega

end

end Tree

/-- The syntax tree of an expression. -/
def SyntaxTree.ofTree (t : Tree) : SyntaxTree where
  nodes := (t.numbered 0).toArray
  root := t.size - 1
  root_lt := by
    have := t.size_pos
    simp only [List.size_toArray, Tree.length_numbered]
    omega
  first := by
    intro id bound child member
    have := t.child_lt_of_numbered 0 id (by simpa using bound) child (by simpa using member)
    omega

end TargetingRules
