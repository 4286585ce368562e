import TargetingRules.Syntax.Kind
import TargetingRules.Syntax.Span

/-!
# Expression trees

An expression as the grammar derives it: a node with its kind, the image that names it, its place
in the text, and its children in order. Heights bound the nesting, and a traversal in pre-order
meets the nodes in the order of the text.
-/

namespace TargetingRules

/-- An expression. -/
inductive Tree where
  /-- A node over its children. -/
  | node (kind : Kind) (image : Option String) (span : Span) (children : List Tree)

instance : Inhabited Tree := ⟨.node .list none ⟨0, 0⟩ []⟩

namespace Tree

/-- The kind of the root. -/
def kind : Tree → Kind
  | .node kind _ _ _ => kind

/-- The image of the root. -/
def image : Tree → Option String
  | .node _ image _ _ => image

/-- The place of the root. -/
def span : Tree → Span
  | .node _ _ span _ => span

/-- The children of the root. -/
def children : Tree → List Tree
  | .node _ _ _ children => children

mutual

/-- The number of levels of a tree. -/
def height : Tree → Nat
  | .node _ _ _ children => 1 + heightAll children

/-- The largest height in a list of trees. -/
def heightAll : List Tree → Nat
  | [] => 0
  | t :: ts => max (height t) (heightAll ts)

end

mutual

/-- The number of nodes of a tree. -/
def size : Tree → Nat
  | .node _ _ _ children => sizeAll children + 1

/-- The number of nodes of a list of trees. -/
def sizeAll : List Tree → Nat
  | [] => 0
  | t :: ts => size t + sizeAll ts

end

mutual

/-- The subtrees of a tree, each before its own children and the children in order. -/
def preorder : Tree → List Tree
  | .node kind image span children => .node kind image span children :: preorderAll children

/-- The subtrees of a list of trees in order. -/
def preorderAll : List Tree → List Tree
  | [] => []
  | t :: ts => preorder t ++ preorderAll ts

end

theorem size_pos (t : Tree) : 0 < t.size := by
  cases t
  simp [size]

end Tree

end TargetingRules
