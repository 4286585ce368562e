import TargetingRules.Syntax.Failure
import TargetingRules.Syntax.Tree

/-!
# Syntax trees as numbered nodes

A syntax tree is an array of nodes that refer to their children by number. A node comes after its
children, so following children ends; the type carries that fact, and traversals need no error
for a missing node. Nodes may be shared and may be out of reach of the root.
-/

namespace TargetingRules

/-- A node of a syntax tree. -/
structure Node where
  /-- What the node is. -/
  kind : Kind
  /-- The source text of leaves and of named nodes. -/
  image : Option String
  /-- Where the node stands in the text. -/
  span : Span
  /-- The numbers of its children in order. -/
  children : List Nat
  deriving DecidableEq, Repr

/-- Whether a node has no children. -/
def Node.isLeaf (node : Node) : Bool :=
  node.children.isEmpty

/-- Every node of an array comes after its children. -/
def ChildrenFirst (nodes : Array Node) : Prop :=
  ∀ (id : Nat) (bound : id < nodes.size), ∀ child ∈ nodes[id].children, child < id

theorem childrenFirst_empty : ChildrenFirst #[] := by
  intro id bound
  exact absurd bound (Nat.not_lt_zero id)

theorem ChildrenFirst.push {nodes : Array Node} (first : ChildrenFirst nodes) {node : Node}
    (below : ∀ child ∈ node.children, child < nodes.size) : ChildrenFirst (nodes.push node) := by
  intro id bound child member
  rw [Array.size_push] at bound
  rcases Nat.lt_or_ge id nodes.size with inside | outside
  · rw [Array.getElem_push_lt inside] at member
    exact first id inside child member
  · obtain rfl : id = nodes.size := by omega
    rw [Array.getElem_push_eq] at member
    exact below child member

/-- A syntax tree: numbered nodes and the number of the root. -/
structure SyntaxTree where
  /-- The nodes by number. -/
  nodes : Array Node
  /-- The number of the root. -/
  root : Nat
  /-- The root is one of the nodes. -/
  root_lt : root < nodes.size
  /-- Children come first. -/
  first : ChildrenFirst nodes

/-- Nodes collected for a syntax tree. -/
structure TreeBuilder where
  /-- The nodes so far. -/
  nodes : Array Node
  /-- Children come first. -/
  first : ChildrenFirst nodes

namespace TreeBuilder

/-- A builder without nodes. -/
def empty : TreeBuilder := ⟨#[], childrenFirst_empty⟩

/-- Add a node whose children are there already, and return its number. -/
def push (builder : TreeBuilder) (node : Node) : Except TreeError (TreeBuilder × Nat) :=
  match search : node.children.find? (builder.nodes.size ≤ ·) with
  | some child => .error (.danglingNode child)
  | none =>
    .ok (⟨builder.nodes.push node, builder.first.push fun child member => by
      have := List.find?_eq_none.mp search child member
      simpa using this⟩, builder.nodes.size)

/-- The node with a number. -/
def node (builder : TreeBuilder) (id : Nat) : Except TreeError Node :=
  match builder.nodes[id]? with
  | some node => .ok node
  | none => .error (.danglingNode id)

/-- The tree with the given root. -/
def finish (builder : TreeBuilder) (root : Nat) : Except TreeError SyntaxTree :=
  if builder.nodes.isEmpty then .error .missingRoot
  else if bound : root < builder.nodes.size then .ok ⟨builder.nodes, root, bound, builder.first⟩
  else .error (.danglingNode root)

end TreeBuilder

namespace SyntaxTree

/-- The number of nodes. -/
def size (tree : SyntaxTree) : Nat :=
  tree.nodes.size

/-- The root. -/
def rootNode (tree : SyntaxTree) : Node :=
  have bound := tree.root_lt
  tree.nodes[tree.root]

/-- The node with a number. -/
def node (tree : SyntaxTree) (id : Nat) : Except TreeError Node :=
  match tree.nodes[id]? with
  | some node => .ok node
  | none => .error (.danglingNode id)

/-- Visit the nodes that a node leads to in pre-order, a shared node once for each way to it. -/
def walkFrom {m : Type → Type} [Monad m] (tree : SyntaxTree) (visit : Node → m Unit) (id : Nat)
    (bound : id < tree.nodes.size) : m Unit := do
  visit tree.nodes[id]
  tree.nodes[id].children.attach.forM fun ⟨child, member⟩ =>
    have earlier : child < id := tree.first id bound child member
    tree.walkFrom visit child (Nat.lt_trans earlier bound)
termination_by id

/-- Visit every node that the root leads to in pre-order. -/
def walk {m : Type → Type} [Monad m] (tree : SyntaxTree) (visit : Node → m Unit) : m Unit :=
  tree.walkFrom visit tree.root tree.root_lt

/-- The first node in pre-order with a property. -/
def find? (tree : SyntaxTree) (wanted : Node → Bool) : Option Node :=
  let search : Except Node Unit := tree.walk fun node =>
    if wanted node then .error node else .ok ()
  match search with
  | .error node => some node
  | .ok () => none

/-- The nodes without children in pre-order. -/
def leaves (tree : SyntaxTree) : List Node :=
  let collect : StateM (List Node) Unit := tree.walk fun node =>
    if node.isLeaf then modify (node :: ·) else pure ()
  (collect.run []).2.reverse

/-- The expression that a node stands for. -/
def unfoldFrom (tree : SyntaxTree) (id : Nat) (bound : id < tree.nodes.size) : Tree :=
  let node := tree.nodes[id]
  .node node.kind node.image node.span <| node.children.attach.map fun ⟨child, member⟩ =>
    have earlier : child < id := tree.first id bound child member
    tree.unfoldFrom child (Nat.lt_trans earlier bound)
termination_by id

/-- The expression that a syntax tree stands for. -/
def unfold (tree : SyntaxTree) : Tree :=
  tree.unfoldFrom tree.root tree.root_lt

end SyntaxTree

end TargetingRules
