import TargetingRules.Proofs.Syntax.Unfolding
import TargetingRules.Validation.Validator

/-!
# What the scans of a validator find

A validator looks through the nodes of a syntax tree for unknown functions, for constructs that rules
must not use, for variables without a value and for leaves that name absent variables. Each scan is
said here of the expression that the tree stands for: it looks through a list that the expression has
in pre-order.
-/

namespace TargetingRules

namespace Label

/-- The name of the function that a node calls. -/
def callee? (label : Label) : Option String :=
  if label.kind = .function then some (label.image.getD "") else none

/-- The construct that a node stands for, if rules must not use it. -/
def construct? (label : Label) : Option Construct :=
  label.kind.construct?

/-- The variable that a node is. -/
def identifier? (label : Label) : Option String :=
  if label.kind.isIdentifier then label.image else none

/-- The image of a node that is a leaf. -/
def leafImage? (label : Label) : Option String :=
  if label.isLeaf then label.image else none

end Label

namespace Tree

/-- The functions that an expression calls, in pre-order. -/
def callees (t : Tree) : List String :=
  t.preorder.filterMap fun s => s.label.callee?

/-- The constructs of an expression that rules must not use, in pre-order. -/
def constructs (t : Tree) : List Construct :=
  t.preorder.filterMap fun s => s.label.construct?

/-- The variables of an expression, in pre-order. -/
def identifiers (t : Tree) : List String :=
  t.preorder.filterMap fun s => s.label.identifier?

/-- The images of the leaves of an expression, in pre-order. -/
def leafImages (t : Tree) : List String :=
  t.preorder.filterMap fun s => s.label.leafImage?

variable {t s : Tree} {name : String}

theorem identifier?_eq_some_iff :
    s.label.identifier? = some name ↔ s.kind = .identifier ∧ s.image = some name := by
  have same : s.kind.isIdentifier = true ↔ s.kind = .identifier := by
    cases s.kind <;> simp [Kind.isIdentifier]
  simp only [Label.identifier?, Tree.label, Option.ite_none_right_eq_some, same]

theorem mem_identifiers (inside : s ∈ t.preorder) (isVariable : s.kind = .identifier)
    (named : s.image = some name) : name ∈ t.identifiers :=
  List.mem_filterMap.mpr ⟨s, inside, identifier?_eq_some_iff.mpr ⟨isVariable, named⟩⟩

theorem mem_callees (inside : s ∈ t.preorder) (isCall : s.kind = .function) :
    s.image.getD "" ∈ t.callees :=
  List.mem_filterMap.mpr ⟨s, inside, if_pos isCall⟩

end Tree

namespace SyntaxTree

variable {tree : SyntaxTree}

/-- A traversal meets in the nodes what the expression has in its subexpressions. -/
theorem filterMap_visited {α : Type} (tree : SyntaxTree) (read : Label → Option α) :
    tree.visited.filterMap (fun node => read node.label) =
      tree.unfold.preorder.filterMap fun s => read s.label := by
  have same := congrArg (List.filterMap read) (labels_visited tree)
  rw [List.filterMap_map, List.filterMap_map] at same
  exact same

/-- What is read off the first fitting node is the first fitting entry of a list that the expression
has in pre-order. -/
theorem find?_bind {α : Type} {wanted : Node → Bool} {out : Node → Option α}
    (read : Label → Option α) (p : α → Bool)
    (fits : ∀ node, wanted node = (read node.label).any p)
    (same : ∀ node, wanted node = true → out node = read node.label) :
    (tree.find? wanted).bind out = (tree.unfold.preorder.filterMap fun s => read s.label).find? p := by
  rw [find?_eq, ← filterMap_visited, List.find?_filterMap]
  simp only [← fits]
  refine Option.bind_congr fun node found => ?_
  exact same node (List.find?_some found)

/-- The unknown function is the first one among those that the expression calls. -/
theorem unknownFunction?_eq (tree : SyntaxTree) (functions : FunctionTable) :
    tree.unknownFunction? functions =
      tree.unfold.callees.find? fun name => !functions.contains name := by
  rw [unknownFunction?, Option.map_eq_bind]
  refine find?_bind Label.callee? _ (fun node => ?_) fun node wanted => ?_
  · by_cases isCall : node.kind = .function <;> simp [Label.callee?, Node.label, isCall]
  · simp only [Bool.and_eq_true, beq_iff_eq] at wanted
    simp [Label.callee?, Node.label, wanted.1]

/-- The disallowed construct is the first one of the expression. -/
theorem disallowed?_eq (tree : SyntaxTree) : tree.disallowed? = tree.unfold.constructs.head? := by
  have first : ∀ xs : List Construct, xs.find? (fun _ => true) = xs.head? := by
    intro xs
    cases xs <;> rfl
  rw [disallowed?, ← first]
  refine find?_bind Label.construct? _ (fun node => ?_) fun node _ => rfl
  simp only [Label.construct?, Node.label]
  cases node.kind.construct? <;> rfl

/-- The undefined variable is the first one that is neither defined nor absent. -/
theorem undefined?_eq (tree : SyntaxTree) (context : Context) :
    tree.undefined? context = tree.unfold.identifiers.find? fun name =>
      !context.isDefined name && !context.absent.contains name := by
  refine find?_bind Label.identifier? _ (fun node => ?_) fun node wanted => ?_
  · cases isVariable : node.kind.isIdentifier <;> simp [Label.identifier?, Node.label, isVariable]
  · simp only [Bool.and_eq_true] at wanted
    simp [Label.identifier?, Node.label, wanted.1]

/-- A tree touches absent variables just if some leaf of the expression names one. -/
theorem touches_eq (tree : SyntaxTree) (absent : NameSet) :
    tree.touches absent = tree.unfold.leafImages.any absent.contains := by
  rw [touches, leaves_eq, Tree.leafImages, ← filterMap_visited]
  induction tree.visited with
  | nil => rfl
  | cons node nodes ih =>
    have read : node.label.leafImage? = if node.isLeaf then node.image else none := rfl
    rw [List.filter_cons, List.filterMap_cons, read]
    cases node.isLeaf with
    | false => exact ih
    | true =>
      simp only [↓reduceIte, List.any_cons, ih]
      cases node.image <;> simp

end SyntaxTree

end TargetingRules
