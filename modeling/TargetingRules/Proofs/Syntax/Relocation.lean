import TargetingRules.Syntax.Numbering

/-!
# Expressions at other places

An expression keeps its kinds, its images and its children when the places of its nodes are changed,
and so does the numbering of its nodes. A change of all places is a function on spans: it may move them
or forget them. Two texts that state one expression at different places are compared by two such
functions, one for each text, which must see the span of a node in what they see of its parts.
-/

namespace TargetingRules

/-! ## Spans -/

/-- The change of places that forgets them. -/
def Span.forget (_ : Span) : Span :=
  ⟨0, 0⟩

/-- What is seen of a span that is made of two others depends on what is seen of these alone, in both
texts alike. -/
structure Span.Compatible (f g : Span → Span) : Prop where
  join : ∀ {s t s' t'}, f s = g s' → f t = g t' → f (s.join t) = g (s'.join t')
  upTo : ∀ {s t s' t'}, f s = g s' → f t = g t' → f ⟨s.start, t.start⟩ = g ⟨s'.start, t'.start⟩

namespace Span

variable {f g : Span → Span}

theorem compatible_forget : Compatible forget forget :=
  ⟨fun _ _ => rfl, fun _ _ => rfl⟩

theorem Compatible.symm (compatible : Compatible f g) : Compatible g f where
  join first second := (compatible.join first.symm second.symm).symm
  upTo first second := (compatible.upTo first.symm second.symm).symm

/-- The span that covers some others, of which there is at least one. -/
theorem Compatible.cover (compatible : Compatible f g) {ss ss' : List Span}
    (same : ss.map f = ss'.map g) (nonempty : ss ≠ []) : f (Span.cover ss) = g (Span.cover ss') := by
  have fold (rest rest' : List Span) (others : rest.map f = rest'.map g) :
      ∀ {s s' : Span}, f s = g s' → f (rest.foldl Span.join s) = g (rest'.foldl Span.join s') := by
    induction rest generalizing rest' with
    | nil =>
      intro s s' first
      rw [List.map_nil, eq_comm, List.map_eq_nil_iff] at others
      rw [others]
      exact first
    | cons t rest ih =>
      intro s s' first
      obtain ⟨t', rest', rfl, second, others⟩ := List.map_eq_cons_iff.mp others.symm
      exact ih rest' others.symm (compatible.join first second.symm)
  obtain ⟨s, rest, rfl⟩ := List.exists_cons_of_ne_nil nonempty
  obtain ⟨s', rest', rfl, first, others⟩ := List.map_eq_cons_iff.mp same.symm
  exact fold rest rest' others.symm first.symm

end Span

/-! ## Expressions -/

namespace Tree

variable {f g : Span → Span}

mutual

/-- An expression with its places changed. -/
def relocate (f : Span → Span) : Tree → Tree
  | .node kind image span children => .node kind image (f span) (relocateAll f children)

/-- Expressions with their places changed. -/
def relocateAll (f : Span → Span) : List Tree → List Tree
  | [] => []
  | t :: ts => relocate f t :: relocateAll f ts

end

mutual

theorem relocate_id : (t : Tree) → t.relocate id = t
  | .node _ _ _ children => by simp only [relocate, id_eq, relocateAll_id children]

theorem relocateAll_id : (ts : List Tree) → relocateAll id ts = ts
  | [] => rfl
  | t :: ts => by simp only [relocateAll, relocate_id t, relocateAll_id ts]

end

mutual

theorem height_relocate : (t : Tree) → (t.relocate f).height = t.height
  | .node _ _ _ children => by simp only [relocate, height, heightAll_relocateAll children]

theorem heightAll_relocateAll : (ts : List Tree) → heightAll (relocateAll f ts) = heightAll ts
  | [] => rfl
  | t :: ts => by simp only [relocateAll, heightAll, height_relocate t, heightAll_relocateAll ts]

end

mutual

theorem size_relocate : (t : Tree) → (t.relocate f).size = t.size
  | .node _ _ _ children => by simp only [relocate, size, sizeAll_relocateAll children]

theorem sizeAll_relocateAll : (ts : List Tree) → sizeAll (relocateAll f ts) = sizeAll ts
  | [] => rfl
  | t :: ts => by simp only [relocateAll, sizeAll, size_relocate t, sizeAll_relocateAll ts]

end

section Lists

variable {t t' u u' v v' : Tree}

theorem relocateAll_one (same : t.relocate f = t'.relocate g) :
    relocateAll f [t] = relocateAll g [t'] := by
  simp only [relocateAll, same]

theorem relocateAll_pair (first : t.relocate f = t'.relocate g)
    (second : u.relocate f = u'.relocate g) : relocateAll f [t, u] = relocateAll g [t', u'] := by
  simp only [relocateAll, first, second]

theorem relocateAll_triple (first : t.relocate f = t'.relocate g)
    (second : u.relocate f = u'.relocate g) (third : v.relocate f = v'.relocate g) :
    relocateAll f [t, u, v] = relocateAll g [t', u', v'] := by
  simp only [relocateAll, first, second, third]

end Lists

/-- Expressions that look the same at two places are of one height. -/
theorem heightAll_eq_of_relocateAll {ts us : List Tree}
    (same : relocateAll f ts = relocateAll g us) : heightAll ts = heightAll us := by
  rw [← heightAll_relocateAll (f := f) ts, same, heightAll_relocateAll]

theorem map_span_relocateAll (ts : List Tree) :
    (relocateAll f ts).map span = (ts.map span).map f := by
  induction ts with
  | nil => rfl
  | cons t ts ih =>
    obtain ⟨kind, image, place, children⟩ := t
    simp only [relocateAll, relocate, List.map_cons, span, ih]

theorem span_eq_of_relocate {t u : Tree} (same : t.relocate f = u.relocate g) :
    f t.span = g u.span := by
  obtain ⟨kind, image, place, children⟩ := t
  obtain ⟨kind', image', place', children'⟩ := u
  simp only [relocate, node.injEq] at same
  exact same.2.2.1

end Tree

/-- The span of a node over some expressions, of which there is at least one. -/
theorem Span.Compatible.cover_children {f g : Span → Span} (compatible : Span.Compatible f g)
    {trees trees' : List Tree}
    (same : Tree.relocateAll f trees = Tree.relocateAll g trees') (nonempty : trees ≠ []) :
    f (Span.cover (trees.map Tree.span)) = g (Span.cover (trees'.map Tree.span)) := by
  refine compatible.cover ?_ (mt List.map_eq_nil_iff.mp nonempty)
  rw [← Tree.map_span_relocateAll, same, Tree.map_span_relocateAll]

/-! ## Numbered nodes -/

/-- A node with its place changed. -/
def Node.relocate (f : Span → Span) (node : Node) : Node :=
  { node with span := f node.span }

namespace Tree

variable {f : Span → Span}

theorem rootNumbers_relocateAll (base : Nat) (ts : List Tree) :
    rootNumbers base (relocateAll f ts) = rootNumbers base ts := by
  induction ts generalizing base with
  | nil => rfl
  | cons t ts ih => simp only [relocateAll, rootNumbers, size_relocate, ih]

mutual

theorem numbered_relocate (base : Nat) :
    (t : Tree) → numbered base (t.relocate f) = (numbered base t).map (Node.relocate f)
  | .node kind image place children => by
    simp only [relocate, numbered, numberedAll_relocateAll base children, rootNumbers_relocateAll,
      List.map_append, List.map_cons, List.map_nil, Node.relocate]

theorem numberedAll_relocateAll (base : Nat) :
    (ts : List Tree) → numberedAll base (relocateAll f ts) = (numberedAll base ts).map (Node.relocate f)
  | [] => rfl
  | t :: ts => by
    simp only [relocateAll, numberedAll, numbered_relocate base t, size_relocate,
      numberedAll_relocateAll (base + t.size) ts, List.map_append]

end

end Tree

namespace SyntaxTree

/-- A syntax tree with the places of its nodes changed: the kinds, the images and the numbers of the
children and of the root are the same. -/
def relocate (f : Span → Span) (tree : SyntaxTree) : SyntaxTree where
  nodes := tree.nodes.map (Node.relocate f)
  root := tree.root
  root_lt := by
    rw [Array.size_map]
    exact tree.root_lt
  first := by
    intro id bound child member
    rw [Array.size_map] at bound
    rw [Array.getElem_map] at member
    exact tree.first id bound child member

theorem relocate_ofTree (f : Span → Span) (t : Tree) :
    (ofTree t).relocate f = ofTree (t.relocate f) := by
  have nodes : (t.numbered 0).toArray.map (Node.relocate f) = ((t.relocate f).numbered 0).toArray := by
    rw [Tree.numbered_relocate, List.map_toArray]
  simp only [relocate, ofTree, nodes, Tree.size_relocate]

end SyntaxTree

end TargetingRules
