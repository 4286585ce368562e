import TargetingRules.Proofs.Syntax.Printing
import TargetingRules.Proofs.Syntax.Unfolding

/-!
# The shape of derived expressions

What the grammar derives is an expression of the language, over the names and literals among the
tokens, and its atoms stand in the order of the tokens. In an expression of the language every atom is
a leaf.
-/

namespace TargetingRules

/-! ## Atoms -/

/-- Whether nodes of a kind are made of one token. -/
def Kind.isAtom : Kind → Bool
  | .identifier | .literal _ | .member => true
  | _ => false

/-- A text and its place. -/
structure Atom where
  /-- The text, if there is one. -/
  image : Option String
  /-- The place. -/
  span : Span

/-- A token as an atom. -/
def Token.atom (token : Token) : Atom :=
  ⟨some token.text, token.span⟩

namespace Tree

/-- The root as an atom. -/
def atom (t : Tree) : Atom :=
  ⟨t.image, t.span⟩

/-- The atoms of an expression in pre-order. -/
def atoms (t : Tree) : List Atom :=
  (t.preorder.filter fun s => s.kind.isAtom).map Tree.atom

/-- The atoms of expressions in order. -/
def atomsAll (ts : List Tree) : List Atom :=
  ((preorderAll ts).filter fun s => s.kind.isAtom).map Tree.atom

@[simp] theorem atomsAll_nil : atomsAll [] = [] := rfl

@[simp] theorem atomsAll_cons (t : Tree) (ts : List Tree) :
    atomsAll (t :: ts) = t.atoms ++ atomsAll ts := by
  simp only [atomsAll, atoms, preorderAll, List.filter_append, List.map_append]

theorem atoms_node {kind : Kind} {image : Option String} {span : Span} {children : List Tree}
    (other : kind.isAtom = false) :
    (node kind image span children).atoms = atomsAll children := by
  simp only [atoms, atomsAll, preorder, List.filter_cons, Tree.kind, other,
    Bool.false_eq_true, ↓reduceIte]

end Tree

namespace Grammar

/-- Some tokens are read from the front, and the atoms of an expression are among them. -/
def Consumes (ts : List Token) (atoms : List Atom) (rest : List Token) : Prop :=
  ∃ front, ts = front ++ rest ∧ atoms.Sublist (front.map Token.atom)

section Consumes

variable {ts middle rest : List Token} {xs ys : List Atom} {token : Token}

theorem Consumes.append (first : Consumes ts xs middle) (second : Consumes middle ys rest) :
    Consumes ts (xs ++ ys) rest := by
  obtain ⟨front, rfl, sub⟩ := first
  obtain ⟨front', rfl, sub'⟩ := second
  refine ⟨front ++ front', by rw [List.append_assoc], ?_⟩
  rw [List.map_append]
  exact sub.append sub'

theorem Consumes.skip (token : Token) (rest : List Token) : Consumes (token :: rest) [] rest :=
  ⟨[token], rfl, List.nil_sublist _⟩

theorem Consumes.take (token : Token) (rest : List Token) :
    Consumes (token :: rest) [token.atom] rest :=
  ⟨[token], rfl, List.Sublist.refl _⟩

/-- A token after what was read is read as well. -/
theorem Consumes.then (first : Consumes ts xs (token :: rest)) : Consumes ts xs rest := by
  have both := first.append (.skip token rest)
  rwa [List.append_nil] at both

/-- A token before what was read is read as well. -/
theorem Consumes.after (token : Token) (second : Consumes ts xs rest) :
    Consumes (token :: ts) xs rest :=
  (Consumes.skip token ts).append second

theorem Consumes.subset (consumes : Consumes ts xs rest) : rest ⊆ ts := by
  obtain ⟨front, rfl, _⟩ := consumes
  exact List.subset_append_right front rest

end Consumes

theorem Names.consumes {ts names rest : List Token} (listed : Names ts names rest) :
    Consumes ts (Tree.atomsAll (names.map (leaf .identifier))) rest := by
  induction listed with
  | @one name rest isName => exact .take name rest
  | @more name comma ts names rest isName isComma others ih =>
    rw [List.map_cons, Tree.atomsAll_cons]
    exact (Consumes.take name _).append (ih.after comma)

theorem Parameters.consumes {ts : List Token} {params : Tree} {rest : List Token}
    (head : Parameters ts params rest) : Consumes ts params.atoms rest := by
  cases head with
  | @name name arrow rest isName isArrow => exact (Consumes.take name _).then
  | @none opening close arrow rest isOpen isClose isArrow =>
    exact ((Consumes.skip opening _).then).then
  | names isOpen listed isClose isArrow =>
    rw [spanning, Tree.atoms_node rfl]
    exact ((listed.consumes.then).then).after _

theorem isAtom_of_mem_flatOperators {ℓ : Level} {mark : Mark} {kind : Kind}
    (listed : (mark, kind) ∈ ℓ.flatOperators) : kind.isAtom = false := by
  rcases kind_of_mem_flatOperators listed with rfl | rfl <;> rfl

theorem isAtom_of_mem_leftOperators {ℓ : Level} {mark : Mark} {kind : Kind}
    (listed : (mark, kind) ∈ ℓ.leftOperators) : kind.isAtom = false := by
  rcases kind_of_mem_leftOperators listed with ⟨op, rfl⟩ | ⟨op, rfl⟩ | rfl <;> rfl

theorem isAtom_of_mem_prefixOperators {mark : Mark} {kind : Kind}
    (listed : (mark, kind) ∈ prefixOperators) : kind.isAtom = false := by
  rcases kind_of_mem_prefixOperators listed with rfl | rfl | rfl <;> rfl

theorem atoms_pair {kind : Kind} {image : Option String} {span : Span} (first second : Tree)
    (other : kind.isAtom = false) :
    (Tree.node kind image span [first, second]).atoms =
      first.atoms ++ second.atoms := by
  simp only [Tree.atoms_node other, Tree.atomsAll_cons, Tree.atomsAll_nil,
    List.append_nil]

theorem atoms_triple {kind : Kind} {image : Option String} {span : Span}
    (first second third : Tree) (other : kind.isAtom = false) :
    (Tree.node kind image span [first, second, third]).atoms =
      first.atoms ++ (second.atoms ++ third.atoms) := by
  simp only [Tree.atoms_node other, Tree.atomsAll_cons, Tree.atomsAll_nil,
    List.append_nil]

mutual

/-- The atoms of an expression are tokens of it, in their order. -/
theorem Derives.consumes {n : Nat} {ℓ : Level} {ts : List Token} {t : Tree} {rest : List Token} :
    Derives n ℓ ts t rest → Consumes ts t.atoms rest
  | .tighter inner => inner.consumes
  | .assign left _ right => by
    rw [spanning, atoms_pair _ _ rfl]
    exact left.consumes.then.append right.consumes
  | .lambda head inner => by
    rw [spanning, atoms_pair _ _ rfl]
    exact head.consumes.append inner.consumes
  | .ternary first _ second _ third => by
    rw [spanning, atoms_triple _ _ _ rfl]
    exact first.consumes.then.append (second.consumes.then.append third.consumes)
  | .flat listed operands _ => by
    rw [spanning, Tree.atoms_node (isAtom_of_mem_flatOperators listed)]
    exact operands.consumes
  | .binary listed first _ second => by
    rw [spanning, atoms_pair _ _ (isAtom_of_mem_leftOperators listed)]
    exact first.consumes.then.append second.consumes
  | .prefixed listed _ inner => by
    rw [Tree.atoms_node (isAtom_of_mem_prefixOperators listed), Tree.atomsAll_cons,
      Tree.atomsAll_nil, List.append_nil]
    exact inner.consumes.after _
  | .property inner _ _ => by
    rw [spanning, atoms_pair _ _ rfl]
    exact inner.consumes.then.append (.take _ _)
  | .method inner _ _ _ list => by
    rw [spanning, atoms_triple _ _ _ rfl, Tree.atoms_node rfl]
    exact inner.consumes.then.append ((Consumes.take _ _).append (list.consumes.after _))
  | .index inner _ nested _ => by
    rw [atoms_pair _ _ rfl]
    exact inner.consumes.then.append nested.consumes.then
  | .literal _ => Consumes.take _ _
  | .identifier _ _ => Consumes.take _ _
  | .call _ _ list => by
    rw [Tree.atoms_node rfl]
    exact (list.consumes.after _).after _
  | .qualifiedCall _ _ list => by
    rw [Tree.atoms_node rfl]
    exact (((list.consumes.after _).after _).after _).after _
  | .parentheses _ inner _ => (inner.consumes.then).after _
  | .list _ list => by
    rw [Tree.atoms_node rfl]
    exact list.consumes.after _

theorem Series.consumes {n : Nat} {ℓ : Level} {mark : Mark} {ts : List Token} {trees : List Tree}
    {rest : List Token} : Series n ℓ mark ts trees rest → Consumes ts (Tree.atomsAll trees) rest
  | .one last => by
    rw [Tree.atomsAll_cons, Tree.atomsAll_nil, List.append_nil]
    exact last.consumes
  | .more first _ others => by
    rw [Tree.atomsAll_cons]
    exact first.consumes.then.append others.consumes

theorem Items.consumes {n : Nat} {mark : Mark} {ts : List Token} {trees : List Tree}
    {close : Token} {rest : List Token} :
    Items n mark ts trees close rest → Consumes ts (Tree.atomsAll trees) rest
  | .none _ => Consumes.skip _ _
  | .some listed _ => listed.consumes.then

end

/-! ## Shapes -/

/-- The names and the literals among some tokens are as expressions want them. -/
structure Supplies (P : String → Prop) (L : LiteralKind → String → Prop) (ts : List Token) :
    Prop where
  names : ∀ token ∈ ts, IsName token → P token.text
  literals : ∀ token ∈ ts, ∀ kind, literal? token.kind = some kind → L kind token.text

section Shapes

variable {P : String → Prop} {L : LiteralKind → String → Prop}

theorem Supplies.mono {ts rest : List Token} (supplies : Supplies P L ts) (fewer : rest ⊆ ts) :
    Supplies P L rest :=
  ⟨fun token member => supplies.names token (fewer member),
    fun token member => supplies.literals token (fewer member)⟩

theorem Supplies.tail {token : Token} {ts : List Token} (supplies : Supplies P L (token :: ts)) :
    Supplies P L ts :=
  supplies.mono (List.subset_cons_self token ts)

theorem Supplies.name {token : Token} {ts : List Token} (supplies : Supplies P L (token :: ts))
    (isName : IsName token) : P token.text :=
  supplies.names token List.mem_cons_self isName

theorem Names.named {ts names rest : List Token} (listed : Names ts names rest)
    (supplies : Supplies P L ts) : ∀ name ∈ names, P name.text := by
  induction listed with
  | one isName =>
    simp only [List.forall_mem_singleton]
    exact supplies.name isName
  | more isName isComma others ih =>
    simp only [List.forall_mem_cons]
    exact ⟨supplies.name isName, ih supplies.tail.tail⟩

theorem Parameters.formed {ts : List Token} {params : Tree} {rest : List Token}
    (head : Parameters ts params rest) (supplies : Supplies P L ts) :
    ∃ span trees, params = .node .lambdaParameters .none span trees ∧ ∀ param ∈ trees,
      ∃ name span, P name ∧ param = .node .identifier (some name) span [] := by
  cases head with
  | name isName isArrow =>
    refine ⟨_, _, rfl, ?_⟩
    simp only [List.forall_mem_singleton]
    exact ⟨_, _, supplies.name isName, rfl⟩
  | none isOpen isClose isArrow => exact ⟨_, _, rfl, by simp⟩
  | names isOpen listed isClose isArrow =>
    refine ⟨_, _, rfl, fun param member => ?_⟩
    obtain ⟨name, inside, rfl⟩ := List.mem_map.mp member
    exact ⟨_, _, listed.named supplies.tail name inside, rfl⟩

mutual

/-- What the grammar derives is an expression of the language. -/
theorem Derives.formed {n : Nat} {ℓ : Level} {ts : List Token} {t : Tree} {rest : List Token} :
    Derives n ℓ ts t rest → Supplies P L ts → Formed P L t
  | .tighter inner, supplies => inner.formed supplies
  | .assign left _ right, supplies =>
    .assign (left.formed supplies) (right.formed (supplies.mono left.consumes.then.subset))
  | .lambda head inner, supplies => by
    have body := inner.formed (supplies.mono head.consumes.subset)
    obtain ⟨span, params, rfl, names⟩ := head.formed supplies
    exact .arrow names body
  | .ternary first _ second _ third, supplies => by
    have supplies' := supplies.mono first.consumes.then.subset
    have supplies'' := supplies'.mono second.consumes.then.subset
    exact .ternary (first.formed supplies) (second.formed supplies') (third.formed supplies'')
  | .flat listed operands several, supplies => .flat listed several (operands.formed supplies)
  | .binary listed first _ second, supplies =>
    .binary listed (first.formed supplies)
      (second.formed (supplies.mono first.consumes.then.subset))
  | .prefixed listed _ inner, supplies => .prefixed listed (inner.formed supplies.tail)
  | .property inner _ isName, supplies =>
    .property (inner.formed supplies) ((supplies.mono inner.consumes.then.subset).name isName)
  | .method inner _ isName _ list, supplies => by
    have supplies' := supplies.mono inner.consumes.then.subset
    exact .methodCall (inner.formed supplies) (supplies'.name isName)
      (list.formed supplies'.tail.tail)
  | .index inner _ nested _, supplies =>
    .index (inner.formed supplies) (nested.formed (supplies.mono inner.consumes.then.subset))
  | .literal isLiteral, supplies =>
    .literal (supplies.literals _ List.mem_cons_self _ isLiteral)
  | .identifier isName _, supplies => .identifier (supplies.name isName)
  | .call isName _ list, supplies =>
    .function (.inl (supplies.name isName)) (list.formed supplies.tail.tail)
  | .qualifiedCall isScope qualified list, supplies => by
    have isName := supplies.tail.tail.name qualified.2.1
    exact .function (.inr ⟨_, _, supplies.name isScope, isName, rfl⟩)
      (list.formed supplies.tail.tail.tail.tail)
  | .parentheses _ inner _, supplies => inner.formed supplies.tail
  | .list _ list, supplies => .list (list.formed supplies.tail)

theorem Series.formed {n : Nat} {ℓ : Level} {mark : Mark} {ts : List Token} {trees : List Tree}
    {rest : List Token} : Series n ℓ mark ts trees rest → Supplies P L ts →
      ∀ t ∈ trees, Formed P L t
  | .one last, supplies => by
    simp only [List.forall_mem_singleton]
    exact last.formed supplies
  | .more first _ others, supplies => by
    simp only [List.forall_mem_cons]
    exact ⟨first.formed supplies, others.formed (supplies.mono first.consumes.then.subset)⟩

theorem Items.formed {n : Nat} {mark : Mark} {ts : List Token} {trees : List Tree}
    {close : Token} {rest : List Token} :
    Items n mark ts trees close rest → Supplies P L ts → ∀ t ∈ trees, Formed P L t
  | .none _, _ => by simp
  | .some listed _, supplies => listed.formed supplies

end

end Shapes

end Grammar

/-! ## Nodes -/

/-- Whether nodes of a kind stand for an operation on their children. -/
def Kind.isOperation (kind : Kind) : Bool :=
  !kind.isAtom && kind != .lambdaParameters

theorem Kind.isOperation_iff {kind : Kind} :
    kind.isOperation = true ↔ kind.isAtom = false ∧ kind ≠ .lambdaParameters := by
  simp only [isOperation, Bool.and_eq_true, Bool.not_eq_true', bne_iff_ne]

/-- The sorts of nodes that an expression of the language is made of: atoms, which have no children;
operations on any children, of which only function calls have an image; and lambdas. -/
theorem Formed.node_induction {P : String → Prop} {L : LiteralKind → String → Prop}
    {Q : Tree → Prop}
    (atom : ∀ kind image span, kind.isAtom = true → Q (.node kind image span []))
    (operation : ∀ kind image span children, kind.isOperation = true →
      (kind = .function ↔ image.isSome = true) → (∀ t ∈ children, Q t) →
        Q (.node kind image span children))
    (lambda : ∀ span listSpan params body, (∀ t ∈ params, Q t) → Q body →
      Q (.node .arrow none span [.node .lambdaParameters none listSpan params, body]))
    {t : Tree} (formed : Formed P L t) : Q t := by
  have unnamed {kind : Kind} {span : Span} {children : List Tree}
      (isOperation : kind.isOperation = true) (noCall : kind ≠ .function)
      (all : ∀ t ∈ children, Q t) : Q (.node kind none span children) :=
    operation _ _ _ _ isOperation (by simp [noCall]) all
  have pair {kind : Kind} {span : Span} {first second : Tree} (isOperation : kind.isOperation = true)
      (noCall : kind ≠ .function) (left : Q first) (right : Q second) :
      Q (.node kind none span [first, second]) :=
    unnamed isOperation noCall (by simp [left, right])
  have triple {kind : Kind} {span : Span} {first second third : Tree}
      (isOperation : kind.isOperation = true) (noCall : kind ≠ .function) (left : Q first)
      (middle : Q second) (right : Q third) : Q (.node kind none span [first, second, third]) :=
    unnamed isOperation noCall (by simp [left, middle, right])
  induction formed with
  | identifier isName => exact atom _ _ _ rfl
  | literal isLiteral => exact atom _ _ _ rfl
  | function isCallee formed ih => exact operation _ _ _ _ rfl (by simp) ih
  | list formed ih => exact unnamed rfl nofun ih
  | flat listed several formed ih =>
    rcases kind_of_mem_flatOperators listed with rfl | rfl
    · exact unnamed rfl nofun ih
    · exact unnamed rfl nofun ih
  | binary listed first second left right =>
    rcases kind_of_mem_leftOperators listed with ⟨op, rfl⟩ | ⟨op, rfl⟩ | rfl
    · exact pair rfl nofun left right
    · exact pair rfl nofun left right
    · exact pair rfl nofun left right
  | prefixed listed inner ih =>
    have only : ∀ t ∈ [_], Q t := List.forall_mem_singleton.mpr ih
    rcases kind_of_mem_prefixOperators listed with rfl | rfl | rfl
    · exact unnamed rfl nofun only
    · exact unnamed rfl nofun only
    · exact unnamed rfl nofun only
  | ternary first second third left middle right => exact triple rfl nofun left middle right
  | property inner isName ih => exact pair rfl nofun ih (atom _ _ _ rfl)
  | methodCall inner isName formed ih ihs =>
    exact triple rfl nofun ih (atom _ _ _ rfl) (unnamed rfl nofun ihs)
  | index first second left right => exact pair rfl nofun left right
  | assign first second left right => exact pair rfl nofun left right
  | arrow names inner ih =>
    refine lambda _ _ _ _ (fun param member => ?_) ih
    obtain ⟨name, span, _, rfl⟩ := names param member
    exact atom _ _ _ rfl

theorem Tree.mem_preorder_node {kind : Kind} {image : Option String} {span : Span}
    {children : List Tree} {s : Tree} : s ∈ (node kind image span children).preorder ↔
      s = node kind image span children ∨ ∃ t ∈ children, s ∈ t.preorder := by
  rw [preorder, preorderAll_eq, List.mem_cons, ← List.flatMap_def, List.mem_flatMap]

/-- What holds of atoms, of operations and of lists of parameters holds of all nodes of an expression
of the language. -/
theorem Formed.forall_nodes {P : String → Prop} {L : LiteralKind → String → Prop} {Q : Tree → Prop}
    (atom : ∀ kind image span, kind.isAtom = true → Q (.node kind image span []))
    (operation : ∀ kind image span children, kind.isOperation = true →
      (kind = .function ↔ image.isSome = true) → Q (.node kind image span children))
    (parameters : ∀ span params, Q (.node .lambdaParameters none span params))
    {t : Tree} (formed : Formed P L t) : ∀ s ∈ t.preorder, Q s := by
  have node {kind : Kind} {image : Option String} {span : Span} {children : List Tree}
      (root : Q (.node kind image span children)) (below : ∀ t ∈ children, ∀ s ∈ t.preorder, Q s) :
      ∀ s ∈ (Tree.node kind image span children).preorder, Q s := by
    intro s inside
    rcases Tree.mem_preorder_node.mp inside with rfl | ⟨t, member, inside⟩
    · exact root
    · exact below t member s inside
  refine formed.node_induction (Q := fun t => ∀ s ∈ t.preorder, Q s) ?atom ?operation ?lambda
  case atom => exact fun kind image span isAtom => node (atom _ _ _ isAtom) (by simp)
  case operation =>
    intro kind image span children isOperation shape below
    exact node (operation _ _ _ _ isOperation shape) below
  case lambda =>
    intro span listSpan params body names inner
    refine node (operation _ _ _ _ rfl (by simp)) ?_
    simp only [List.forall_mem_cons]
    exact ⟨node (parameters _ _) names, inner, by simp⟩

/-! ## Leaves -/

/-- The atoms of an expression have no children. -/
def Tree.AtomsAreLeaves (t : Tree) : Prop :=
  ∀ s ∈ t.preorder, s.kind.isAtom = true → s.children = []

section Leaves

variable {P : String → Prop} {L : LiteralKind → String → Prop} {t : Tree}

/-- The variables, literals and members of an expression of the language are leaves of it. -/
theorem Formed.atomsAreLeaves (formed : Formed P L t) : t.AtomsAreLeaves := by
  refine formed.forall_nodes (Q := fun s => s.kind.isAtom = true → s.children = []) ?atom ?operation
    ?parameters
  case atom => exact fun kind image span _ _ => rfl
  case operation =>
    intro kind image span children isOperation _ isAtom
    rw [Tree.kind, (Kind.isOperation_iff.mp isOperation).1] at isAtom
    cases isAtom
  case parameters =>
    intro span params isAtom
    cases isAtom

/-- Only atoms and calls of functions have an image. -/
theorem Formed.written_of_image (formed : Formed P L t) :
    ∀ s ∈ t.preorder, s.image = none ∨ s.kind.isAtom = true ∨ s.kind = .function := by
  refine formed.forall_nodes (Q := fun s => s.image = none ∨ s.kind.isAtom = true ∨ s.kind = .function)
    ?atom ?operation ?parameters
  case atom => exact fun kind image span isAtom => .inr (.inl isAtom)
  case operation =>
    intro kind image span children _ shape
    cases image with
    | none => exact .inl rfl
    | some name => exact .inr (.inr (shape.mpr rfl))
  case parameters => exact fun span params => .inl rfl

/-- A call of a function has an image. -/
theorem Formed.exists_image_of_function (formed : Formed P L t) :
    ∀ s ∈ t.preorder, s.kind = .function → ∃ name, s.image = some name := by
  refine formed.forall_nodes (Q := fun s => s.kind = .function → ∃ name, s.image = some name) ?atom
    ?operation ?parameters
  case atom =>
    rintro kind image span isAtom rfl
    cases isAtom
  case operation =>
    intro kind image span children _ shape isCall
    exact Option.isSome_iff_exists.mp (shape.mp isCall)
  case parameters =>
    intro span params isCall
    cases isCall

end Leaves

end TargetingRules
