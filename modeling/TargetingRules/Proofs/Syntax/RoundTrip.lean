import TargetingRules.Proofs.Syntax.Parsing
import TargetingRules.Proofs.Syntax.Spelling

/-!
# Reading undoes printing

The tokens of a printed expression derive an expression with the same outline, at the level that was
asked for. Every level of the expression takes two levels of nesting at most: one for its node and
one for parentheses around it.
-/

namespace TargetingRules

open Grammar
open Piece (Spells)

/-! ## Tokens of printed pieces -/

/-- The tokens of some pieces derive an expression with the outline of a given one. -/
def Prints (n : Nat) (ℓ : Level) (pieces : List Piece) (t : Tree) : Prop :=
  ∀ ⦃more : List Piece⦄ ⦃ts : List Token⦄, Spells (pieces ++ more) ts →
    ∃ t' rest, Derives n ℓ ts t' rest ∧ Spells more rest ∧ t'.outline = t.outline

/-- The same for several expressions with a mark between them. -/
def PrintsSeveral (n : Nat) (ℓ : Level) (mark : Mark) (pieces : List Piece) (trees : List Tree) :
    Prop :=
  ∀ ⦃more : List Piece⦄ ⦃ts : List Token⦄, Spells (pieces ++ more) ts →
    ∃ trees' rest, Series n ℓ mark ts trees' rest ∧ Spells more rest ∧
      Tree.outlineAll trees' = Tree.outlineAll trees

theorem Piece.Spells.mark_cons {m : Mark} {pieces : List Piece} {ts : List Token}
    (spells : Spells (.mark m :: pieces) ts) :
    ∃ token rest, ts = token :: rest ∧ IsMark m token ∧ Spells pieces rest := by
  cases spells with
  | mark isMark others => exact ⟨_, _, rfl, isMark, others⟩

theorem Piece.Spells.name_cons {image : String} {pieces : List Piece} {ts : List Token}
    (spells : Spells (.name image :: pieces) ts) :
    ∃ token rest, ts = token :: rest ∧ IsName token ∧ token.text = image ∧
      Piece.Apart token rest ∧ Spells pieces rest := by
  cases spells with
  | name isName isText apart others => exact ⟨_, _, rfl, isName, isText, apart, others⟩

/-- A name that is not joined to the next token is the namespace of no function. -/
theorem not_opensQualified {token : Token} {ts : List Token} (apart : Piece.Apart token ts) :
    ¬ OpensQualified token ts := by
  intro qualified
  match ts, qualified with
  | colon :: _ :: _ :: _, ⟨_, _, _, adjacent, _⟩ => exact apart colon rfl adjacent

section Parts

variable {n : Nat} {ℓ : Level} {mark : Mark} {pieces : List Piece}

theorem Prints.loosen {ℓ' : Level} {t : Tree} (prints : Prints n ℓ' pieces t)
    (looser : ℓ.rank ≤ ℓ'.rank) : Prints n ℓ pieces t := by
  intro more ts spells
  obtain ⟨t', rest, derived, others, same⟩ := prints spells
  exact ⟨t', rest, derived.loosen looser, others, same⟩

theorem Prints.parenthesized {t : Tree} (prints : Prints n ℓ pieces t) :
    Prints (n + 1) .primary (Piece.enclosed .openParen .closeParen pieces) t := by
  intro more ts spells
  simp only [Piece.enclosed, List.cons_append, List.append_assoc, List.nil_append] at spells
  obtain ⟨opening, middle, rfl, isOpen, spells⟩ := spells.mark_cons
  obtain ⟨t', rest, derived, spells, same⟩ := prints spells
  obtain ⟨close, rest, rfl, isClose, others⟩ := spells.mark_cons
  exact ⟨t', rest, .parentheses isOpen (derived.loosen (Nat.zero_le _)) isClose, others, same⟩

theorem PrintsSeveral.one {t : Tree} (prints : Prints n ℓ pieces t) :
    PrintsSeveral n ℓ mark pieces [t] := by
  intro more ts spells
  obtain ⟨t', rest, derived, others, same⟩ := prints spells
  exact ⟨[t'], rest, .one derived, others, by simp only [Tree.outlineAll, same]⟩

theorem PrintsSeveral.more {t : Tree} {trees : List Tree} {others : List Piece}
    (prints : Prints n ℓ pieces t) (several : PrintsSeveral n ℓ mark others trees) :
    PrintsSeveral n ℓ mark (pieces ++ .mark mark :: others) (t :: trees) := by
  intro more ts spells
  rw [List.append_assoc, List.cons_append] at spells
  obtain ⟨t', middle, first, spells, same⟩ := prints spells
  obtain ⟨op, middle, rfl, isOp, spells⟩ := spells.mark_cons
  obtain ⟨trees', rest, listed, others, same'⟩ := several spells
  exact ⟨t' :: trees', rest, .more first isOp listed, others, by
    simp only [Tree.outlineAll, same, same']⟩

end Parts

/-- Wherever an expression stands, its tokens derive it with two levels of nesting for each level of
its own. -/
def Printable (t : Tree) : Prop :=
  ∀ n, 2 * t.height ≤ n → ∀ ℓ, Prints n ℓ (t.pieces ℓ) t

section Lists

variable {n : Nat} {ℓ : Level} {mark : Mark} {trees : List Tree}

theorem printsSeveral_separated (nonempty : trees ≠ [])
    (printable : ∀ t ∈ trees, Prints n ℓ (t.pieces ℓ) t) :
    PrintsSeveral n ℓ mark (Piece.separated ℓ mark (Tree.piecesAll trees)) trees := by
  induction trees with
  | nil => exact absurd rfl nonempty
  | cons t trees ih =>
    simp only [List.forall_mem_cons] at printable
    cases trees with
    | nil => exact PrintsSeveral.one printable.1
    | cons next trees =>
      exact PrintsSeveral.more printable.1 (ih (List.cons_ne_nil _ _) printable.2)

/-- The tokens of a printed list derive its items and a closing token. -/
theorem items_of_spells (printable : ∀ t ∈ trees, Prints n .assignment (t.pieces .assignment) t)
    {more : List Piece} {ts : List Token}
    (spells : Spells (Piece.separated .assignment .comma (Tree.piecesAll trees) ++
      .mark mark :: more) ts) :
    ∃ trees' close rest, Items n mark ts trees' close rest ∧ Spells more rest ∧
      Tree.outlineAll trees' = Tree.outlineAll trees := by
  cases trees with
  | nil =>
    obtain ⟨close, rest, rfl, isClose, others⟩ := spells.mark_cons
    exact ⟨[], close, rest, .none isClose, others, rfl⟩
  | cons t trees =>
    obtain ⟨trees', middle, listed, spells, same⟩ :=
      printsSeveral_separated (List.cons_ne_nil _ _) printable spells
    obtain ⟨close, rest, rfl, isClose, others⟩ := spells.mark_cons
    exact ⟨trees', close, rest, .some listed isClose, others, same⟩

end Lists

section Nodes

variable {kind : Kind} {image : Option String} {span : Span} {children : List Tree}

/-- The levels of nesting that are left for the children of a node. -/
theorem room_for_children {n : Nat} (room : 2 * (Tree.node kind image span children).height ≤ n) :
    ∃ m, n = m + 2 ∧ ∀ t ∈ children, 2 * t.height ≤ m := by
  simp only [Tree.height] at room
  obtain ⟨m, rfl⟩ := Nat.exists_eq_add_of_le (by omega : 2 ≤ n)
  refine ⟨m, Nat.add_comm 2 m, fun t member => ?_⟩
  have := height_le_heightAll member
  omega

/-- It is enough to derive a node without parentheses, at its own level. -/
theorem printable_of_node
    (prints : ∀ n, (∀ t ∈ children, 2 * t.height ≤ n) →
      Prints (n + 1) kind.level (kind.pieces image (Tree.piecesAll children))
        (.node kind image span children)) :
    Printable (.node kind image span children) := by
  intro n room ℓ
  obtain ⟨m, rfl, below⟩ := room_for_children room
  rw [Tree.pieces]
  split
  next looser => exact (prints m below).parenthesized.loosen ℓ.rank_le_primary
  next tight =>
    have prints := prints (m + 1) fun t member => Nat.le_succ_of_le (below t member)
    exact prints.loosen (Nat.le_of_not_lt tight)

end Nodes

/-! ## Nodes by kind -/

theorem pieces_of_mem_flatOperators (ℓ : Level) : ∀ entry ∈ ℓ.flatOperators,
    entry.2.level = ℓ ∧ ∀ children,
      entry.2.pieces none children = Piece.separated ℓ.tighter entry.1 children := by
  cases ℓ <;> simp only [Level.flatOperators, List.forall_mem_cons, List.not_mem_nil, false_implies,
    implies_true, and_true]
  all_goals exact ⟨rfl, fun _ => rfl⟩

theorem pieces_of_mem_leftOperators (ℓ : Level) : ∀ entry ∈ ℓ.leftOperators,
    entry.2.level = ℓ ∧ ∀ children,
      entry.2.pieces none children = Piece.infixed ℓ entry.1 ℓ.tighter children := by
  cases ℓ <;> simp only [Level.leftOperators, List.forall_mem_cons, List.not_mem_nil, false_implies,
    implies_true, and_true]
  case equality => exact ⟨⟨rfl, fun _ => rfl⟩, rfl, fun _ => rfl⟩
  case relation =>
    exact ⟨⟨rfl, fun _ => rfl⟩, ⟨rfl, fun _ => rfl⟩, ⟨rfl, fun _ => rfl⟩, rfl, fun _ => rfl⟩
  case concatenation => exact ⟨rfl, fun _ => rfl⟩
  case sum => exact ⟨⟨rfl, fun _ => rfl⟩, rfl, fun _ => rfl⟩
  case product => exact ⟨⟨rfl, fun _ => rfl⟩, ⟨rfl, fun _ => rfl⟩, rfl, fun _ => rfl⟩

theorem pieces_of_mem_prefixOperators : ∀ entry ∈ prefixOperators,
    entry.2.level = .unary ∧ ∀ children,
      entry.2.pieces none children = Piece.prefixed entry.1 children := by
  simp only [prefixOperators, List.forall_mem_cons, List.not_mem_nil, false_implies,
    implies_true, and_true]
  exact ⟨⟨rfl, fun _ => rfl⟩, ⟨rfl, fun _ => rfl⟩, rfl, fun _ => rfl⟩

section Kinds

variable {image name : String} {span nameSpan listSpan : Span} {children arguments params : List Tree}
  {t first second third : Tree}

theorem printable_identifier : Printable (.node .identifier (some image) span []) := by
  apply printable_of_node
  intro n _ more ts spells
  obtain ⟨token, rest, rfl, isName, rfl, apart, others⟩ := spells.name_cons
  exact ⟨_, rest, .identifier isName (not_opensQualified apart), others, rfl⟩

theorem printable_literal {kind : LiteralKind} :
    Printable (.node (.literal kind) (some image) span []) := by
  apply printable_of_node
  intro n _ more ts spells
  cases spells with
  | literal isLiteral isText others =>
    subst isText
    exact ⟨_, _, .literal isLiteral, others, rfl⟩

theorem printable_list (printable : ∀ t ∈ children, Printable t) :
    Printable (.node .list none span children) := by
  apply printable_of_node
  intro n below more ts spells
  simp only [Kind.pieces, Piece.enclosed, List.cons_append, List.append_assoc,
    List.nil_append] at spells
  obtain ⟨opening, middle, rfl, isOpen, spells⟩ := spells.mark_cons
  have prints := fun t member => printable t member n (below t member) .assignment
  obtain ⟨items, close, rest, listed, others, same⟩ := items_of_spells prints spells
  refine ⟨_, rest, .list isOpen listed, others, ?_⟩
  simp only [Tree.outline, same]

theorem printable_function (printable : ∀ t ∈ arguments, Printable t) :
    Printable (.node .function (some image) span arguments) := by
  apply printable_of_node
  intro n below more ts spells
  simp only [Kind.pieces, Piece.enclosed, Option.map_some, Option.toList_some, List.cons_append,
    List.append_assoc, List.nil_append] at spells
  have prints := fun t member => printable t member n (below t member) .assignment
  cases spells with
  | callee isName isText spells =>
    obtain ⟨opening, middle, rfl, isOpen, spells⟩ := spells.mark_cons
    obtain ⟨arguments', close, rest, listed, others, same⟩ :=
      items_of_spells prints spells
    refine ⟨_, rest, .call isName isOpen listed, others, ?_⟩
    simp only [Tree.outline, isText, same]
  | qualified isScope isColon isName adjacent adjacent' isText spells =>
    obtain ⟨opening, middle, rfl, isOpen, spells⟩ := spells.mark_cons
    obtain ⟨arguments', close, rest, listed, others, same⟩ :=
      items_of_spells prints spells
    refine ⟨_, rest, .qualifiedCall isScope ⟨isColon, isName, isOpen, adjacent, adjacent'⟩ listed,
      others, ?_⟩
    simp only [Tree.outline, isText, same]

theorem printable_flat {ℓ : Level} {mark : Mark} {kind : Kind}
    (listed : (mark, kind) ∈ ℓ.flatOperators) (several : 2 ≤ children.length)
    (printable : ∀ t ∈ children, Printable t) : Printable (.node kind none span children) := by
  obtain ⟨isLevel, isPieces⟩ := pieces_of_mem_flatOperators ℓ _ listed
  apply printable_of_node
  intro n below more ts spells
  rw [isPieces] at spells
  have nonempty : children ≠ [] := by
    rintro rfl
    simp at several
  have prints := fun t member =>
    printable t member (n + 1) (Nat.le_succ_of_le (below t member)) ℓ.tighter
  obtain ⟨trees, rest, series, others, same⟩ := printsSeveral_separated nonempty prints spells
  rw [← Tree.length_eq_of_outlineAll same] at several
  rw [isLevel]
  refine ⟨_, rest, .flat listed series several, others, ?_⟩
  simp only [spanning, Tree.outline, same]

theorem printable_binary {ℓ : Level} {mark : Mark} {kind : Kind}
    (listed : (mark, kind) ∈ ℓ.leftOperators) (left : Printable first)
    (right : Printable second) : Printable (.node kind none span [first, second]) := by
  obtain ⟨isLevel, isPieces⟩ := pieces_of_mem_leftOperators ℓ _ listed
  apply printable_of_node
  intro n below more ts spells
  simp only [isPieces, Tree.piecesAll, Piece.infixed, List.append_assoc, List.cons_append] at spells
  simp only [List.forall_mem_cons] at below
  obtain ⟨left', middle, derived, spells, same⟩ := left (n + 1) (by omega) _ spells
  obtain ⟨op, middle, rfl, isOp, spells⟩ := spells.mark_cons
  obtain ⟨right', rest, derived', others, same'⟩ := right (n + 1) (by omega) _ spells
  rw [isLevel]
  refine ⟨_, rest, .binary listed derived isOp derived', others, ?_⟩
  simp only [spanning, Tree.outline, Tree.outlineAll, same, same']

theorem printable_prefixed {mark : Mark} {kind : Kind} (listed : (mark, kind) ∈ prefixOperators)
    (inner : Printable t) : Printable (.node kind none span [t]) := by
  obtain ⟨isLevel, isPieces⟩ := pieces_of_mem_prefixOperators _ listed
  apply printable_of_node
  intro n below more ts spells
  simp only [isPieces, Tree.piecesAll, Piece.prefixed, List.cons_append] at spells
  simp only [List.forall_mem_cons] at below
  obtain ⟨op, middle, rfl, isOp, spells⟩ := spells.mark_cons
  obtain ⟨operand, rest, derived, others, same⟩ := inner n below.1 _ spells
  rw [isLevel]
  refine ⟨_, rest, .prefixed listed isOp derived, others, ?_⟩
  simp only [Tree.outline, Tree.outlineAll, same]

theorem printable_ternary (condition : Printable first) (whenTrue : Printable second)
    (whenFalse : Printable third) :
    Printable (.node .ternary none span [first, second, third]) := by
  apply printable_of_node
  intro n below more ts spells
  simp only [Kind.pieces, Tree.piecesAll, List.append_assoc, List.cons_append] at spells
  simp only [List.forall_mem_cons] at below
  obtain ⟨first', middle, derived, spells, same⟩ := condition (n + 1) (by omega) _ spells
  obtain ⟨question, middle, rfl, isQuestion, spells⟩ := spells.mark_cons
  obtain ⟨second', middle, derived', spells, same'⟩ := whenTrue n below.2.1 _ spells
  obtain ⟨colon, middle, rfl, isColon, spells⟩ := spells.mark_cons
  obtain ⟨third', rest, derived'', others, same''⟩ := whenFalse n below.2.2.1 _ spells
  refine ⟨_, rest, .ternary derived isQuestion derived' isColon derived'', others, ?_⟩
  simp only [spanning, Tree.outline, Tree.outlineAll, same, same', same'']

theorem printable_assign (target : Printable first) (value : Printable second) :
    Printable (.node .assign none span [first, second]) := by
  apply printable_of_node
  intro n below more ts spells
  simp only [Kind.pieces, Tree.piecesAll, Piece.infixed, List.append_assoc,
    List.cons_append] at spells
  simp only [List.forall_mem_cons] at below
  obtain ⟨target', middle, derived, spells, same⟩ := target (n + 1) (by omega) _ spells
  obtain ⟨op, middle, rfl, isOp, spells⟩ := spells.mark_cons
  obtain ⟨value', rest, derived', others, same'⟩ := value n below.2.1 _ spells
  refine ⟨_, rest, .assign derived isOp derived', others, ?_⟩
  simp only [spanning, Tree.outline, Tree.outlineAll, same, same']

theorem printable_index (target : Printable first) (position : Printable second) :
    Printable (.node .index none span [first, second]) := by
  apply printable_of_node
  intro n below more ts spells
  simp only [Kind.pieces, Tree.piecesAll, Piece.enclosed, List.append_assoc,
    List.cons_append, List.nil_append] at spells
  simp only [List.forall_mem_cons] at below
  obtain ⟨target', middle, derived, spells, same⟩ := target (n + 1) (by omega) _ spells
  obtain ⟨opening, middle, rfl, isOpen, spells⟩ := spells.mark_cons
  obtain ⟨position', middle, derived', spells, same'⟩ := position n below.2.1 _ spells
  obtain ⟨close, rest, rfl, isClose, others⟩ := spells.mark_cons
  refine ⟨_, rest, .index derived isOpen derived' isClose, others, ?_⟩
  simp only [Tree.outline, Tree.outlineAll, same, same']

theorem pieces_member : (Tree.node .member (some name) nameSpan []).pieces .primary = [.name name] :=
  rfl

theorem printable_property (target : Printable t) :
    Printable (.node .property none span [t, .node .member (some name) nameSpan []]) := by
  apply printable_of_node
  intro n below more ts spells
  simp only [Kind.pieces, Tree.piecesAll, Piece.infixed, pieces_member, List.append_assoc,
    List.cons_append, List.nil_append] at spells
  simp only [List.forall_mem_cons] at below
  obtain ⟨target', middle, derived, spells, same⟩ := target (n + 1) (by omega) _ spells
  obtain ⟨dot, middle, rfl, isDot, spells⟩ := spells.mark_cons
  obtain ⟨member, rest, rfl, isName, isText, _, others⟩ := spells.name_cons
  refine ⟨_, rest, .property derived isDot isName, others, ?_⟩
  simp only [spanning, leaf, Tree.outline, Tree.outlineAll, same, isText]

theorem pieces_arguments : (Tree.node .arguments none listSpan arguments).pieces .primary =
    Piece.enclosed .openParen .closeParen
      (Piece.separated .assignment .comma (Tree.piecesAll arguments)) :=
  rfl

theorem printable_methodCall (target : Printable t) (printable : ∀ t ∈ arguments, Printable t) :
    Printable (.node .methodCall none span [t, .node .member (some name) nameSpan [],
      .node .arguments none listSpan arguments]) := by
  apply printable_of_node
  intro n below more ts spells
  simp only [Kind.pieces, Tree.piecesAll, Piece.enclosed, pieces_member, pieces_arguments,
    List.append_assoc, List.cons_append, List.nil_append] at spells
  simp only [List.forall_mem_cons] at below
  have prints : ∀ t ∈ arguments, Prints n .assignment (t.pieces .assignment) t := by
    intro t member
    obtain ⟨m, same, below⟩ := room_for_children below.2.2.1
    exact printable t member n (by have := below t member; omega) .assignment
  obtain ⟨target', middle, derived, spells, same⟩ := target (n + 1) (by omega) _ spells
  obtain ⟨dot, middle, rfl, isDot, spells⟩ := spells.mark_cons
  obtain ⟨member, middle, rfl, isName, isText, _, spells⟩ := spells.name_cons
  obtain ⟨opening, middle, rfl, isOpen, spells⟩ := spells.mark_cons
  obtain ⟨arguments', close, rest, listed, others, same'⟩ := items_of_spells prints spells
  refine ⟨_, rest, .method derived isDot isName isOpen listed, others, ?_⟩
  simp only [spanning, leaf, Tree.outline, Tree.outlineAll, same, isText, same']

/-! ## Lambdas -/

/-- The parameters of a lambda as expressions. -/
def AreNames (params : List Tree) : Prop :=
  ∀ param ∈ params, ∃ name span, param = .node .identifier (some name) span []

theorem pieces_identifier (ℓ : Level) :
    (Tree.node .identifier (some name) span []).pieces ℓ = [.name name] :=
  if_neg (Nat.not_lt_of_le ℓ.rank_le_primary)

theorem names_of_spells (areNames : AreNames params) (nonempty : params ≠ []) {more : List Piece}
    {ts : List Token}
    (spells : Spells (Piece.separated .assignment .comma (Tree.piecesAll params) ++ more) ts) :
    ∃ names rest, Names ts names rest ∧ Spells more rest ∧
      Tree.outlineAll (names.map (leaf .identifier)) = Tree.outlineAll params := by
  induction params generalizing ts with
  | nil => exact absurd rfl nonempty
  | cons param params ih =>
    simp only [AreNames, List.forall_mem_cons] at areNames
    obtain ⟨⟨name, span, rfl⟩, areNames⟩ := areNames
    cases params with
    | nil =>
      simp only [Tree.piecesAll, Piece.separated, pieces_identifier, List.cons_append,
        List.nil_append] at spells
      obtain ⟨token, rest, rfl, isName, rfl, _, others⟩ := spells.name_cons
      exact ⟨[token], rest, .one isName, others, rfl⟩
    | cons next params =>
      simp only [Tree.piecesAll, Piece.separated, pieces_identifier, List.cons_append,
        List.nil_append] at spells
      obtain ⟨token, rest, rfl, isName, rfl, _, spells⟩ := spells.name_cons
      obtain ⟨comma, rest, rfl, isComma, spells⟩ := spells.mark_cons
      obtain ⟨names, rest, listed, others, same⟩ := ih areNames (List.cons_ne_nil _ _) spells
      refine ⟨token :: names, rest, .more isName isComma listed, others, ?_⟩
      simp only [List.map_cons, Tree.outlineAll, leaf, Tree.outline, same]

/-- The tokens of printed parameters and an arrow start a lambda. -/
theorem parameters_of_spells (areNames : AreNames params) {more : List Piece} {ts : List Token}
    (spells : Spells ((Tree.node .lambdaParameters none listSpan params).pieces .primary ++
      .mark .arrow :: more) ts) :
    ∃ t' rest, Parameters ts t' rest ∧ Spells more rest ∧
      t'.outline = (Tree.node .lambdaParameters none listSpan params).outline := by
  rcases params with _ | ⟨first, _ | ⟨second, others⟩⟩
  · change Spells (.mark .openParen :: .mark .closeParen :: .mark .arrow :: more) ts at spells
    obtain ⟨opening, _, rfl, isOpen, spells⟩ := spells.mark_cons
    obtain ⟨close, _, rfl, isClose, spells⟩ := spells.mark_cons
    obtain ⟨arrow, rest, rfl, isArrow, spells⟩ := spells.mark_cons
    exact ⟨_, rest, .none isOpen isClose isArrow, spells, rfl⟩
  · obtain ⟨name, span, rfl⟩ := areNames first (List.mem_singleton_self _)
    change Spells (.name name :: .mark .arrow :: more) ts at spells
    obtain ⟨token, _, rfl, isName, rfl, _, spells⟩ := spells.name_cons
    obtain ⟨arrow, rest, rfl, isArrow, spells⟩ := spells.mark_cons
    exact ⟨_, rest, .name isName isArrow, spells, rfl⟩
  · generalize isMany : first :: second :: others = params at areNames
    have enclosed : (Tree.node .lambdaParameters none listSpan params).pieces .primary =
        Piece.enclosed .openParen .closeParen
          (Piece.separated .assignment .comma (Tree.piecesAll params)) := by
      rw [← isMany]
      rfl
    rw [isMany, enclosed, Piece.enclosed] at spells
    simp only [List.append_assoc, List.cons_append, List.nil_append] at spells
    have nonempty : params ≠ [] := by
      rw [← isMany]
      exact List.cons_ne_nil _ _
    obtain ⟨opening, _, rfl, isOpen, spells⟩ := spells.mark_cons
    obtain ⟨names, _, listed, spells, same⟩ := names_of_spells areNames nonempty spells
    obtain ⟨close, _, rfl, isClose, spells⟩ := spells.mark_cons
    obtain ⟨arrow, rest, rfl, isArrow, spells⟩ := spells.mark_cons
    refine ⟨_, rest, .names isOpen listed isClose isArrow, spells, ?_⟩
    simp only [spanning, Tree.outline, same]

theorem printable_arrow (areNames : AreNames params) (inner : Printable t) :
    Printable (.node .arrow none span [.node .lambdaParameters none listSpan params, t]) := by
  apply printable_of_node
  intro n below more ts spells
  simp only [Kind.pieces, Tree.piecesAll, Piece.infixed, List.append_assoc,
    List.cons_append] at spells
  simp only [List.forall_mem_cons] at below
  obtain ⟨params', middle, head, spells, same⟩ := parameters_of_spells areNames spells
  obtain ⟨body, rest, derived, others, same'⟩ := inner n below.2.1 _ spells
  refine ⟨_, rest, .lambda head derived, others, ?_⟩
  simp only [spanning, Tree.outline, Tree.outlineAll, same, same']

end Kinds

/-! ## Whole expressions -/

/-- The expressions that can be printed: their names and literals are single tokens. -/
abbrev Writable : Tree → Prop :=
  Formed IsIdentifier IsLiteral

theorem printable_of_writable {t : Tree} (writable : Writable t) : Printable t := by
  induction writable with
  | identifier isName => exact printable_identifier
  | literal isLiteral => exact printable_literal
  | function isCallee formed ih => exact printable_function ih
  | list formed ih => exact printable_list ih
  | flat listed several formed ih => exact printable_flat listed several ih
  | binary listed first second ih₁ ih₂ => exact printable_binary listed ih₁ ih₂
  | prefixed listed inner ih => exact printable_prefixed listed ih
  | ternary first second third ih₁ ih₂ ih₃ => exact printable_ternary ih₁ ih₂ ih₃
  | property inner isName ih => exact printable_property ih
  | methodCall inner isName formed ih ihs => exact printable_methodCall ih ihs
  | index first second ih₁ ih₂ => exact printable_index ih₁ ih₂
  | assign first second ih₁ ih₂ => exact printable_assign ih₁ ih₂
  | arrow names inner ih =>
    exact printable_arrow (fun param member =>
      (names param member).imp fun _ found => found.imp fun _ both => both.2) ih

section Legible

variable {pieces : List Piece}

theorem legible_enclosed {opening close : Mark} (legible : ∀ p ∈ pieces, p.Legible) :
    ∀ p ∈ Piece.enclosed opening close pieces, p.Legible := by
  simp only [Piece.enclosed, List.forall_mem_cons, List.forall_mem_append]
  exact ⟨trivial, legible, trivial, by simp⟩

theorem legible_separated {ℓ : Level} {mark : Mark} {trees : List Tree}
    (legible : ∀ t ∈ trees, ∀ p ∈ t.pieces ℓ, p.Legible) :
    ∀ p ∈ Piece.separated ℓ mark (Tree.piecesAll trees), p.Legible := by
  induction trees with
  | nil => simp [Tree.piecesAll, Piece.separated]
  | cons t trees ih =>
    simp only [List.forall_mem_cons] at legible
    cases trees with
    | nil => exact legible.1
    | cons next trees =>
      simp only [Tree.piecesAll, Piece.separated, List.forall_mem_append, List.forall_mem_cons]
      exact ⟨legible.1, trivial, ih legible.2⟩

theorem legible_of_node {kind : Kind} {image : Option String} {span : Span} {children : List Tree}
    (legible : ∀ p ∈ kind.pieces image (Tree.piecesAll children), p.Legible) (ℓ : Level) :
    ∀ p ∈ (Tree.node kind image span children).pieces ℓ, p.Legible := by
  simp only [Tree.pieces]
  split
  next => exact legible_enclosed legible
  next => exact legible

theorem legible_singleton {piece : Piece} (legible : piece.Legible) :
    ∀ p ∈ [piece], p.Legible :=
  List.forall_mem_singleton.mpr legible

theorem legible_identifier {name : String} (isName : IsIdentifier name) (span : Span) (ℓ : Level) :
    ∀ p ∈ (Tree.node .identifier (some name) span []).pieces ℓ, p.Legible := by
  rw [pieces_identifier]
  exact legible_singleton isName

theorem legible_parameters {span : Span} {params : List Tree}
    (names : ∀ param ∈ params, ∃ name span, IsIdentifier name ∧
      param = .node .identifier (some name) span []) :
    ∀ p ∈ (Tree.node .lambdaParameters none span params).pieces .primary, p.Legible := by
  have listed : ∀ p ∈ Piece.separated .assignment .comma (Tree.piecesAll params), p.Legible := by
    apply legible_separated
    intro param member
    obtain ⟨name, span, isName, rfl⟩ := names param member
    exact legible_identifier isName span _
  refine legible_of_node ?_ _
  simp only [Kind.pieces]
  split
  next => exact listed
  next => exact legible_enclosed listed

end Legible

theorem legible_of_writable {t : Tree} (writable : Writable t) (ℓ : Level) :
    ∀ p ∈ t.pieces ℓ, p.Legible := by
  induction writable generalizing ℓ with
  | identifier isName => exact legible_identifier isName _ ℓ
  | literal isLiteral =>
    refine legible_of_node ?_ ℓ
    exact legible_singleton isLiteral
  | function isCallee formed ih =>
    refine legible_of_node ?_ ℓ
    simp only [Kind.pieces, Option.map_some, Option.toList_some, List.forall_mem_append,
      List.forall_mem_singleton]
    exact ⟨isCallee, legible_enclosed (legible_separated fun t member => ih t member _)⟩
  | list formed ih =>
    refine legible_of_node ?_ ℓ
    exact legible_enclosed (legible_separated fun t member => ih t member _)
  | @flat ℓ' _ _ _ _ listed several formed ih =>
    refine legible_of_node ?_ ℓ
    rw [(pieces_of_mem_flatOperators ℓ' _ listed).2]
    exact legible_separated fun t member => ih t member _
  | @binary ℓ' _ _ _ _ _ listed first second ih₁ ih₂ =>
    refine legible_of_node ?_ ℓ
    simp only [(pieces_of_mem_leftOperators ℓ' _ listed).2, Tree.piecesAll, Piece.infixed,
      List.forall_mem_append, List.forall_mem_cons]
    exact ⟨ih₁ _, trivial, ih₂ _⟩
  | prefixed listed inner ih =>
    refine legible_of_node ?_ ℓ
    simp only [(pieces_of_mem_prefixOperators _ listed).2, Tree.piecesAll, Piece.prefixed,
      List.forall_mem_cons]
    exact ⟨trivial, ih _⟩
  | ternary first second third ih₁ ih₂ ih₃ =>
    refine legible_of_node ?_ ℓ
    simp only [Kind.pieces, Tree.piecesAll, List.forall_mem_append, List.forall_mem_cons]
    exact ⟨ih₁ _, trivial, ih₂ _, trivial, ih₃ _⟩
  | property inner isName ih =>
    refine legible_of_node ?_ ℓ
    simp only [Kind.pieces, Tree.piecesAll, Piece.infixed, pieces_member, List.forall_mem_append,
      List.forall_mem_cons]
    exact ⟨ih _, trivial, isName, by simp⟩
  | methodCall inner isName formed ih ihs =>
    refine legible_of_node ?_ ℓ
    simp only [Kind.pieces, Tree.piecesAll, pieces_member, pieces_arguments,
      List.forall_mem_append, List.forall_mem_cons]
    exact ⟨ih _, trivial, ⟨isName, by simp⟩,
      legible_enclosed (legible_separated fun t member => ihs t member _)⟩
  | index first second ih₁ ih₂ =>
    refine legible_of_node ?_ ℓ
    simp only [Kind.pieces, Tree.piecesAll, List.forall_mem_append]
    exact ⟨ih₁ _, legible_enclosed (ih₂ _)⟩
  | assign first second ih₁ ih₂ =>
    refine legible_of_node ?_ ℓ
    simp only [Kind.pieces, Tree.piecesAll, Piece.infixed, List.forall_mem_append,
      List.forall_mem_cons]
    exact ⟨ih₁ _, trivial, ih₂ _⟩
  | arrow names inner ih =>
    refine legible_of_node ?_ ℓ
    simp only [Kind.pieces, Tree.piecesAll, Piece.infixed, List.forall_mem_append,
      List.forall_mem_cons]
    exact ⟨legible_parameters names, trivial, ih _⟩

theorem exists_derives_of_spells {t : Tree} (writable : Writable t) (low : t.height ≤ 32)
    {ts : List Token} (spells : Spells (t.pieces .assignment) ts) :
    ∃ t', Derives maxDepth .assignment ts t' [] ∧ t'.height ≤ maxDepth ∧
      t'.outline = t.outline := by
  have room : 2 * t.height ≤ maxDepth := by
    simp only [maxDepth]
    omega
  rw [← List.append_nil (t.pieces .assignment)] at spells
  obtain ⟨t', rest, derived, others, same⟩ := printable_of_writable writable _ room _ spells
  cases others
  refine ⟨t', derived, ?_, same⟩
  rw [Tree.height_eq_of_outline same]
  omega

theorem pieces_ne_nil {t : Tree} (writable : Writable t) : t.pieces .assignment ≠ [] := by
  intro none
  have spells : Spells (t.pieces .assignment ++ []) [] := by
    rw [none]
    exact .nil
  obtain ⟨_, _, derived, _⟩ := printable_of_writable writable _ (Nat.le_refl _) _ spells
  obtain ⟨_, _, split, _⟩ := derived.opens
  cases split

/-- The texts that state the same rule as a given text: the text itself, and the text between
delimiters with any blanks around it. -/
inductive States (text : String) : String → Prop where
  | bare : States text text
  | delimited {lead trail : String} (blankLead : isBlankText lead = true)
      (blankTrail : isBlankText trail = true) :
      States text ("$\x7b" ++ lead ++ text ++ trail ++ "\x7d")

theorem exists_tokens_of_states {t : Tree} (writable : Writable t) {rule : String}
    (states : States t.print rule) :
    ∃ ts, (Body.of rule.toList).tokens = .ok ts ∧ Spells (t.pieces .assignment) ts := by
  have legible := legible_of_writable writable .assignment
  have nonempty := pieces_ne_nil writable
  rw [Tree.print] at states
  generalize t.pieces .assignment = pieces at legible nonempty states
  obtain ⟨piece, pieces, rfl⟩ := List.exists_cons_of_ne_nil nonempty
  cases states with
  | bare =>
    have noBlanks : ∀ c ∈ ([] : List Char), Text.isBlank c = true := by simp
    obtain ⟨ts, splits, spells⟩ := Piece.splits_print legible noBlanks noBlanks 0
    rw [List.nil_append, List.append_nil] at splits
    refine ⟨ts, ?_, spells⟩
    rw [Piece.body_of_sharp (Piece.sharp_print legible) splits]
    exact Lexer.tokens_of_splits splits
  | @delimited lead trail blankLead blankTrail =>
    obtain ⟨ts, splits, spells⟩ := Piece.splits_print legible (List.all_eq_true.mp blankLead)
      (List.all_eq_true.mp blankTrail) 2
    refine ⟨ts, ?_, spells⟩
    generalize " ".intercalate ((piece :: pieces).map Piece.text) = text at splits
    have chars : ("$\x7b" ++ lead ++ text ++ trail ++ "\x7d").toList =
        [] ++ ('$' :: '\x7b' :: (lead.toList ++ text.toList ++ trail.toList ++ ['\x7d'])) ++ [] := by
      simp only [String.toList_append, List.append_nil]
      rfl
    have noBlanks : ∀ c ∈ ([] : List Char), Text.isBlank c = true := by simp
    rw [chars, Piece.body_of_delimited (.inl rfl) noBlanks noBlanks]
    exact Lexer.tokens_of_splits splits

/-- Reading undoes printing: what is read from the text of an expression, bare or between
delimiters, has the same kinds, images and ordered children. -/
theorem SyntaxTree.parse_print {t : Tree} (writable : Writable t) (low : t.height ≤ 32)
    {rule : String} (states : States t.print rule) :
    ∃ tree, SyntaxTree.parse rule = .ok tree ∧ tree.unfold.outline = t.outline := by
  obtain ⟨ts, tokenized, spells⟩ := exists_tokens_of_states writable states
  obtain ⟨t', derived, low', same⟩ := exists_derives_of_spells writable low spells
  have read := Tree.parse_eq_ok_iff.mpr ⟨ts, tokenized, derived, low'⟩
  exact ⟨.ofTree t', SyntaxTree.parse_eq_ok_iff.mpr ⟨t', read, rfl⟩, by rw [unfold_ofTree, same]⟩

theorem SyntaxTree.parse_print_negated_name :
    ∃ tree, SyntaxTree.parse "$\x7b ! a \x7d" = .ok tree ∧ tree.unfold.outline =
      .node .not none ⟨0, 0⟩ [.node .identifier (some "a") ⟨0, 0⟩ []] := by
  have read : Lexer.lexeme 0 'a' [] = .ok (.ident "a", 0) := rfl
  have isName : IsIdentifier "a" :=
    ⟨"a", Lexer.tokens_of_splits (.lexeme rfl (Lexer.lexeme_eq_ok_iff.mp read) rfl .nil)⟩
  have listed : (Mark.not, Kind.not) ∈ prefixOperators := by decide
  have writable : Writable (.node .not none ⟨0, 0⟩ [.node .identifier (some "a") ⟨0, 0⟩ []]) :=
    .prefixed listed (.identifier isName)
  have blank : isBlankText " " = true := rfl
  exact SyntaxTree.parse_print writable (by decide) (.delimited blank blank)

end TargetingRules
