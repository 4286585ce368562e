import TargetingRules.Proofs.Syntax.Joining

/-!
# Groups in chains

The operands of a chain of one operator can be put into groups with parentheses, and the groups into
groups. The text of a grouping is read as a chain whose operands are chains in turn, as deep as the
groups go, while the parser nests no further than it does anyway. How much nesting an operand may need
itself therefore depends on the groups around it.
-/

namespace TargetingRules

open Grammar
open Piece (ReadsAs)

/-! ## Room for nesting -/

namespace Grammar

mutual

/-- What is derived within some levels of nesting is derived within one more. -/
theorem Derives.deeper {n : Nat} {ℓ : Level} {ts : List Token} {t : Tree} {rest : List Token} :
    Derives n ℓ ts t rest → Derives (n + 1) ℓ ts t rest
  | .tighter inner => .tighter inner.deeper
  | .assign left isOp right => .assign left.deeper isOp right.deeper
  | .lambda head inner => .lambda head inner.deeper
  | .ternary first isQuestion second isColon third =>
    .ternary first.deeper isQuestion second.deeper isColon third.deeper
  | .flat listed operands several => .flat listed operands.deeper several
  | .binary listed first isOp second => .binary listed first.deeper isOp second.deeper
  | .prefixed listed isOp inner => .prefixed listed isOp inner.deeper
  | .property inner isDot isName => .property inner.deeper isDot isName
  | .method inner isDot isName isOpen list => .method inner.deeper isDot isName isOpen list.deeper
  | .index inner isOpen nested isClose => .index inner.deeper isOpen nested.deeper isClose
  | .literal isLiteral => .literal isLiteral
  | .identifier isName unqualified => .identifier isName unqualified
  | .call isName isOpen list => .call isName isOpen list.deeper
  | .qualifiedCall isName qualified list => .qualifiedCall isName qualified list.deeper
  | .parentheses isOpen inner isClose => .parentheses isOpen inner.deeper isClose
  | .list isOpen list => .list isOpen list.deeper

theorem Series.deeper {n : Nat} {ℓ : Level} {mark : Mark} {ts : List Token} {trees : List Tree}
    {rest : List Token} : Series n ℓ mark ts trees rest → Series (n + 1) ℓ mark ts trees rest
  | .one last => .one last.deeper
  | .more first isOp others => .more first.deeper isOp others.deeper

theorem Items.deeper {n : Nat} {mark : Mark} {ts : List Token} {trees : List Tree} {close : Token}
    {rest : List Token} : Items n mark ts trees close rest → Items (n + 1) mark ts trees close rest
  | .none isClose => .none isClose
  | .some listed isClose => .some listed.deeper isClose

end

theorem Derives.deepen {n m : Nat} {ℓ : Level} {ts : List Token} {t : Tree} {rest : List Token}
    (derived : Derives n ℓ ts t rest) (room : n ≤ m) : Derives m ℓ ts t rest := by
  induction room with
  | refl => exact derived
  | step _ ih => exact ih.deeper

end Grammar

/-! ## Texts that stand alone -/

section StandsAlone

variable {n m : Nat} {ℓ ℓ' : Level} {text : String} {t : Tree}

theorem StandsAlone.deepen (operand : StandsAlone n ℓ text t) (room : n ≤ m) :
    StandsAlone m ℓ text t := by
  obtain ⟨ts, tokenized, derived⟩ := operand.derives
  exact ⟨operand.bare, ts, tokenized, derived.deepen room⟩

theorem StandsAlone.loosen (operand : StandsAlone n ℓ' text t) (looser : ℓ.rank ≤ ℓ'.rank) :
    StandsAlone n ℓ text t := by
  obtain ⟨ts, tokenized, derived⟩ := operand.derives
  exact ⟨operand.bare, ts, tokenized, derived.loosen looser⟩

/-- A text in parentheses. -/
def parenthesized (text : String) : String :=
  beside Mark.openParen.symbol (beside text Mark.closeParen.symbol)

/-- What stands in parentheses takes one more level of nesting, and is then an operand of anything. -/
theorem StandsAlone.parenthesized (operand : StandsAlone n ℓ text t) :
    ∃ t', StandsAlone (n + 1) .primary (parenthesized text) t' ∧ t'.outline = t.outline := by
  obtain ⟨opening, isOpen, _, openPadded⟩ := Padded.of_readsAs (Piece.readsAs_symbol .openParen) 0
  obtain ⟨ts, padded, derives⟩ := operand.padded (0 + Text.byteLength Mark.openParen.symbol.toList + 1)
  obtain ⟨close, isClose, _, closePadded⟩ := Padded.of_readsAs (Piece.readsAs_symbol .closeParen) _
  obtain ⟨t', derived, outline⟩ := derives [close] (fenced_cons isClose (by decide) (by decide) [])
  refine ⟨t', .of_padded (openPadded.beside (padded.beside closePadded)) ?_, outline⟩
  exact .parentheses isOpen (derived.loosen (Nat.zero_le _)) isClose

/-- Trees can be found for a list if they can be found for each of its entries. -/
theorem exists_trees {α : Type} {stands : String → Tree → Prop} {text : α → String} {tree : α → Tree}
    {xs : List α} (each : ∀ x ∈ xs, ∃ t, stands (text x) t ∧ t.outline = (tree x).outline) :
    ∃ ts, List.Forall₂ stands (xs.map text) ts ∧
      Tree.outlineAll ts = Tree.outlineAll (xs.map tree) := by
  induction xs with
  | nil => exact ⟨[], .nil, rfl⟩
  | cons x xs ih =>
    simp only [List.forall_mem_cons] at each
    obtain ⟨⟨t, first, outline⟩, others⟩ := each
    obtain ⟨ts, listed, outlines⟩ := ih others
    exact ⟨t :: ts, .cons first listed, by simp only [List.map_cons, Tree.outlineAll, outline, outlines]⟩

/-- A text after the sign of negation. -/
def negated (text : String) : String :=
  beside Mark.not.symbol text

/-- What stands after the sign of negation takes one more level of nesting. -/
theorem StandsAlone.negated (operand : StandsAlone n .unary text t) :
    ∃ t', StandsAlone (n + 1) .unary (negated text) t' ∧
      t'.outline = .node .not none ⟨0, 0⟩ [t.outline] := by
  obtain ⟨sign, isSign, _, signPadded⟩ := Padded.of_readsAs (Piece.readsAs_symbol .not) 0
  obtain ⟨ts, padded, derives⟩ := operand.padded (0 + Text.byteLength Mark.not.symbol.toList + 1)
  obtain ⟨t', derived, outline⟩ := derives [] fun _ member => by cases member
  rw [List.append_nil] at derived
  have listed : (Mark.not, Kind.not) ∈ prefixOperators := by decide
  refine ⟨_, .of_padded (signPadded.beside padded) (.prefixed listed isSign derived), ?_⟩
  simp only [Tree.outline, Tree.outlineAll, outline]

section Negations

variable {mark : Mark} {kind : Kind} {operator : String} {entries : List (String × Tree)}
  (listed : (mark, kind) ∈ ℓ.flatOperators) (reads : ReadsAs (.mark mark) operator.toList)
  (several : 2 ≤ entries.length) (each : ∀ entry ∈ entries, StandsAlone n .unary entry.1 entry.2)

include listed reads several each

/-- The negation of a chain stands alone. -/
theorem exists_negatedChain (looser : ℓ.tighter.rank ≤ Level.unary.rank) :
    ∃ t, StandsAlone (n + 2) .unary
      (negated (parenthesized (joined operator (entries.map Prod.fst)))) t ∧
        t.outline = .node .not none ⟨0, 0⟩
          [.node kind none ⟨0, 0⟩ (Tree.outlineAll (entries.map Prod.snd))] := by
  have operands : List.Forall₂ (StandsAlone n ℓ.tighter) (entries.map Prod.fst)
      (entries.map Prod.snd) := by
    rw [List.forall₂_map_left_iff, List.forall₂_map_right_iff, List.forall₂_same]
    exact fun entry member => (each entry member).loosen looser
  obtain ⟨t, chain, outline⟩ := StandsAlone.chain listed reads operands (by rwa [List.length_map])
  obtain ⟨t', grouped, outline'⟩ := chain.parenthesized
  obtain ⟨t'', stands, outline''⟩ := (grouped.loosen (ℓ := .unary) (by decide)).negated
  exact ⟨t'', stands, by rw [outline'', outline', outline]⟩

/-- A chain of negations stands alone. -/
theorem exists_chain_negated : ∃ t, StandsAlone (n + 2) ℓ
    (joined operator (entries.map fun entry => parenthesized (negated entry.1))) t ∧
      t.outline = .node kind none ⟨0, 0⟩
        (Tree.outlineAll (entries.map fun entry => .node .not none ⟨0, 0⟩ [entry.2])) := by
  have stand : ∀ entry ∈ entries, ∃ t,
      StandsAlone (n + 2) ℓ.tighter (parenthesized (negated entry.1)) t ∧
        t.outline = (Tree.node .not none ⟨0, 0⟩ [entry.2]).outline := by
    intro entry member
    obtain ⟨t, stands, outline⟩ := (each entry member).negated
    obtain ⟨t', grouped, outline'⟩ := stands.parenthesized
    exact ⟨t', grouped.loosen (Level.rank_le_primary _), by rw [outline', outline]; rfl⟩
  obtain ⟨ts, operands, outlines⟩ := exists_trees stand
  obtain ⟨t, chain, outline⟩ := StandsAlone.chain listed reads operands (by rwa [List.length_map])
  exact ⟨t, chain, by rw [outline, outlines]⟩

end Negations

end StandsAlone

/-! ## Groupings -/

/-- An operand of a chain, or several of them in parentheses. -/
inductive Grouping where
  /-- The text of an operand, and the expression that it states. -/
  | operand (text : String) (t : Tree)
  /-- A group of operands and groups. -/
  | group (parts : List Grouping)

namespace Grouping

mutual

/-- The text of a grouping. -/
def text (operator : String) : Grouping → String
  | .operand text _ => text
  | .group parts => parenthesized (joined operator (texts operator parts))

/-- The texts of groupings in order. -/
def texts (operator : String) : List Grouping → List String
  | [] => []
  | part :: parts => text operator part :: texts operator parts

end

mutual

/-- The expression that a grouping states, but for the places of its nodes. -/
def tree (kind : Kind) : Grouping → Tree
  | .operand _ t => t
  | .group parts => .node kind none ⟨0, 0⟩ (trees kind parts)

/-- The expressions of groupings in order. -/
def trees (kind : Kind) : List Grouping → List Tree
  | [] => []
  | part :: parts => tree kind part :: trees kind parts

end

mutual

/-- The operands of a grouping in order, without the groups. -/
def flat : Grouping → List (String × Tree)
  | .operand text t => [(text, t)]
  | .group parts => flatAll parts

/-- The operands of groupings in order. -/
def flatAll : List Grouping → List (String × Tree)
  | [] => []
  | part :: parts => flat part ++ flatAll parts

end

/-- The expression of a chain of groupings; of a single one there is no chain around it. -/
def whole (kind : Kind) : List Grouping → Tree
  | [part] => tree kind part
  | parts => .node kind none ⟨0, 0⟩ (trees kind parts)

theorem texts_eq_map (operator : String) (parts : List Grouping) :
    texts operator parts = parts.map (text operator) := by
  induction parts with
  | nil => rfl
  | cons part parts ih => rw [texts, ih, List.map_cons]

theorem trees_eq_map (kind : Kind) (parts : List Grouping) :
    trees kind parts = parts.map (tree kind) := by
  induction parts with
  | nil => rfl
  | cons part parts ih => rw [trees, ih, List.map_cons]

/-- The operands of a grouping stand alone, and leave room for the groups around them. -/
inductive Stands (ℓ : Level) : Nat → Grouping → Prop where
  | operand {n text t} (stands : StandsAlone n ℓ.tighter text t) : Stands ℓ n (.operand text t)
  | group {n parts} (several : 2 ≤ parts.length) (each : ∀ part ∈ parts, Stands ℓ n part) :
      Stands ℓ (n + 1) (.group parts)

section Stands

variable {ℓ : Level} {mark : Mark} {kind : Kind} {operator : String} {n : Nat}

/-- The text of a grouping stands alone where an operand does. -/
theorem Stands.standsAlone (listed : (mark, kind) ∈ ℓ.flatOperators)
    (reads : ReadsAs (.mark mark) operator.toList) {g : Grouping} (stands : Stands ℓ n g) :
    ∃ t, StandsAlone n ℓ.tighter (text operator g) t ∧ t.outline = (tree kind g).outline := by
  induction stands with
  | operand stands => exact ⟨_, stands, rfl⟩
  | @group n parts several each ih =>
    obtain ⟨ts, operands, outlines⟩ := exists_trees ih
    obtain ⟨t, chain, outline⟩ :=
      StandsAlone.chain listed reads operands (by rwa [List.length_map])
    obtain ⟨t', grouped, outline'⟩ := chain.parenthesized
    rw [← texts_eq_map] at grouped
    refine ⟨t', grouped.loosen (Level.rank_le_primary _), ?_⟩
    rw [outline', outline, outlines, ← trees_eq_map, tree, Tree.outline]

/-- So does the text of a chain of groupings. -/
theorem exists_whole (listed : (mark, kind) ∈ ℓ.flatOperators)
    (reads : ReadsAs (.mark mark) operator.toList) {parts : List Grouping} (nonempty : parts ≠ [])
    (each : ∀ part ∈ parts, Stands ℓ n part) :
    ∃ t, StandsAlone n ℓ (joined operator (texts operator parts)) t ∧
      t.outline = (whole kind parts).outline := by
  obtain ⟨ts, operands, outlines⟩ := exists_trees fun part member =>
    (each part member).standsAlone listed reads
  match parts, nonempty with
  | [part], _ =>
    obtain ⟨t, stands, outline⟩ := (each part List.mem_cons_self).standsAlone listed reads
    refine ⟨t, ?_, outline⟩
    rw [texts, texts, joined, String.intercalate_singleton]
    exact stands.loosen (Level.rank_le_tighter ℓ)
  | part :: part' :: parts, _ =>
    have several : 2 ≤ ((part :: part' :: parts).map (text operator)).length := by simp
    obtain ⟨t, chain, outline⟩ := StandsAlone.chain listed reads operands several
    rw [← texts_eq_map] at chain
    refine ⟨t, chain, outline.trans ?_⟩
    rw [outlines, ← trees_eq_map]
    rfl

/-- Each operand stands alone, whatever groups are around it. -/
theorem Stands.flat {g : Grouping} (stands : Stands ℓ n g) (room : n ≤ maxDepth) :
    ∀ entry ∈ g.flat, StandsAlone maxDepth ℓ.tighter entry.1 entry.2 := by
  induction stands with
  | operand stands =>
    simp only [Grouping.flat, List.forall_mem_singleton]
    exact stands.deepen room
  | @group n parts several each ih =>
    rw [Grouping.flat]
    clear several each
    induction parts with
    | nil => simp [flatAll]
    | cons part parts ihs =>
      simp only [List.forall_mem_cons] at ih
      rw [flatAll, List.forall_mem_append]
      exact ⟨ih.1 (Nat.le_of_succ_le room), ihs ih.2⟩

/-- The operands of a chain of groupings stand alone. -/
theorem standsAlone_flatAll {parts : List Grouping}
    (each : ∀ part ∈ parts, Stands ℓ maxDepth part) :
    List.Forall₂ (StandsAlone maxDepth ℓ.tighter) ((flatAll parts).map Prod.fst)
      ((flatAll parts).map Prod.snd) := by
  rw [List.forall₂_map_left_iff, List.forall₂_map_right_iff, List.forall₂_same]
  induction parts with
  | nil => simp [flatAll]
  | cons part parts ih =>
    simp only [List.forall_mem_cons] at each
    rw [flatAll, List.forall_mem_append]
    exact ⟨each.1.flat (Nat.le_refl _), ih each.2⟩

end Stands

/-! ## Heights -/

theorem heightAll_append (ts us : List Tree) :
    Tree.heightAll (ts ++ us) = max (Tree.heightAll ts) (Tree.heightAll us) := by
  induction ts with
  | nil => simp [Tree.heightAll]
  | cons t ts ih => rw [List.cons_append, Tree.heightAll, ih, Tree.heightAll, Nat.max_assoc]

mutual

/-- Groups only add to the height. -/
theorem heightAll_flat_le (kind : Kind) : (g : Grouping) →
    Tree.heightAll (g.flat.map Prod.snd) ≤ (g.tree kind).height
  | .operand text t => by simp [flat, tree, Tree.heightAll]
  | .group parts => by
    rw [flat, tree, Tree.height]
    exact Nat.le_add_left_of_le (heightAll_flatAll_le kind parts)

theorem heightAll_flatAll_le (kind : Kind) : (parts : List Grouping) →
    Tree.heightAll ((flatAll parts).map Prod.snd) ≤ Tree.heightAll (trees kind parts)
  | [] => Nat.le_refl _
  | g :: parts => by
    have first := heightAll_flat_le kind g
    have others := heightAll_flatAll_le kind parts
    rw [flatAll, List.map_append, heightAll_append, trees, Tree.heightAll]
    omega

end

/-- The flat chain is no higher than the chain of groupings, if it is a chain. -/
theorem height_flatAll_le (kind : Kind) {parts : List Grouping}
    (several : 2 ≤ (flatAll parts).length) :
    (Tree.node kind none ⟨0, 0⟩ ((flatAll parts).map Prod.snd)).height ≤
      (whole kind parts).height := by
  match parts with
  | [.operand text t] => simp [flatAll, flat] at several
  | [.group parts] =>
    have below := heightAll_flatAll_le kind parts
    rw [flatAll, flatAll, List.append_nil, flat, whole, tree, Tree.height, Tree.height]
    omega
  | [] => exact Nat.le_refl _
  | part :: part' :: parts =>
    have below := heightAll_flatAll_le kind (part :: part' :: parts)
    exact Nat.add_le_add_left below 1

end Grouping

end TargetingRules
