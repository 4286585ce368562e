import Mathlib.Data.List.Forall2
import TargetingRules.Proofs.Syntax.Locality
import TargetingRules.Proofs.Syntax.Mirroring
import TargetingRules.Proofs.Syntax.Places
import TargetingRules.Proofs.Syntax.RoundTrip

/-!
# Texts of joined operands

The text of an operand has the same tokens wherever it stands between blanks, but for their places.
Texts with an operator between them therefore state what a chain of their expressions states, and
texts with commas between them a list of these, however many they are: each operand is read at the
depth of the chain, and the chain is one node.
-/

namespace TargetingRules

open Grammar
open Lexer (Splits)
open Piece (ReadsAs Sharp)

/-! ## Places -/

namespace Lexer

theorem Splits.shift {pos : Nat} {cs : List Char} {ts : List Token} (splits : Splits pos cs ts)
    (k : Nat) : Splits (pos + k) cs (ts.map (Token.shift k)) := by
  apply splits_of_tokens
  rw [tokens_shift, tokens_of_splits splits]
  rfl

/-- A text goes on after a blank. -/
theorem Splits.append {pos : Nat} {cs ds : List Char} {ts us : List Token}
    (splits : Splits pos cs ts) (blank : ∀ d ∈ ds.head?, Text.isBlank d = true)
    (others : Splits (pos + Text.byteLength cs) ds us) : Splits pos (cs ++ ds) (ts ++ us) := by
  apply splits_of_tokens
  rw [splits.tokens_append blank, tokens_of_splits others]
  rfl

/-- A text goes on after blanks, of which there is at least one. -/
theorem Splits.append_gap {pos : Nat} {cs gap ds : List Char} {ts us : List Token}
    (splits : Splits pos cs ts) (blank : ∀ c ∈ gap, Text.isBlank c = true) (nonempty : gap ≠ [])
    (others : Splits (pos + Text.byteLength cs + Text.byteLength gap) ds us) :
    Splits pos (cs ++ gap ++ ds) (ts ++ us) := by
  obtain ⟨c, gap, rfl⟩ := List.exists_cons_of_ne_nil nonempty
  have startsBlank : ∀ d ∈ (c :: gap ++ ds).head?, Text.isBlank d = true := by
    intro d member
    cases member
    exact blank c List.mem_cons_self
  rw [List.append_assoc]
  exact splits.append startsBlank (others.skip blank)

end Lexer

/-- The tokens after a list start with a mark that joins no name to what is before it. -/
def Fenced (more : List Token) : Prop :=
  ∀ token ∈ more.head?, ∃ mark, IsMark mark token ∧ mark ≠ .colon ∧ mark ≠ .openParen

theorem fenced_cons {token : Token} {mark : Mark} (isMark : IsMark mark token)
    (noColon : mark ≠ .colon) (noOpen : mark ≠ .openParen) (more : List Token) :
    Fenced (token :: more) := by
  intro token' member
  cases member
  exact ⟨mark, isMark, noColon, noOpen⟩

theorem opensQualified_shift_iff {more : List Token} (fenced : Fenced more) (k : Nat)
    (token : Token) (ts : List Token) :
    OpensQualified token ts ↔
      OpensQualified (token.shift k) (ts.map (Token.shift k) ++ more) := by
  have adjacent (first second : Token) :
      Adjacent first second ↔ Adjacent (first.shift k) (second.shift k) :=
    (Nat.add_right_cancel_iff (n := k)).symm
  match ts with
  | colon :: name :: opening :: ts =>
    simp only [OpensQualified, List.map_cons, List.cons_append, adjacent token, adjacent colon]
    rfl
  | [] =>
    refine ⟨False.elim, fun qualified => ?_⟩
    match more, qualified with
    | colon :: _ :: _ :: _, qualified =>
      obtain ⟨mark, isMark, noColon, _⟩ := fenced colon rfl
      exact noColon (isMark.unique qualified.1)
  | [colon] =>
    refine ⟨False.elim, fun qualified => ?_⟩
    match more, qualified with
    | name :: _ :: _, qualified =>
      obtain ⟨mark, isMark, _⟩ := fenced name rfl
      exact isMark.not_isName qualified.2.1
  | [colon, name] =>
    refine ⟨False.elim, fun qualified => ?_⟩
    match more, qualified with
    | opening :: _, qualified =>
      obtain ⟨mark, isMark, _, noOpen⟩ := fenced opening rfl
      exact noOpen (isMark.unique qualified.2.2.1)

/-- Tokens say the same further on in a text, before a fence. -/
theorem mirrors_shift {more : List Token} (fenced : Fenced more) (k : Nat) :
    Mirrors fun ts us => us = ts.map (Token.shift k) ++ more := by
  rintro token ts _ rfl
  exact ⟨token.shift k, _, rfl, ⟨rfl, rfl⟩, rfl, opensQualified_shift_iff fenced k token ts⟩

/-- The tokens of a whole text derive the same further on in a text, before a fence. -/
theorem Grammar.Derives.shift {n : Nat} {ℓ : Level} {ts : List Token} {t : Tree}
    (derived : Derives n ℓ ts t []) (k : Nat) {more : List Token} (fenced : Fenced more) :
    ∃ t', Derives n ℓ (ts.map (Token.shift k) ++ more) t' more ∧ t'.outline = t.outline := by
  obtain ⟨t', rest, derived', rfl, outline⟩ := derived.mirror (mirrors_shift fenced k) rfl
  exact ⟨t', derived', outline⟩

/-! ## Texts between blanks -/

theorem Text.sharp_trim {cs : List Char} (nonempty : Text.trim cs ≠ []) :
    Sharp (Text.trim cs) := by
  have visible (ds : List Char) (some : ds.dropWhile isBlank ≠ []) :
      ∃ c ∈ (ds.dropWhile isBlank).head?, isBlank c = false := by
    have stops := List.head?_dropWhile_not isBlank ds
    cases dropped : ds.dropWhile isBlank with
    | nil => exact absurd dropped some
    | cons c rest =>
      rw [dropped] at stops
      exact ⟨c, rfl, by simpa using stops⟩
  have last : (trimStart cs).reverse.dropWhile isBlank ≠ [] :=
    fun none => nonempty (by rw [trim, trimEnd, none, List.reverse_nil])
  refine ⟨?_, by simpa only [trim, trimEnd, List.getLast?_reverse] using visible _ last⟩
  obtain ⟨front, split⟩ : trim cs <+: trimStart cs := by
    have suffix := List.dropWhile_suffix isBlank (l := (trimStart cs).reverse)
    exact List.reverse_suffix.mp (by simpa only [trim, trimEnd, List.reverse_reverse] using suffix)
  obtain ⟨c, rest, start⟩ := List.exists_cons_of_ne_nil nonempty
  obtain ⟨d, isHead, isVisible⟩ := visible cs fun none => by
    rw [trimStart, none, start] at split
    cases split
  rw [← trimStart, ← split, start] at isHead
  exact ⟨d, by rw [start]; exact isHead, isVisible⟩

/-- Two texts with a space between them. -/
def beside (first second : String) : String :=
  first ++ " " ++ second

theorem toList_beside (first second : String) :
    (beside first second).toList = first.toList ++ ' ' :: second.toList := by
  simp only [beside, String.toList_append, List.append_assoc]
  rfl

/-- Characters that start at byte `pos` are the text of some tokens with blanks around it. -/
def Padded (pos : Nat) (cs : List Char) (ts : List Token) : Prop :=
  ∃ lead core back, cs = lead ++ core ++ back ∧ (∀ c ∈ lead, Text.isBlank c = true) ∧
    (∀ c ∈ back, Text.isBlank c = true) ∧ Sharp core ∧
    Splits (pos + Text.byteLength lead) core ts

namespace Padded

variable {pos : Nat} {cs ds : List Char} {ts us : List Token}

theorem shift (padded : Padded pos cs ts) (k : Nat) :
    Padded (pos + k) cs (ts.map (Token.shift k)) := by
  obtain ⟨lead, core, back, whole, blankLead, blankBack, sharp, splits⟩ := padded
  have splits := splits.shift k
  rw [Nat.add_right_comm] at splits
  exact ⟨lead, core, back, whole, blankLead, blankBack, sharp, splits⟩

/-- A text that is one token. -/
theorem of_readsAs {text : String} {kind : TokenKind} (reads : ReadsAs kind text.toList)
    (pos : Nat) : ∃ token, token.kind = kind ∧ token.text = text ∧ Padded pos text.toList [token] := by
  have parts : Lexer.Parts [] := fun _ member => by cases member
  have noTail : ∀ d ∈ ([] : List Char).head?, Text.isBlank d = true := fun _ member => by cases member
  have done : Splits (pos + Text.byteLength text.toList) [] [] := .nil
  have splits := reads.splits parts (fun _ => noTail) rfl done
  rw [List.append_nil] at splits
  refine ⟨_, rfl, String.ofList_toList, [], text.toList, [], ?_, by simp, by simp, reads.sharp,
    splits⟩
  rw [List.nil_append, List.append_nil]

theorem beside {first second : String} (before : Padded pos first.toList ts)
    (after : Padded (pos + Text.byteLength first.toList + 1) second.toList us) :
    Padded pos (beside first second).toList (ts ++ us) := by
  rw [toList_beside]
  generalize first.toList = cs at before after
  generalize second.toList = ds at after
  obtain ⟨lead, core, back, rfl, blankLead, blankBack, sharp, splits⟩ := before
  obtain ⟨lead', core', back', rfl, blankLead', blankBack', sharp', splits'⟩ := after
  have blankGap : ∀ c ∈ back ++ ' ' :: lead', Text.isBlank c = true := by
    intro c member
    rcases List.mem_append.mp member with inBack | inLead
    · exact blankBack c inBack
    · rcases List.mem_cons.mp inLead with rfl | inLead
      · rfl
      · exact blankLead' c inLead
  have oneByte : ' '.utf8Size = 1 := rfl
  refine ⟨lead, core ++ (back ++ ' ' :: lead') ++ core', back', ?_, blankLead, blankBack',
    sharp.append sharp' _, splits.append_gap blankGap (by simp) ?_⟩
  · simp only [List.append_assoc, List.cons_append]
  · convert splits' using 1
    simp only [Text.byteLength_append, Text.byteLength_cons, oneByte]
    omega

/-- A text between blanks is the body of the whole. -/
theorem tokens_body (padded : Padded 0 cs ts) : (Body.of cs).tokens = .ok ts := by
  obtain ⟨lead, core, back, rfl, blankLead, blankBack, sharp, splits⟩ := padded
  rw [Piece.body_of_padded sharp blankLead blankBack splits]
  rw [Nat.zero_add] at splits
  exact Lexer.tokens_of_splits splits

/-- A text without delimiters that has tokens. -/
theorem of_tokens (bare : Body.unwrap? (Text.trim cs) = none)
    (tokenized : (Body.of cs).tokens = .ok ts) (nonempty : ts ≠ []) : Padded 0 cs ts := by
  obtain ⟨back, whole, blankBack⟩ := Text.trim_eq cs
  have splits := Lexer.splits_of_tokens tokenized
  simp only [Body.of, bare] at splits
  have visible : Text.trim cs ≠ [] := by
    intro none
    rw [none] at splits
    cases splits
    exact nonempty rfl
  refine ⟨cs.takeWhile Text.isBlank, Text.trim cs, back, whole, ?_, blankBack,
    Text.sharp_trim visible, by rwa [Nat.zero_add]⟩
  exact List.all_eq_true.mp List.all_takeWhile

end Padded

/-! ## Operands -/

/-- On its own, a text without delimiters states an expression of a level, within so many levels
of nesting. -/
structure StandsAlone (n : Nat) (ℓ : Level) (text : String) (t : Tree) : Prop where
  bare : Body.unwrap? (Text.trim text.toList) = none
  derives : ∃ ts, (Body.of text.toList).tokens = .ok ts ∧ Derives n ℓ ts t []

/-- An operand states its expression anywhere between blanks. -/
theorem StandsAlone.padded {n : Nat} {ℓ : Level} {text : String} {t : Tree}
    (operand : StandsAlone n ℓ text t) (pos : Nat) :
    ∃ ts, Padded pos text.toList ts ∧ ∀ more, Fenced more →
      ∃ t', Derives n ℓ (ts ++ more) t' more ∧ t'.outline = t.outline := by
  obtain ⟨ts, tokenized, derived⟩ := operand.derives
  have nonempty : ts ≠ [] := by
    obtain ⟨token, rest, split, _⟩ := derived.opens
    rw [split]
    exact List.cons_ne_nil _ _
  have padded := (Padded.of_tokens operand.bare tokenized nonempty).shift pos
  rw [Nat.zero_add] at padded
  exact ⟨_, padded, fun more fenced => derived.shift pos fenced⟩

/-- A text whose tokens, between blanks, derive an expression. -/
theorem StandsAlone.of_padded {n : Nat} {ℓ : Level} {text : String} {t : Tree} {ts : List Token}
    (padded : Padded 0 text.toList ts) (derived : Derives n ℓ ts t []) : StandsAlone n ℓ text t := by
  refine ⟨?_, ts, padded.tokens_body, derived⟩
  obtain ⟨lead, core, back, whole, blankLead, blankBack, sharp, splits⟩ := padded
  rw [whole, sharp.trim blankLead blankBack]
  exact Piece.unwrap?_of_splits splits

/-- A text that stands alone is parsed, if its expression is not too high. -/
theorem StandsAlone.parse {ℓ : Level} {text : String} {t : Tree}
    (operand : StandsAlone maxDepth ℓ text t) (low : t.height ≤ maxDepth) :
    Tree.parse text = .ok t := by
  obtain ⟨ts, tokenized, derived⟩ := operand.derives
  exact Tree.parse_eq_ok_iff.mpr ⟨ts, tokenized, derived.loosen (Nat.zero_le _), low⟩

/-- Texts with a separator between them, set off by spaces. -/
def joined (separator : String) (texts : List String) : String :=
  (" " ++ separator ++ " ").intercalate texts

theorem joined_cons_cons (separator first second : String) (texts : List String) :
    joined separator (first :: second :: texts) =
      beside first (beside separator (joined separator (second :: texts))) := by
  simp only [joined, beside, String.intercalate_cons_cons, String.append_assoc]

/-- Operands with a mark between them state one expression after the other. -/
theorem series_of_joined {n : Nat} {ℓ : Level} {mark : Mark} {separator : String}
    (reads : ReadsAs (.mark mark) separator.toList) (noColon : mark ≠ .colon)
    (noOpen : mark ≠ .openParen) {texts : List String} {trees : List Tree}
    (operands : List.Forall₂ (StandsAlone n ℓ) texts trees) (nonempty : trees ≠ []) (pos : Nat) :
    ∃ ts, Padded pos (joined separator texts).toList ts ∧ ∀ more, Fenced more →
      ∃ trees', Series n ℓ mark (ts ++ more) trees' more ∧
        Tree.outlineAll trees' = Tree.outlineAll trees := by
  induction operands generalizing pos with
  | nil => exact absurd rfl nonempty
  | @cons text t texts trees first others ih =>
    obtain ⟨ts, padded, derives⟩ := first.padded pos
    cases others with
    | nil =>
      refine ⟨ts, padded, fun more fenced => ?_⟩
      obtain ⟨t', derived, outline⟩ := derives more fenced
      exact ⟨[t'], .one derived, by simp only [Tree.outlineAll, outline]⟩
    | @cons next _ texts _ second others =>
      obtain ⟨op, isOp, _, opPadded⟩ :=
        Padded.of_readsAs reads (pos + Text.byteLength text.toList + 1)
      obtain ⟨us, paddedRest, series⟩ := ih (List.cons_ne_nil _ _) _
      refine ⟨ts ++ ([op] ++ us), ?_, fun more fenced => ?_⟩
      · rw [joined_cons_cons]
        exact padded.beside (opPadded.beside paddedRest)
      · obtain ⟨trees', listed, outlines⟩ := series more fenced
        obtain ⟨t', derived, outline⟩ :=
          derives (op :: (us ++ more)) (fenced_cons isOp noColon noOpen _)
        refine ⟨t' :: trees', ?_, by simp only [Tree.outlineAll, outline, outlines]⟩
        rw [List.append_assoc, List.append_assoc]
        exact .more derived isOp listed

theorem heightAll_le {k : Nat} {trees : List Tree} (low : ∀ t ∈ trees, t.height ≤ k) :
    Tree.heightAll trees ≤ k := by
  induction trees with
  | nil => exact Nat.zero_le k
  | cons t trees ih =>
    simp only [List.forall_mem_cons] at low
    exact Nat.max_le.mpr ⟨low.1, ih low.2⟩

/-- What stands for low operands in a node of one more level is low enough. -/
theorem height_node_le {trees trees' : List Tree}
    (outlines : Tree.outlineAll trees' = Tree.outlineAll trees)
    (low : ∀ t ∈ trees, t.height < maxDepth) (kind : Kind) (image : Option String) (span : Span) :
    (Tree.node kind image span trees').height ≤ maxDepth := by
  have below : Tree.heightAll trees ≤ maxDepth - 1 :=
    heightAll_le fun t member => Nat.le_pred_of_lt (low t member)
  rw [Tree.height, Tree.heightAll_eq_of_outlineAll outlines]
  simp only [maxDepth] at below ⊢
  omega

theorem ne_of_mem_flatOperators {ℓ : Level} {mark : Mark} {kind : Kind}
    (listed : (mark, kind) ∈ ℓ.flatOperators) : mark ≠ .colon ∧ mark ≠ .openParen := by
  have all : ∀ entry ∈ ℓ.flatOperators, entry.1 ≠ .colon ∧ entry.1 ≠ .openParen := by
    cases ℓ <;> decide
  exact all _ listed

/-- A chain of any length stands alone as its operands do. -/
theorem StandsAlone.chain {n : Nat} {ℓ : Level} {mark : Mark} {kind : Kind} {operator : String}
    (listed : (mark, kind) ∈ ℓ.flatOperators) (reads : ReadsAs (.mark mark) operator.toList)
    {texts : List String} {trees : List Tree}
    (operands : List.Forall₂ (StandsAlone n ℓ.tighter) texts trees) (several : 2 ≤ texts.length) :
    ∃ t, StandsAlone n ℓ (joined operator texts) t ∧
      t.outline = .node kind none ⟨0, 0⟩ (Tree.outlineAll trees) := by
  have same := operands.length_eq
  have nonempty : trees ≠ [] := by
    rintro rfl
    simp only [List.length_nil] at same
    omega
  obtain ⟨noColon, noOpen⟩ := ne_of_mem_flatOperators listed
  obtain ⟨ts, padded, series⟩ := series_of_joined reads noColon noOpen operands nonempty 0
  obtain ⟨trees', derived, outlines⟩ := series [] fun _ member => by cases member
  rw [List.append_nil] at derived
  have count := Tree.length_eq_of_outlineAll outlines
  refine ⟨spanning kind trees', .of_padded padded (.flat listed derived (by omega)), ?_⟩
  simp only [spanning, Tree.outline, outlines]

/-- A chain of any length is one node over its operands. -/
theorem Tree.parse_chain {ℓ : Level} {mark : Mark} {kind : Kind} {operator : String}
    (listed : (mark, kind) ∈ ℓ.flatOperators) (reads : ReadsAs (.mark mark) operator.toList)
    {texts : List String} {trees : List Tree}
    (operands : List.Forall₂ (StandsAlone maxDepth ℓ.tighter) texts trees)
    (low : ∀ t ∈ trees, t.height < maxDepth) (several : 2 ≤ texts.length) :
    ∃ t, Tree.parse (joined operator texts) = .ok t ∧
      t.outline = .node kind none ⟨0, 0⟩ (Tree.outlineAll trees) := by
  obtain ⟨t, chain, outline⟩ := StandsAlone.chain listed reads operands several
  refine ⟨t, chain.parse ?_, outline⟩
  obtain ⟨_, _, _, children⟩ := t
  rw [Tree.outline, Tree.node.injEq] at outline
  exact height_node_le outline.2.2.2 low _ _ _

/-! ## Lists and arguments -/

/-- Texts in parentheses or brackets with commas between them, set off by spaces. -/
def enclosed (opening : Mark) (texts : List String) (close : Mark) : String :=
  beside opening.symbol (beside (joined "," texts) close.symbol)

/-- Any number of operands in parentheses or brackets are listed. -/
theorem items_of_enclosed {n : Nat} (opening : Mark) {close : Mark}
    (closing : close = .closeParen ∨ close = .closeBracket)
    {texts : List String} {trees : List Tree}
    (operands : List.Forall₂ (StandsAlone n .assignment) texts trees) (nonempty : trees ≠ [])
    (pos : Nat) :
    ∃ first middle, IsMark opening first ∧
      Padded pos (enclosed opening texts close).toList (first :: middle) ∧
      ∃ trees' last, Items n close middle trees' last [] ∧
        Tree.outlineAll trees' = Tree.outlineAll trees := by
  obtain ⟨first, isOpen, _, openPadded⟩ :=
    Padded.of_readsAs (Piece.readsAs_symbol opening) pos
  obtain ⟨ts, padded, series⟩ := series_of_joined (Piece.readsAs_symbol .comma) (by decide)
    (by decide) operands nonempty (pos + Text.byteLength opening.symbol.toList + 1)
  obtain ⟨last, isClose, _, closePadded⟩ := Padded.of_readsAs (Piece.readsAs_symbol close) _
  have fenced : Fenced [last] := by
    refine fenced_cons isClose ?_ ?_ []
    · rcases closing with rfl | rfl <;> decide
    · rcases closing with rfl | rfl <;> decide
  obtain ⟨trees', derived, outlines⟩ := series [last] fenced
  refine ⟨first, ts ++ [last], isOpen, ?_, trees', last, .some derived isClose, outlines⟩
  exact openPadded.beside (padded.beside closePadded)

section Items

variable {texts : List String} {trees : List Tree} {name : String}

/-- A list of any length is one node over its items. -/
theorem Tree.parse_listing
    (operands : List.Forall₂ (StandsAlone (maxDepth - 1) .assignment) texts trees)
    (low : ∀ t ∈ trees, t.height < maxDepth) (nonempty : trees ≠ []) :
    ∃ t, Tree.parse (enclosed .openBracket texts .closeBracket) = .ok t ∧
      t.outline = .node .list none ⟨0, 0⟩ (Tree.outlineAll trees) := by
  obtain ⟨first, middle, isOpen, padded, trees', last, listed, outlines⟩ :=
    items_of_enclosed .openBracket (.inr rfl) operands nonempty 0
  have list : Derives maxDepth .primary (first :: middle) _ [] := .list isOpen listed
  refine ⟨_, Tree.parse_eq_ok_iff.mpr ⟨_, padded.tokens_body, list.loosen (Nat.zero_le _),
    height_node_le outlines low _ _ _⟩, ?_⟩
  simp only [Tree.outline, outlines]

/-- A call with any number of arguments is one node over them. -/
theorem Tree.parse_calling (isName : IsIdentifier name)
    (operands : List.Forall₂ (StandsAlone (maxDepth - 1) .assignment) texts trees)
    (low : ∀ t ∈ trees, t.height < maxDepth) (nonempty : trees ≠ []) :
    ∃ t, Tree.parse (beside name (enclosed .openParen texts .closeParen)) = .ok t ∧
      t.outline = .node .function (some name) ⟨0, 0⟩ (Tree.outlineAll trees) := by
  obtain ⟨word, lexes⟩ := isName
  obtain ⟨token, isName, rfl, namePadded⟩ := Padded.of_readsAs (Piece.readsAs_of_lexes lexes) 0
  obtain ⟨first, middle, isOpen, padded, trees', last, listed, outlines⟩ :=
    items_of_enclosed .openParen (.inl rfl) operands nonempty _
  have call : Derives maxDepth .primary (token :: first :: middle) _ [] :=
    .call ⟨_, isName⟩ isOpen listed
  refine ⟨_, Tree.parse_eq_ok_iff.mpr ⟨_, (namePadded.beside padded).tokens_body,
    call.loosen (Nat.zero_le _), height_node_le outlines low _ _ _⟩, ?_⟩
  simp only [Tree.outline, outlines]

/-- A call of a method with any number of arguments is one node over them, next to the name. -/
theorem Tree.parse_methodCalling {target : String} {t : Tree}
    (receiver : StandsAlone maxDepth .access target t) (isLow : t.height < maxDepth)
    (isName : IsIdentifier name)
    (operands : List.Forall₂ (StandsAlone (maxDepth - 1) .assignment) texts trees)
    (low : ∀ t ∈ trees, t.height < maxDepth - 1) (nonempty : trees ≠ []) :
    ∃ t', Tree.parse (beside target (beside Mark.dot.symbol
        (beside name (enclosed .openParen texts .closeParen)))) = .ok t' ∧
      t'.outline = .node .methodCall none ⟨0, 0⟩ [t.outline, .node .member (some name) ⟨0, 0⟩ [],
        .node .arguments none ⟨0, 0⟩ (Tree.outlineAll trees)] := by
  obtain ⟨word, lexes⟩ := isName
  obtain ⟨ts, targetPadded, derives⟩ := receiver.padded 0
  obtain ⟨dot, isDot, _, dotPadded⟩ :=
    Padded.of_readsAs (Piece.readsAs_symbol .dot) (0 + Text.byteLength target.toList + 1)
  obtain ⟨token, isName, rfl, namePadded⟩ := Padded.of_readsAs (Piece.readsAs_of_lexes lexes)
    (0 + Text.byteLength target.toList + 1 + Text.byteLength Mark.dot.symbol.toList + 1)
  obtain ⟨first, middle, isOpen, padded, trees', last, listed, outlines⟩ :=
    items_of_enclosed .openParen (.inl rfl) operands nonempty _
  obtain ⟨t', derived, outline⟩ :=
    derives (dot :: token :: first :: middle) (fenced_cons isDot (by decide) (by decide) _)
  have call : Derives maxDepth .access (ts ++ dot :: token :: first :: middle) _ [] :=
    .method derived isDot ⟨_, isName⟩ isOpen listed
  have body := (targetPadded.beside (dotPadded.beside (namePadded.beside padded))).tokens_body
  have below : Tree.heightAll trees ≤ maxDepth - 2 :=
    heightAll_le fun t member => Nat.le_pred_of_lt (low t member)
  rw [← Tree.heightAll_eq_of_outlineAll outlines] at below
  rw [← Tree.height_eq_of_outline outline] at isLow
  refine ⟨_, Tree.parse_eq_ok_iff.mpr ⟨_, body, call.loosen (Nat.zero_le _), ?_⟩, ?_⟩
  · simp only [spanning, leaf, Tree.height, Tree.heightAll, maxDepth] at below isLow ⊢
    omega
  · simp only [spanning, leaf, Tree.outline, Tree.outlineAll, outline, outlines]

end Items

end TargetingRules
