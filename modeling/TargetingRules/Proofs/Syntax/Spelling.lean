import TargetingRules.Proofs.Syntax.Lexing
import TargetingRules.Proofs.Syntax.Printing
import TargetingRules.Syntax.Body

/-!
# From printed pieces to tokens

A printed text is split into the tokens of its pieces again: single spaces keep the pieces apart,
and only the name of a function with a namespace is more than one token.
-/

namespace TargetingRules

open Grammar (IsMark IsName Adjacent literal?)
open Lexer (IsLexeme Splits Parts Lexes)

/-- A text that is one name. -/
def IsIdentifier (image : String) : Prop :=
  ∃ name, Lexes image (.ident name)

/-- A text that is one literal of a kind. -/
def IsLiteral (kind : LiteralKind) (image : String) : Prop :=
  ∃ token, Lexes image token ∧ literal? token = some kind

namespace Piece

/-- A piece of a text that the lexer can read. -/
def Legible : Piece → Prop
  | .mark _ => True
  | .name image => IsIdentifier image
  | .literal kind image => IsLiteral kind image
  | .callee image => IsCallee IsIdentifier image

/-- A token is not joined to the next one. -/
def Apart (token : Token) (ts : List Token) : Prop :=
  ∀ next ∈ ts.head?, ¬ Adjacent token next

/-- Tokens that say what some pieces say. -/
inductive Spells : List Piece → List Token → Prop where
  | nil : Spells [] []
  | mark {m pieces token ts} (isMark : IsMark m token) (others : Spells pieces ts) :
      Spells (.mark m :: pieces) (token :: ts)
  | name {image pieces token ts} (isName : IsName token) (isText : token.text = image)
      (apart : Apart token ts) (others : Spells pieces ts) :
      Spells (.name image :: pieces) (token :: ts)
  | literal {kind image pieces token ts} (isLiteral : literal? token.kind = some kind)
      (isText : token.text = image) (others : Spells pieces ts) :
      Spells (.literal kind image :: pieces) (token :: ts)
  | callee {image pieces token ts} (isName : IsName token) (isText : token.text = image)
      (others : Spells pieces ts) : Spells (.callee image :: pieces) (token :: ts)
  | qualified {image pieces scope colon name ts} (isScope : IsName scope)
      (isColon : IsMark .colon colon) (isName : IsName name) (first : Adjacent scope colon)
      (second : Adjacent colon name) (isText : scope.text ++ ":" ++ name.text = image)
      (others : Spells pieces ts) :
      Spells (.callee image :: pieces) (scope :: colon :: name :: ts)

/-! ## One piece -/

/-- The characters start with what reads as one token of a kind. -/
def ReadsAs (kind : TokenKind) (chars : List Char) : Prop :=
  ∃ c cs, chars = c :: cs ∧ Text.isBlank c = false ∧ IsLexeme c cs kind cs.length

theorem readsAs_symbol (m : Mark) : ReadsAs (.mark m) m.symbol.toList := by
  have read : ∀ {c : Char} {cs : List Char}, Text.isBlank c = false →
      Lexer.lexeme 0 c cs = .ok (.mark m, cs.length) →
      Text.isBlank c = false ∧ IsLexeme c cs (.mark m) cs.length :=
    fun visible success => ⟨visible, Lexer.lexeme_eq_ok_iff.mp success⟩
  cases m <;> exact ⟨_, _, rfl, read rfl rfl⟩

theorem parts_of_isBlank {tail : List Char} (blank : ∀ d ∈ tail.head?, Text.isBlank d = true) :
    Parts tail :=
  fun d member => Lexer.isNumberPart_of_isBlank (blank d member)

/-- A token is read where what follows cannot belong to it. -/
theorem ReadsAs.splits {kind : TokenKind} {chars tail : List Char} (reads : ReadsAs kind chars)
    (parts : Parts tail)
    (blank : (∃ m, kind = .mark m) → ∀ d ∈ tail.head?, Text.isBlank d = true) {pos stop : Nat}
    (isStop : stop = pos + Text.byteLength chars) {ts : List Token} (rest : Splits stop tail ts) :
    Splits pos (chars ++ tail) (⟨kind, ⟨pos, stop⟩, String.ofList chars⟩ :: ts) := by
  obtain ⟨c, cs, rfl, visible, isLexeme⟩ := reads
  have front : (cs ++ tail).take cs.length = cs := List.take_left
  have back : (cs ++ tail).drop cs.length = tail := List.drop_left
  have whole := isLexeme.append parts blank
  rw [← front] at isStop
  rw [← back] at rest
  have token := Splits.lexeme visible whole isStop rest
  rwa [front] at token

theorem readsAs_of_lexes {text : String} {kind : TokenKind} (lexes : Lexes text kind) :
    ReadsAs kind text.toList :=
  lexes.isLexeme

/-- A colon is read as itself, whatever follows. -/
theorem splits_colon {pos : Nat} {tail : List Char} {ts : List Token}
    (rest : Splits (pos + 1) tail ts) :
    Splits pos (':' :: tail) (⟨.mark .colon, ⟨pos, pos + 1⟩, ":"⟩ :: ts) := by
  have read : Lexer.lexeme 0 ':' tail = .ok (.mark .colon, 0) := rfl
  exact .lexeme rfl (Lexer.lexeme_eq_ok_iff.mp read) rfl rest

/-- The name of a function with its namespace is read as three tokens without blanks. -/
theorem splits_qualified {scope name : String} (isScope : IsIdentifier scope)
    (isName : IsIdentifier name) {tail : List Char}
    (blank : ∀ d ∈ tail.head?, Text.isBlank d = true) {pos stop : Nat}
    (isStop : stop = pos + Text.byteLength (scope ++ ":" ++ name).toList) {pieces : List Piece}
    {ts : List Token} (rest : Splits stop tail ts) (others : Spells pieces ts) :
    ∃ ts', Splits pos ((scope ++ ":" ++ name).toList ++ tail) ts' ∧
      Spells (.callee (scope ++ ":" ++ name) :: pieces) ts' := by
  obtain ⟨scopeWord, scopeLexes⟩ := isScope
  obtain ⟨nameWord, nameLexes⟩ := isName
  have split : (scope ++ ":" ++ name).toList ++ tail =
      scope.toList ++ (':' :: (name.toList ++ tail)) := by
    simp only [String.toList_append, List.append_assoc]
    rfl
  have isStop : stop = pos + Text.byteLength scope.toList + 1 + Text.byteLength name.toList := by
    rw [isStop, String.toList_append, String.toList_append, Text.byteLength_append,
      Text.byteLength_append, Nat.add_assoc, Nat.add_assoc, Nat.add_assoc]
    rfl
  have parts : Parts (':' :: (name.toList ++ tail)) := fun d member => by
    cases member
    decide
  have last := (readsAs_of_lexes nameLexes).splits (parts_of_isBlank blank) (fun _ => blank)
    isStop rest
  have whole := (readsAs_of_lexes scopeLexes).splits parts 
    (by rintro ⟨_, same⟩; cases same) rfl (splits_colon last)
  rw [split]
  refine ⟨_, whole, .qualified ⟨_, rfl⟩ rfl ⟨_, rfl⟩ rfl rfl ?_ others⟩
  simp only [String.ofList_toList]

/-- A piece is read where a blank or nothing follows. -/
theorem splits_piece {piece : Piece} (legible : piece.Legible) {tail : List Char}
    (blank : ∀ d ∈ tail.head?, Text.isBlank d = true) {pos stop : Nat}
    (isStop : stop = pos + Text.byteLength piece.text.toList) {pieces : List Piece}
    {ts : List Token} (rest : Splits stop tail ts) (others : Spells pieces ts)
    (apart : ∀ next ∈ ts.head?, stop < next.span.start) :
    ∃ ts', Splits pos (piece.text.toList ++ tail) ts' ∧ Spells (piece :: pieces) ts' := by
  have parts := parts_of_isBlank blank
  cases piece with
  | mark m => exact ⟨_, (readsAs_symbol m).splits parts (fun _ => blank) isStop rest, .mark rfl others⟩
  | name image =>
    obtain ⟨name, lexes⟩ := legible
    refine ⟨_, (readsAs_of_lexes lexes).splits parts (fun _ => blank) isStop rest,
      .name ⟨_, rfl⟩ String.ofList_toList ?_ others⟩
    exact fun next member => Nat.ne_of_lt (apart next member)
  | literal kind image =>
    obtain ⟨token, lexes, isLiteral⟩ := legible
    exact ⟨_, (readsAs_of_lexes lexes).splits parts (fun _ => blank) isStop rest,
      .literal isLiteral String.ofList_toList others⟩
  | callee image =>
    rcases legible with ⟨name, lexes⟩ | ⟨scope, name, isScope, isName, rfl⟩
    · exact ⟨_, (readsAs_of_lexes lexes).splits parts (fun _ => blank) isStop rest,
        .callee ⟨_, rfl⟩ String.ofList_toList others⟩
    · exact splits_qualified isScope isName blank isStop rest others

/-! ## Texts of pieces -/

/-- Pieces, each after a single space. -/
def spaced (pieces : List Piece) : List Char :=
  pieces.flatMap fun piece => ' ' :: piece.text.toList

theorem head_spaced (pieces : List Piece) {trail : List Char}
    (blank : ∀ c ∈ trail, Text.isBlank c = true) :
    ∀ d ∈ (spaced pieces ++ trail).head?, Text.isBlank d = true := by
  intro d member
  cases pieces with
  | nil => exact blank d (List.mem_of_mem_head? member)
  | cons piece pieces =>
    cases member
    rfl

theorem splits_spaced {pieces : List Piece} (legible : ∀ piece ∈ pieces, piece.Legible)
    {trail : List Char} (blank : ∀ c ∈ trail, Text.isBlank c = true) (pos : Nat) :
    ∃ ts, Splits pos (spaced pieces ++ trail) ts ∧ Spells pieces ts ∧
      ∀ next ∈ ts.head?, pos < next.span.start := by
  induction pieces generalizing pos with
  | nil =>
    refine ⟨[], ?_, .nil, fun _ member => by cases member⟩
    have blanks : Splits pos (trail ++ []) [] := Splits.skip blank .nil
    rwa [List.append_nil] at blanks
  | cons piece pieces ih =>
    simp only [List.forall_mem_cons] at legible
    obtain ⟨ts, rest, others, apart⟩ :=
      ih legible.2 (pos + 1 + Text.byteLength piece.text.toList)
    obtain ⟨ts', splits, spells⟩ :=
      splits_piece legible.1 (head_spaced pieces blank) rfl rest others apart
    have split : spaced (piece :: pieces) ++ trail =
        ' ' :: (piece.text.toList ++ (spaced pieces ++ trail)) := by
      simp only [spaced, List.flatMap_cons, List.cons_append, List.append_assoc]
    rw [split]
    refine ⟨ts', .blank rfl splits, spells, fun next member => ?_⟩
    cases ts' with
    | nil => cases member
    | cons first more =>
      cases member
      exact splits.ordered.1

theorem toList_intercalate (piece : Piece) (pieces : List Piece) :
    (" ".intercalate ((piece :: pieces).map text)).toList =
      piece.text.toList ++ spaced pieces := by
  induction pieces generalizing piece with
  | nil => simp [spaced]
  | cons next pieces ih =>
    rw [List.map_cons, List.map_cons, String.intercalate_cons_cons, ← List.map_cons,
      String.toList_append, String.toList_append, ih]
    simp [spaced]

/-- A printed text between blanks is split into the tokens of its pieces. -/
theorem splits_print {piece : Piece} {pieces : List Piece}
    (legible : ∀ p ∈ piece :: pieces, p.Legible) {lead trail : List Char}
    (blankLead : ∀ c ∈ lead, Text.isBlank c = true)
    (blankTrail : ∀ c ∈ trail, Text.isBlank c = true) (pos : Nat) :
    ∃ ts, Splits pos (lead ++ (" ".intercalate ((piece :: pieces).map text)).toList ++ trail) ts ∧
      Spells (piece :: pieces) ts := by
  simp only [List.forall_mem_cons] at legible
  obtain ⟨ts, rest, others, apart⟩ := splits_spaced legible.2 blankTrail
    (pos + Text.byteLength lead + Text.byteLength piece.text.toList)
  obtain ⟨ts', splits, spells⟩ :=
    splits_piece legible.1 (head_spaced pieces blankTrail) rfl rest others apart
  rw [toList_intercalate, List.append_assoc, List.append_assoc]
  exact ⟨ts', splits.skip blankLead, spells⟩

/-! ## Bodies -/

/-- Characters that neither start nor end with a blank, of which there is at least one. -/
def Sharp (chars : List Char) : Prop :=
  (∃ c ∈ chars.head?, Text.isBlank c = false) ∧ ∃ c ∈ chars.getLast?, Text.isBlank c = false

theorem Sharp.append {xs ys : List Char} (first : Sharp xs) (last : Sharp ys) (zs : List Char) :
    Sharp (xs ++ zs ++ ys) := by
  obtain ⟨⟨c, head, visible⟩, _⟩ := first
  obtain ⟨_, ⟨d, tail, visible'⟩⟩ := last
  refine ⟨⟨c, ?_, visible⟩, ⟨d, ?_, visible'⟩⟩
  · simp only [List.head?_append, Option.mem_def.mp head, List.append_assoc]
    rfl
  · simp only [List.getLast?_append, Option.mem_def.mp tail]
    rfl

theorem ReadsAs.sharp {kind : TokenKind} {chars : List Char} (reads : ReadsAs kind chars) :
    Sharp chars := by
  obtain ⟨c, cs, rfl, visible, isLexeme⟩ := reads
  refine ⟨⟨c, rfl, visible⟩, ?_⟩
  rcases List.eq_nil_or_concat cs with rfl | ⟨before, d, rfl⟩
  · exact ⟨c, rfl, visible⟩
  · rw [List.concat_eq_append] at isLexeme ⊢
    rw [← List.cons_append, List.getLast?_concat]
    exact ⟨d, rfl, isLexeme.last_not_blank rfl⟩

theorem sharp_piece {piece : Piece} (legible : piece.Legible) : Sharp piece.text.toList := by
  cases piece with
  | mark m => exact (readsAs_symbol m).sharp
  | name image =>
    obtain ⟨name, lexes⟩ := legible
    exact (readsAs_of_lexes lexes).sharp
  | literal kind image =>
    obtain ⟨token, lexes, _⟩ := legible
    exact (readsAs_of_lexes lexes).sharp
  | callee image =>
    rcases legible with ⟨name, lexes⟩ | ⟨scope, name, ⟨_, isScope⟩, ⟨_, isName⟩, rfl⟩
    · exact (readsAs_of_lexes lexes).sharp
    · simp only [text, String.toList_append]
      exact (readsAs_of_lexes isScope).sharp.append (readsAs_of_lexes isName).sharp _

theorem sharp_spaced {chars : List Char} (sharp : Sharp chars) {pieces : List Piece}
    (legible : ∀ p ∈ pieces, p.Legible) : Sharp (chars ++ spaced pieces) := by
  induction pieces generalizing chars with
  | nil => simpa [spaced] using sharp
  | cons piece pieces ih =>
    simp only [List.forall_mem_cons] at legible
    have longer := ih (sharp.append (sharp_piece legible.1) [' ']) legible.2
    simpa [spaced] using longer

theorem sharp_print {piece : Piece} {pieces : List Piece}
    (legible : ∀ p ∈ piece :: pieces, p.Legible) :
    Sharp (" ".intercalate ((piece :: pieces).map text)).toList := by
  simp only [List.forall_mem_cons] at legible
  rw [toList_intercalate]
  exact sharp_spaced (sharp_piece legible.1) legible.2

theorem dropWhile_of_head {p : Char → Bool} {cs : List Char} (stops : ∃ c ∈ cs.head?, p c = false) :
    cs.dropWhile p = cs := by
  obtain ⟨c, head, visible⟩ := stops
  cases cs with
  | nil => cases head
  | cons c cs =>
    cases head
    simp [visible]

theorem Sharp.head_append {core : List Char} (sharp : Sharp core) (back : List Char) :
    ∃ c ∈ (core ++ back).head?, Text.isBlank c = false := by
  obtain ⟨c, head, visible⟩ := sharp.1
  exact ⟨c, by rw [List.head?_append, Option.mem_def.mp head]; rfl, visible⟩

theorem dropWhile_blanks {lead cs : List Char} (blank : ∀ c ∈ lead, Text.isBlank c = true)
    (visible : ∃ c ∈ cs.head?, Text.isBlank c = false) :
    (lead ++ cs).dropWhile Text.isBlank = cs := by
  rw [List.dropWhile_append_of_pos blank, dropWhile_of_head visible]

theorem takeWhile_blanks {lead cs : List Char} (blank : ∀ c ∈ lead, Text.isBlank c = true)
    (visible : ∃ c ∈ cs.head?, Text.isBlank c = false) :
    (lead ++ cs).takeWhile Text.isBlank = lead := by
  obtain ⟨c, head, visible⟩ := visible
  cases cs with
  | nil => cases head
  | cons c cs =>
    cases head
    rw [List.takeWhile_append_of_pos blank]
    simp [visible]

/-- Trimming takes the blanks around a text away. -/
theorem Sharp.trim {core : List Char} (sharp : Sharp core) {lead back : List Char}
    (blankLead : ∀ c ∈ lead, Text.isBlank c = true)
    (blankBack : ∀ c ∈ back, Text.isBlank c = true) : Text.trim (lead ++ core ++ back) = core := by
  have last : ∃ c ∈ core.reverse.head?, Text.isBlank c = false := by
    rw [List.head?_reverse]
    exact sharp.2
  rw [Text.trim, Text.trimStart, List.append_assoc, dropWhile_blanks blankLead (sharp.head_append back),
    Text.trimEnd, List.reverse_append,
    dropWhile_blanks (fun c member => blankBack c (List.mem_reverse.mp member)) last,
    List.reverse_reverse]

/-- No token starts with the delimiters of a body. -/
theorem not_splits_delimiter {opener : Char} (isOpener : opener = '$' ∨ opener = '#') {pos : Nat}
    {cs : List Char} {ts : List Token} : ¬ Splits pos (opener :: '\x7b' :: cs) ts := by
  have refused : Lexer.lexeme 0 opener ('\x7b' :: cs) = .error (.unexpectedChar opener 0) := by
    rcases isOpener with rfl | rfl <;> rfl
  intro splits
  cases splits with
  | blank blank rest => rcases isOpener with rfl | rfl <;> cases blank
  | lexeme visible isLexeme isStop rest =>
    have clash := Eq.trans (Eq.symm refused) (Lexer.lexeme_eq_ok_iff.mpr isLexeme)
    cases clash

/-- A text that can be read has no delimiters. -/
theorem unwrap?_of_splits {pos : Nat} {cs : List Char} {ts : List Token}
    (splits : Splits pos cs ts) : Body.unwrap? cs = none := by
  unfold Body.unwrap?
  split
  next opener inside =>
    split
    next delimited => exact absurd splits (not_splits_delimiter delimited.1)
    next => rfl
  next => rfl

/-- A text that can be read is the body of itself between blanks. -/
theorem body_of_padded {core lead back : List Char} (sharp : Sharp core)
    (blankLead : ∀ c ∈ lead, Text.isBlank c = true)
    (blankBack : ∀ c ∈ back, Text.isBlank c = true) {pos : Nat} {ts : List Token}
    (splits : Splits pos core ts) :
    Body.of (lead ++ core ++ back) = ⟨Text.byteLength lead, core⟩ := by
  simp only [Body.of, sharp.trim blankLead blankBack, unwrap?_of_splits splits]
  rw [List.append_assoc, takeWhile_blanks blankLead (sharp.head_append back)]

/-- A text that can be read, without blanks around it, is its own body. -/
theorem body_of_sharp {chars : List Char} (sharp : Sharp chars) {pos : Nat} {ts : List Token}
    (splits : Splits pos chars ts) : Body.of chars = ⟨0, chars⟩ := by
  have noBlanks : ∀ c ∈ ([] : List Char), Text.isBlank c = true := by simp
  have body := body_of_padded sharp noBlanks noBlanks splits
  rwa [List.nil_append, List.append_nil] at body

/-- The body of a text between delimiters, with any blanks around them, is what is inside. -/
theorem body_of_delimited {opener : Char} (isOpener : opener = '$' ∨ opener = '#')
    {lead back : List Char} (blankLead : ∀ c ∈ lead, Text.isBlank c = true)
    (blankBack : ∀ c ∈ back, Text.isBlank c = true) (inside : List Char) :
    Body.of (lead ++ (opener :: '\x7b' :: (inside ++ ['\x7d'])) ++ back) =
      ⟨Text.byteLength lead + 2, inside⟩ := by
  have visible : Text.isBlank opener = false := by rcases isOpener with rfl | rfl <;> decide
  have sharp : Sharp (opener :: '\x7b' :: (inside ++ ['\x7d'])) := by
    refine ⟨⟨opener, rfl, visible⟩, '\x7d', ?_, by decide⟩
    rw [← List.cons_append, ← List.cons_append]
    exact List.getLast?_concat
  have delimited : Body.unwrap? (opener :: '\x7b' :: (inside ++ ['\x7d'])) = some inside := by
    simp [Body.unwrap?, isOpener]
  simp only [Body.of, sharp.trim blankLead blankBack, delimited]
  rw [List.append_assoc, takeWhile_blanks blankLead (sharp.head_append back)]

end Piece

end TargetingRules
