import TargetingRules.Proofs.Syntax.Partition
import TargetingRules.Proofs.Syntax.Shape

/-!
# Nested places

A node is read from some stretch of the tokens, and its parts from stretches inside it, one after the
other. The place of a node does not cover the whole stretch: parentheses around it are left out, and an
empty list of parameters reaches up to the arrow after it. So what is carried through a derivation is
where the expressions that have been read lie among the tokens, and that the tokens after them come
later; the place of each new node follows from this and from how it is put together.
-/

namespace TargetingRules

namespace Span

/-- One span lies in another. -/
def Within (inner outer : Span) : Prop :=
  outer.start ≤ inner.start ∧ inner.stop ≤ outer.stop

/-- One span ends before another one starts. -/
def Before (first second : Span) : Prop :=
  first.stop ≤ second.start

theorem Within.trans {first second third : Span} (inner : first.Within second)
    (outer : second.Within third) : first.Within third :=
  ⟨Nat.le_trans outer.1 inner.1, Nat.le_trans inner.2 outer.2⟩

theorem join_of_before {first second : Span} (before : first.Before second)
    (forward : first.start ≤ first.stop) (forward' : second.start ≤ second.stop) :
    first.join second = ⟨first.start, second.stop⟩ := by
  simp only [Before] at before
  rw [join, Nat.min_eq_left (by omega), Nat.max_eq_right (by omega)]

/-- A span covers some spans, and no more than it has to. -/
structure Covers (span : Span) (spans : List Span) : Prop where
  within : ∀ s ∈ spans, s.Within span
  start : ∃ s ∈ spans, s.start = span.start
  stop : ∃ s ∈ spans, s.stop = span.stop

theorem covers_cover_cons (s : Span) (spans : List Span) : (cover (s :: spans)).Covers (s :: spans) := by
  induction spans generalizing s with
  | nil =>
    refine ⟨?_, ⟨s, List.mem_cons_self, rfl⟩, ⟨s, List.mem_cons_self, rfl⟩⟩
    rintro _ (_ | ⟨_, ⟨⟩⟩)
    exact ⟨Nat.le_refl _, Nat.le_refl _⟩
  | cons r spans ih =>
    obtain ⟨within, ⟨first, among, starts⟩, ⟨last, among', stops⟩⟩ := ih (s.join r)
    obtain ⟨joined, others⟩ := List.forall_mem_cons.mp within
    have both : s.Within (s.join r) ∧ r.Within (s.join r) :=
      ⟨⟨Nat.min_le_left _ _, Nat.le_max_left _ _⟩, ⟨Nat.min_le_right _ _, Nat.le_max_right _ _⟩⟩
    refine ⟨?_, ?_, ?_⟩
    · simp only [List.forall_mem_cons]
      exact ⟨both.1.trans joined, both.2.trans joined, others⟩
    · rcases List.mem_cons.mp among with rfl | inside
      · rcases Nat.le_total s.start r.start with less | less
        · exact ⟨s, by simp, (Nat.min_eq_left less).symm.trans starts⟩
        · exact ⟨r, by simp, (Nat.min_eq_right less).symm.trans starts⟩
      · exact ⟨first, by simp [inside], starts⟩
    · rcases List.mem_cons.mp among' with rfl | inside
      · rcases Nat.le_total s.stop r.stop with less | less
        · exact ⟨r, by simp, (Nat.max_eq_right less).symm.trans stops⟩
        · exact ⟨s, by simp, (Nat.max_eq_left less).symm.trans stops⟩
      · exact ⟨last, by simp [inside], stops⟩

theorem covers_cover {spans : List Span} (nonempty : spans ≠ []) : (cover spans).Covers spans := by
  obtain ⟨s, spans, rfl⟩ := List.exists_cons_of_ne_nil nonempty
  exact covers_cover_cons s spans

/-- The cover lies where the spans lie. -/
theorem Covers.within_of_forall {span outer : Span} {spans : List Span} (covers : span.Covers spans)
    (inside : ∀ s ∈ spans, s.Within outer) : span.Within outer := by
  obtain ⟨first, among, starts⟩ := covers.start
  obtain ⟨last, among', stops⟩ := covers.stop
  exact ⟨starts ▸ (inside first among).1, stops ▸ (inside last among').2⟩

end Span

open Grammar
open Lexer (Ordered)

/-! ## Nodes among tokens -/

/-- A node of a kind can be made of a token. -/
inductive Kind.OfToken : Kind → Token → Prop where
  | literal {kind token} (isLiteral : literal? token.kind = some kind) :
      OfToken (.literal kind) token
  | identifier {token} (isName : IsName token) : OfToken .identifier token
  | member {token} (isName : IsName token) : OfToken .member token

namespace Tree

/-- A list of parameters without any. -/
def IsEmptyParameters (t : Tree) : Prop :=
  t.kind = .lambdaParameters ∧ t.children = []

/-- A node starts and stops where tokens do, and its children lie in it one after the other. -/
structure Fits (tokens : List Token) (t : Tree) : Prop where
  nonempty : t.span.start < t.span.stop
  starts : ∃ token ∈ tokens, token.span.start = t.span.start
  stops : ¬ t.IsEmptyParameters → ∃ token ∈ tokens, token.span.stop = t.span.stop
  /-- An empty list of parameters reaches from its parenthesis to the arrow. -/
  arrow : t.IsEmptyParameters → ∃ opening close arrow, [opening, close, arrow] <:+: tokens ∧
    IsMark .openParen opening ∧ IsMark .closeParen close ∧ IsMark .arrow arrow ∧
      t.span = ⟨opening.span.start, arrow.span.start⟩
  contains : ∀ child ∈ t.children, child.span.Within t.span
  apart : t.children.Pairwise fun first second => first.span.Before second.span
  atom : t.kind.isAtom = true → ∃ token ∈ tokens, t.kind.OfToken token ∧ t = leaf t.kind token

theorem Fits.mono {tokens rest : List Token} {t : Tree} (fits : t.Fits rest)
    (suffix : rest <:+ tokens) : t.Fits tokens := by
  have widen {P : Token → Prop} : (∃ token ∈ rest, P token) → ∃ token ∈ tokens, P token :=
    fun ⟨token, member, holds⟩ => ⟨token, suffix.subset member, holds⟩
  refine ⟨fits.nonempty, widen fits.starts, fun closed => widen (fits.stops closed), ?_,
    fits.contains, fits.apart, fun isAtom => widen (fits.atom isAtom)⟩
  intro empty
  obtain ⟨opening, close, arrow, among, marks⟩ := fits.arrow empty
  exact ⟨opening, close, arrow, among.trans suffix.isInfix, marks⟩

/-- Some expressions lie between two places, one after the other. -/
structure InOrder (start : Nat) (ts : List Tree) (stop : Nat) : Prop where
  forward : start ≤ stop
  within : ∀ t ∈ ts, t.span.Within ⟨start, stop⟩
  apart : ts.Pairwise fun first second => first.span.Before second.span

theorem InOrder.append {start middle stop : Nat} {xs ys : List Tree}
    (first : InOrder start xs middle) (second : InOrder middle ys stop) :
    InOrder start (xs ++ ys) stop := by
  have forward := Nat.le_trans first.forward second.forward
  refine ⟨forward, ?_, List.pairwise_append.mpr ⟨first.apart, second.apart, ?_⟩⟩
  · intro t member
    rcases List.mem_append.mp member with inside | inside
    · exact (first.within t inside).trans ⟨Nat.le_refl _, second.forward⟩
    · exact (second.within t inside).trans ⟨first.forward, Nat.le_refl _⟩
  · intro s inside t inside'
    exact Nat.le_trans (first.within s inside).2 (second.within t inside').1

theorem InOrder.nil {start stop : Nat} (forward : start ≤ stop) : InOrder start [] stop :=
  ⟨forward, by simp, .nil⟩

theorem InOrder.single {t : Tree} {start stop : Nat} (within : t.span.Within ⟨start, stop⟩)
    (forward : t.span.start ≤ t.span.stop) : InOrder start [t] stop :=
  ⟨Nat.le_trans within.1 (Nat.le_trans forward within.2), by simpa using within, by simp⟩

end Tree

open TargetingRules.Tree

namespace Grammar

/-- Some expressions are read from the front of tokens in order: they lie there one after the other, the
other tokens come after them, and all their nodes fit the tokens. -/
structure Nests (ts : List Token) (trees : List Tree) (rest : List Token) : Prop where
  suffix : rest <:+ ts
  inOrder : ∀ pos, Ordered pos ts → ∃ stop, InOrder pos trees stop ∧ Ordered stop rest
  fits : ∀ pos, Ordered pos ts → ∀ s ∈ preorderAll trees, s.Fits ts

section Nests

variable {ts middle rest : List Token} {xs ys : List Tree} {token : Token}

theorem Nests.append (first : Nests ts xs middle) (second : Nests middle ys rest) :
    Nests ts (xs ++ ys) rest := by
  refine ⟨second.suffix.trans first.suffix, fun pos ordered => ?_, fun pos ordered => ?_⟩
  · obtain ⟨between, left, ordered'⟩ := first.inOrder pos ordered
    obtain ⟨stop, right, ordered''⟩ := second.inOrder between ordered'
    exact ⟨stop, left.append right, ordered''⟩
  · obtain ⟨between, _, ordered'⟩ := first.inOrder pos ordered
    intro s inside
    rw [preorderAll_eq, List.map_append, List.flatten_append, List.mem_append, ← preorderAll_eq,
      ← preorderAll_eq] at inside
    rcases inside with inside | inside
    · exact first.fits pos ordered s inside
    · exact (second.fits between ordered' s inside).mono first.suffix

theorem Nests.nil (ts : List Token) : Nests ts [] ts :=
  ⟨List.suffix_refl ts, fun pos ordered => ⟨pos, .nil (Nat.le_refl _), ordered⟩,
    fun _ _ _ inside => by cases inside⟩

theorem Nests.skip (token : Token) (rest : List Token) : Nests (token :: rest) [] rest := by
  refine ⟨List.suffix_cons token rest, fun pos ordered => ?_, fun pos ordered s inside => by cases inside⟩
  obtain ⟨starts, forward, ordered'⟩ := ordered
  exact ⟨_, .nil (by omega), ordered'⟩

/-- A token after what was read is read as well. -/
theorem Nests.then (first : Nests ts xs (token :: rest)) : Nests ts xs rest := by
  have both := first.append (.skip token rest)
  rwa [List.append_nil] at both

/-- A token before what was read is read as well. -/
theorem Nests.after (token : Token) (second : Nests ts xs rest) : Nests (token :: ts) xs rest :=
  (Nests.skip token ts).append second

theorem Nests.take {kind : Kind} (ofToken : kind.OfToken token) (rest : List Token) :
    Nests (token :: rest) [leaf kind token] rest := by
  refine ⟨List.suffix_cons token rest, fun pos ordered => ?_, fun pos ordered s inside => ?_⟩
  · obtain ⟨starts, forward, ordered'⟩ := ordered
    exact ⟨_, .single ⟨starts, Nat.le_refl _⟩ (Nat.le_of_lt forward), ordered'⟩
  · obtain rfl : s = leaf kind token := List.mem_singleton.mp inside
    have named : ¬ (leaf kind token).IsEmptyParameters := by
      rintro ⟨isList, _⟩
      cases isList
      cases ofToken
    exact {
      nonempty := ordered.2.1
      starts := ⟨token, List.mem_cons_self, rfl⟩
      stops := fun _ => ⟨token, List.mem_cons_self, rfl⟩
      arrow := fun empty => absurd empty named
      contains := by rintro child ⟨⟩
      apart := .nil
      atom := fun _ => ⟨token, List.mem_cons_self, ofToken, rfl⟩ }

/-- A node over what was read, if its own place fits. -/
theorem Nests.over {kind : Kind} {image : Option String} {span : Span} (suffix : rest <:+ ts)
    (inOrder : ∀ pos, Ordered pos ts → ∃ stop, span.Within ⟨pos, stop⟩ ∧ Ordered stop rest)
    (fits : ∀ pos, Ordered pos ts → (node kind image span xs).Fits ts)
    (below : ∀ pos, Ordered pos ts → ∀ s ∈ preorderAll xs, s.Fits ts) :
    Nests ts [node kind image span xs] rest := by
  refine ⟨suffix, fun pos ordered => ?_, fun pos ordered s inside => ?_⟩
  · obtain ⟨stop, within, ordered'⟩ := inOrder pos ordered
    exact ⟨stop, .single within (Nat.le_of_lt (fits pos ordered).nonempty), ordered'⟩
  · rw [preorderAll, preorderAll, List.append_nil, preorder, List.mem_cons] at inside
    rcases inside with rfl | inside
    · exact fits pos ordered
    · exact below pos ordered s inside

theorem Nests.fits_root (nests : Nests ts xs rest) {pos : Nat} (ordered : Ordered pos ts) :
    ∀ t ∈ xs, t.Fits ts := by
  intro t member
  refine nests.fits pos ordered t ?_
  rw [preorderAll_eq, List.mem_flatten]
  exact ⟨_, List.mem_map_of_mem member, by cases t; exact List.mem_cons_self⟩

/-- A place from the start of a token to the end of a token, around some expressions. -/
structure Encloses (ts : List Token) (range span : Span) (trees : List Tree) : Prop where
  within : span.Within range
  nonempty : span.start < span.stop
  starts : ∃ token ∈ ts, token.span.start = span.start
  stops : ∃ token ∈ ts, token.span.stop = span.stop
  contains : ∀ t ∈ trees, t.span.Within span

/-- A node over what was read, if its place goes around all of it. -/
theorem Nests.operation {kind : Kind} {image : Option String} {span : Span} (inner : Nests ts xs rest)
    (other : kind.isAtom = false) (named : ¬ (node kind image span xs).IsEmptyParameters)
    (encloses : ∀ pos, Ordered pos ts →
      ∃ stop, Encloses ts ⟨pos, stop⟩ span xs ∧ Ordered stop rest) :
    Nests ts [node kind image span xs] rest := by
  refine .over inner.suffix (fun pos ordered => ?_) (fun pos ordered => ?_) inner.fits
  · obtain ⟨stop, place, ordered'⟩ := encloses pos ordered
    exact ⟨stop, place.within, ordered'⟩
  · obtain ⟨_, place, _⟩ := encloses pos ordered
    obtain ⟨_, inOrder, _⟩ := inner.inOrder pos ordered
    exact {
      nonempty := place.nonempty
      starts := place.starts
      stops := fun _ => place.stops
      arrow := fun empty => absurd empty named
      contains := place.contains
      apart := inOrder.apart
      atom := fun isAtom => absurd isAtom (Bool.eq_false_iff.mp other) }

/-- Of expressions in order the last one goes furthest. -/
theorem stop_eq_of_covers {start stop : Nat} {last : Tree} {span : Span}
    (inOrder : InOrder start (xs ++ [last]) stop) (nonempty : last.span.start < last.span.stop)
    (covers : span.Covers ((xs ++ [last]).map Tree.span)) : span.stop = last.span.stop := by
  obtain ⟨s, among, stops⟩ := covers.stop
  obtain ⟨t, member, rfl⟩ := List.mem_map.mp among
  rcases List.mem_append.mp member with inside | inside
  · have before : t.span.Before last.span :=
      (List.pairwise_append.mp inOrder.apart).2.2 t inside last List.mem_cons_self
    have within := covers.within last.span (List.mem_map_of_mem (by simp))
    simp only [Span.Before, Span.Within] at before within
    omega
  · rw [List.mem_singleton.mp inside] at stops
    exact stops.symm

/-- A node spans what was read. -/
theorem Nests.spans {kind : Kind} {last : Tree} (inner : Nests ts (xs ++ [last]) rest)
    (other : kind.isAtom = false) (named : ¬ last.IsEmptyParameters) :
    Nests ts [spanning kind (xs ++ [last])] rest := by
  have nonempty : (xs ++ [last]).map Tree.span ≠ [] := by simp
  have covers := Span.covers_cover nonempty
  refine inner.operation other (fun empty => by simp [IsEmptyParameters, Tree.children] at empty)
    fun pos ordered => ?_
  obtain ⟨stop, inOrder, ordered'⟩ := inner.inOrder pos ordered
  have roots := inner.fits_root ordered
  have lastFits := roots last (by simp)
  have contains := List.forall_mem_map.mp covers.within
  have within := contains last (by simp)
  have stops := stop_eq_of_covers inOrder lastFits.nonempty covers
  obtain ⟨s, among, starts⟩ := covers.start
  obtain ⟨first, member, rfl⟩ := List.mem_map.mp among
  exact ⟨stop, {
    within := covers.within_of_forall (List.forall_mem_map.mpr inOrder.within)
    nonempty := Nat.lt_of_le_of_lt within.1 (Nat.lt_of_lt_of_le lastFits.nonempty within.2)
    starts := starts ▸ (roots first member).starts
    stops := stops ▸ lastFits.stops named
    contains := contains }, ordered'⟩

/-- A node reaches from a token before what was read to a token after it. -/
theorem Nests.between {kind : Kind} {image : Option String} {span : Span} {close : Token}
    (inner : Nests ts xs (close :: rest)) (other : kind.isAtom = false)
    (named : kind ≠ .lambdaParameters)
    (isSpan : ∀ pos, Ordered pos (token :: ts) → span = ⟨token.span.start, close.span.stop⟩) :
    Nests (token :: ts) [node kind image span xs] rest := by
  have all := inner.after token
  refine all.then.operation other (fun empty => named empty.1) fun pos ordered => ?_
  rw [isSpan pos ordered]
  obtain ⟨starts, forward, ordered'⟩ := ordered
  obtain ⟨stop, inOrder, closes, forward', ordered''⟩ := inner.inOrder _ ordered'
  have middle := inOrder.forward
  have ends : stop ≤ close.span.stop := by omega
  exact ⟨close.span.stop, {
    within := ⟨starts, Nat.le_refl _⟩
    nonempty := Nat.lt_of_lt_of_le forward (Nat.le_trans middle ends)
    starts := ⟨token, List.mem_cons_self, rfl⟩
    stops := ⟨close, all.suffix.subset List.mem_cons_self, rfl⟩
    contains := fun t member => (inOrder.within t member).trans ⟨Nat.le_of_lt forward, ends⟩ },
    ordered''⟩

theorem Nests.join_eq {close : Token} (inner : Nests ts xs (close :: rest)) {pos : Nat}
    (ordered : Ordered pos (token :: ts)) :
    token.span.join close.span = ⟨token.span.start, close.span.stop⟩ := by
  obtain ⟨starts, forward, ordered'⟩ := ordered
  obtain ⟨stop, inOrder, closes, forward', _⟩ := inner.inOrder _ ordered'
  have middle := inOrder.forward
  exact Span.join_of_before (Nat.le_trans middle closes) (Nat.le_of_lt forward) (Nat.le_of_lt forward')

/-- A node spans what was read and two tokens around it. -/
theorem Nests.enclose {kind : Kind} {image : Option String} {close : Token}
    (inner : Nests ts xs (close :: rest)) (other : kind.isAtom = false)
    (named : kind ≠ .lambdaParameters) :
    Nests (token :: ts) [node kind image (token.span.join close.span) xs] rest :=
  inner.between other named fun _ ordered => inner.join_eq ordered

/-- A node spans what was read, a token after it, and three tokens before it. -/
theorem Nests.enclose_qualified {kind : Kind} {image : Option String} {scope colon name close : Token}
    (inner : Nests ts xs (close :: rest)) (other : kind.isAtom = false)
    (named : kind ≠ .lambdaParameters) :
    Nests (scope :: colon :: name :: ts)
      [node kind image ((scope.span.join name.span).join close.span) xs] rest := by
  refine ((inner.after name).after colon).between other named fun pos ordered => ?_
  obtain ⟨starts, forward, colons, forwardColon, names, forwardName, ordered'⟩ := ordered
  obtain ⟨stop, inOrder, closes, forwardClose, _⟩ := inner.inOrder _ ordered'
  have middle := inOrder.forward
  have qualified : scope.span.join name.span = ⟨scope.span.start, name.span.stop⟩ := by
    refine Span.join_of_before ?_ (Nat.le_of_lt forward) (Nat.le_of_lt forwardName)
    simp only [Span.Before]
    omega
  rw [qualified]
  refine Span.join_of_before (Nat.le_trans middle closes) ?_ (Nat.le_of_lt forwardClose)
  simp only
  omega

/-- A node reaches from its first part to a token after all of them. -/
theorem Nests.upTo {kind : Kind} {image : Option String} {first : Tree} {close : Token}
    (inner : Nests ts (first :: xs) (close :: rest)) (other : kind.isAtom = false) :
    Nests ts [node kind image (first.span.join close.span) (first :: xs)] rest := by
  refine inner.then.operation other (fun empty => by cases empty.2) fun pos ordered => ?_
  have firstFits := inner.fits_root ordered first List.mem_cons_self
  obtain ⟨stop, inOrder, closes, forward, ordered'⟩ := inner.inOrder pos ordered
  have within := inOrder.within first List.mem_cons_self
  have nonempty := firstFits.nonempty
  have ends : stop ≤ close.span.stop := by omega
  have reaches : first.span.join close.span = ⟨first.span.start, close.span.stop⟩ :=
    Span.join_of_before (Nat.le_trans within.2 closes) (Nat.le_of_lt nonempty) (Nat.le_of_lt forward)
  rw [reaches]
  refine ⟨close.span.stop, {
    within := ⟨within.1, Nat.le_refl _⟩
    nonempty := Nat.lt_of_lt_of_le nonempty (Nat.le_trans within.2 ends)
    starts := firstFits.starts
    stops := ⟨close, inner.suffix.subset List.mem_cons_self, rfl⟩
    contains := fun t member => ⟨?_, Nat.le_trans (inOrder.within t member).2 ends⟩ }, ordered'⟩
  rcases List.mem_cons.mp member with rfl | inside
  · exact Nat.le_refl _
  · exact Nat.le_trans (Nat.le_of_lt nonempty) ((List.pairwise_cons.mp inOrder.apart).1 t inside)

/-- A node reaches from a token to the end of its only part. -/
theorem Nests.before {kind : Kind} {image : Option String} {t : Tree} (inner : Nests ts [t] rest)
    (other : kind.isAtom = false) (named : ¬ t.IsEmptyParameters) :
    Nests (token :: ts) [node kind image (token.span.join t.span) [t]] rest := by
  have all := inner.after token
  refine all.operation other (fun empty => by cases empty.2) fun pos ordered => ?_
  have fits := all.fits_root ordered t List.mem_cons_self
  obtain ⟨starts, forward, ordered'⟩ := ordered
  obtain ⟨stop, inOrder, ordered''⟩ := inner.inOrder _ ordered'
  have within := inOrder.within t List.mem_cons_self
  have before : token.span.start ≤ t.span.start := Nat.le_trans (Nat.le_of_lt forward) within.1
  have reaches : token.span.join t.span = ⟨token.span.start, t.span.stop⟩ :=
    Span.join_of_before within.1 (Nat.le_of_lt forward) (Nat.le_of_lt fits.nonempty)
  rw [reaches]
  exact ⟨stop, {
    within := ⟨starts, within.2⟩
    nonempty := Nat.lt_of_le_of_lt before fits.nonempty
    starts := ⟨token, List.mem_cons_self, rfl⟩
    stops := fits.stops named
    contains := List.forall_mem_singleton.mpr ⟨before, Nat.le_refl _⟩ }, ordered''⟩

theorem Nests.emptyParameters {opening close arrow : Token} (isOpen : IsMark .openParen opening)
    (isClose : IsMark .closeParen close) (isArrow : IsMark .arrow arrow) (rest : List Token) :
    Nests (opening :: close :: arrow :: rest)
      [node .lambdaParameters none ⟨opening.span.start, arrow.span.start⟩ []] rest := by
  have all := ((Nests.skip arrow rest).after close).after opening
  refine .over all.suffix (fun pos ordered => ?_) (fun pos ordered => ?_) all.fits
  · obtain ⟨starts, _, _, _, _, forward, ordered'⟩ := ordered
    exact ⟨_, ⟨starts, Nat.le_of_lt forward⟩, ordered'⟩
  · obtain ⟨_, forward, closes, forward', arrows, _, _⟩ := ordered
    exact {
      nonempty := by
        simp only [Tree.span]
        omega
      starts := ⟨opening, List.mem_cons_self, rfl⟩
      stops := fun named => absurd ⟨rfl, rfl⟩ named
      arrow := fun _ => ⟨opening, close, arrow, List.prefix_append _ rest |>.isInfix, isOpen, isClose,
        isArrow, rfl⟩
      contains := by rintro child ⟨⟩
      apart := .nil
      atom := by rintro ⟨⟩ }

end Nests

/-! ## Derivations -/

theorem Names.nests {ts names rest : List Token} (listed : Names ts names rest) :
    Nests ts (names.map (leaf .identifier)) rest := by
  induction listed with
  | one isName => exact .take (.identifier isName) _
  | @more name comma ts names rest isName isComma others ih =>
    exact (Nests.take (.identifier isName) _).append (ih.after comma)

theorem named_leaf {kind : Kind} (isAtom : kind.isAtom = true) (token : Token) :
    ¬ (leaf kind token).IsEmptyParameters := by
  rintro ⟨isList, _⟩
  cases isList
  cases isAtom

theorem Parameters.nests {ts : List Token} {params : Tree} {rest : List Token}
    (head : Parameters ts params rest) : Nests ts [params] rest := by
  cases head with
  | @name name arrow rest isName isArrow =>
    have only : Nests (name :: arrow :: rest) ([] ++ [leaf .identifier name]) rest :=
      (Nests.take (.identifier isName) _).then
    exact only.spans rfl (named_leaf rfl name)
  | none isOpen isClose isArrow => exact .emptyParameters isOpen isClose isArrow rest
  | @names opening _ names _ _ _ isOpen listed isClose isArrow =>
    have all := listed.nests.then.then.after opening
    obtain ⟨front, last, rfl⟩ := (List.eq_nil_or_concat' names).resolve_left listed.ne_nil
    rw [List.map_append] at all ⊢
    exact all.spans rfl (named_leaf rfl last)

/-- No expression is a list of parameters. -/
theorem named_of_formed {P : String → Prop} {L : LiteralKind → String → Prop} {t : Tree}
    (formed : Formed P L t) : ¬ t.IsEmptyParameters := by
  refine formed.node_induction (Q := fun t => ¬ t.IsEmptyParameters) ?atom ?operation ?lambda
  case atom =>
    rintro kind image span isAtom ⟨isList, _⟩
    cases isList
    cases isAtom
  case operation =>
    rintro kind image span children isOperation _ _ ⟨isList, _⟩
    exact (Kind.isOperation_iff.mp isOperation).2 isList
  case lambda =>
    rintro span listSpan params body _ _ ⟨isList, _⟩
    cases isList

theorem supplies_trivial (ts : List Token) : Supplies (fun _ => True) (fun _ _ => True) ts :=
  ⟨fun _ _ _ => trivial, fun _ _ _ _ => trivial⟩

theorem Derives.named {n : Nat} {ℓ : Level} {ts : List Token} {t : Tree} {rest : List Token}
    (derived : Derives n ℓ ts t rest) : ¬ t.IsEmptyParameters :=
  named_of_formed (derived.formed (supplies_trivial ts))

theorem Series.named {n : Nat} {ℓ : Level} {mark : Mark} {ts : List Token} {trees : List Tree}
    {rest : List Token} (listed : Series n ℓ mark ts trees rest) :
    ∀ t ∈ trees, ¬ t.IsEmptyParameters :=
  fun t member => named_of_formed (listed.formed (supplies_trivial ts) t member)

mutual

/-- The nodes of an expression fit the tokens that it is derived from. -/
theorem Derives.nests {n : Nat} {ℓ : Level} {ts : List Token} {t : Tree} {rest : List Token} :
    Derives n ℓ ts t rest → Nests ts [t] rest
  | .tighter inner => inner.nests
  | .assign left _ right => (left.nests.then.append right.nests).spans rfl right.named
  | .lambda head inner => (head.nests.append inner.nests).spans rfl inner.named
  | .ternary first _ second _ third =>
    ((first.nests.then.append second.nests.then).append third.nests).spans rfl third.named
  | @Derives.flat _ _ _ _ _ trees _ listed operands several => by
    have nonempty : trees ≠ [] := by
      rintro rfl
      cases several
    have all := operands.nests
    have named := operands.named
    obtain ⟨front, last, rfl⟩ := (List.eq_nil_or_concat' trees).resolve_left nonempty
    exact all.spans (isAtom_of_mem_flatOperators listed) (named last (by simp))
  | .binary listed first _ second =>
    (first.nests.then.append second.nests).spans (isAtom_of_mem_leftOperators listed) second.named
  | .prefixed listed _ inner => inner.nests.before (isAtom_of_mem_prefixOperators listed) inner.named
  | @Derives.property _ _ _ _ name _ inner _ isName =>
    (inner.nests.then.append (.take (.member isName) _)).spans rfl (named_leaf rfl name)
  | .method inner _ isName _ list =>
    ((inner.nests.then.append (.take (.member isName) _)).append (list.nests.enclose rfl (by decide))).spans
      rfl fun empty => by cases empty.1
  | .index inner _ nested _ => (inner.nests.then.append nested.nests).upTo rfl
  | .literal isLiteral => .take (.literal isLiteral) _
  | .identifier isName _ => .take (.identifier isName) _
  | .call _ _ list => (list.nests.after _).enclose rfl (by decide)
  | .qualifiedCall _ _ list => (list.nests.after _).enclose_qualified rfl (by decide)
  | .parentheses _ inner _ => inner.nests.then.after _
  | .list _ list => list.nests.enclose rfl (by decide)

theorem Series.nests {n : Nat} {ℓ : Level} {mark : Mark} {ts : List Token} {trees : List Tree}
    {rest : List Token} : Series n ℓ mark ts trees rest → Nests ts trees rest
  | .one last => last.nests
  | .more first _ others => first.nests.then.append others.nests

theorem Items.nests {n : Nat} {mark : Mark} {ts : List Token} {trees : List Tree}
    {close : Token} {rest : List Token} :
    Items n mark ts trees close rest → Nests ts trees (close :: rest)
  | .none _ => .nil _
  | .some listed _ => listed.nests

end

end Grammar

end TargetingRules
