import TargetingRules.Proofs.Syntax.Soundness

/-!
# What can stand before and after an expression

A reader goes on for as long as the next token lets it, so what it reads depends on that token. A
mark goes on with expressions of one level at most; an expression of a tighter level ends before
it. The first tokens of expressions, and the tokens after the names and the parentheses that they
start with, tell lambdas from everything else.
-/

namespace TargetingRules.Grammar

/-- The place of a level in the order from the loosest to the tightest. -/
def Level.rank : Level → Nat :=
  Level.ctorIdx

theorem Level.rank_le_tighter (ℓ : Level) : ℓ.rank ≤ ℓ.tighter.rank := by
  cases ℓ <;> decide

theorem Level.rank_le_primary (ℓ : Level) : ℓ.rank ≤ Level.primary.rank := by
  cases ℓ <;> decide

theorem Level.rank_tighter {ℓ : Level} (loose : ℓ.rank < Level.primary.rank) :
    ℓ.tighter.rank = ℓ.rank + 1 := by
  cases ℓ <;> first | rfl | exact absurd loose (Nat.lt_irrefl _)

theorem Level.eq_of_rank {ℓ ℓ' : Level} (same : ℓ.rank = ℓ'.rank) : ℓ = ℓ' := by
  cases ℓ <;> cases ℓ' <;> first | rfl | cases same

/-- An expression of a level is one of every looser level. -/
theorem Derives.loosen {n : Nat} {ℓ ℓ' : Level} {ts : List Token} {t : Tree}
    {rest : List Token} (derived : Derives n ℓ' ts t rest) (looser : ℓ.rank ≤ ℓ'.rank) :
    Derives n ℓ ts t rest := by
  obtain ⟨k, apart⟩ := Nat.exists_eq_add_of_le looser
  induction k generalizing ℓ with
  | zero => rwa [← Level.eq_of_rank apart]
  | succ k ih =>
    have step := Level.rank_tighter (ℓ := ℓ) (by have := ℓ'.rank_le_primary; omega)
    exact .tighter (ih (by omega) (by omega))

/-- The level whose expressions a mark goes on with. -/
def continues? : Mark → Option Level
  | .assign => some .assignment
  | .arrow => some .lambda
  | .question => some .ternary
  | .or => some .disjunction
  | .and => some .conjunction
  | .equal | .notEqual => some .equality
  | .less | .greater | .atMost | .atLeast => some .relation
  | .plusAssign => some .concatenation
  | .plus | .minus => some .sum
  | .star | .slash | .percent => some .product
  | .dot | .openBracket => some .access
  | .openParen => some .primary
  | _ => none

/-- A mark goes on with no expression of a level. -/
def EndsBefore (ℓ : Level) (mark : Mark) : Prop :=
  ∀ level ∈ continues? mark, level.rank < ℓ.rank

instance (ℓ : Level) (mark : Mark) : Decidable (EndsBefore ℓ mark) :=
  inferInstanceAs (Decidable (∀ level ∈ continues? mark, level.rank < ℓ.rank))

/-- An expression of a level cannot go on with the tokens after it. -/
def Ends (ℓ : Level) (rest : List Token) : Prop :=
  ∀ token ∈ rest.head?, ∀ mark, IsMark mark token → EndsBefore ℓ mark

theorem ends_nil (ℓ : Level) : Ends ℓ [] := by
  intro token member
  cases member

theorem IsMark.unique {token : Token} {mark other : Mark} (first : IsMark mark token)
    (second : IsMark other token) : mark = other := by
  have same := Eq.trans (Eq.symm first) second
  exact TokenKind.mark.inj same

theorem IsMark.not_isName {token : Token} {mark : Mark} (isMark : IsMark mark token) :
    ¬ IsName token := by
  rintro ⟨name, isName⟩
  cases Eq.trans (Eq.symm isMark) isName

theorem ends_cons {ℓ : Level} {token : Token} {mark : Mark} (isMark : IsMark mark token)
    (before : EndsBefore ℓ mark) (rest : List Token) : Ends ℓ (token :: rest) := by
  intro token' member mark' isMark'
  cases member
  rwa [isMark'.unique isMark]

theorem Ends.endsBefore {ℓ : Level} {token : Token} {rest : List Token}
    (ends : Ends ℓ (token :: rest)) {mark : Mark} (isMark : IsMark mark token) :
    EndsBefore ℓ mark :=
  ends token rfl mark isMark

theorem EndsBefore.mono {ℓ ℓ' : Level} {mark : Mark} (before : EndsBefore ℓ mark)
    (looser : ℓ.rank ≤ ℓ'.rank) : EndsBefore ℓ' mark :=
  fun level member => Nat.lt_of_lt_of_le (before level member) looser

theorem Ends.mono {ℓ ℓ' : Level} {rest : List Token} (ends : Ends ℓ rest)
    (looser : ℓ.rank ≤ ℓ'.rank) : Ends ℓ' rest :=
  fun token member mark isMark => (ends token member mark isMark).mono looser

theorem continues?_of_mem_leftOperators {ℓ : Level} {mark : Mark} {kind : Kind}
    (listed : (mark, kind) ∈ ℓ.leftOperators) : continues? mark = some ℓ := by
  have all : ∀ entry ∈ ℓ.leftOperators, continues? entry.1 = some ℓ := by cases ℓ <;> decide
  exact all _ listed

theorem continues?_of_mem_flatOperators {ℓ : Level} {mark : Mark} {kind : Kind}
    (listed : (mark, kind) ∈ ℓ.flatOperators) : continues? mark = some ℓ := by
  have all : ∀ entry ∈ ℓ.flatOperators, continues? entry.1 = some ℓ := by cases ℓ <;> decide
  exact all _ listed

/-! ## The first tokens of expressions -/

/-- The marks that an expression of a level can start with. -/
def openers : Level → List Mark
  | .access | .primary => [.openParen, .openBracket]
  | _ => [.minus, .not, .empty, .openParen, .openBracket]

/-- The first token, if it is a mark, can start an expression of a level. -/
def Opens (ℓ : Level) (ts : List Token) : Prop :=
  ∃ token rest, ts = token :: rest ∧ ∀ mark, IsMark mark token → mark ∈ openers ℓ

theorem openers_tighter_subset (ℓ : Level) : openers ℓ.tighter ⊆ openers ℓ := by
  cases ℓ <;> decide

theorem Opens.loosen {ℓ : Level} {ts : List Token} (opens : Opens ℓ.tighter ts) : Opens ℓ ts := by
  obtain ⟨token, rest, rfl, first⟩ := opens
  exact ⟨token, rest, rfl, fun mark isMark => openers_tighter_subset ℓ (first mark isMark)⟩

theorem opens_of_mark {ℓ : Level} {token : Token} {mark : Mark} (isMark : IsMark mark token)
    (listed : mark ∈ openers ℓ) (rest : List Token) : Opens ℓ (token :: rest) :=
  ⟨token, rest, rfl, fun _ isOther => isMark.unique isOther ▸ listed⟩

theorem opens_of_isName {ℓ : Level} {token : Token} (isName : IsName token) (rest : List Token) :
    Opens ℓ (token :: rest) :=
  ⟨token, rest, rfl, fun _ isMark => absurd isName isMark.not_isName⟩

theorem opens_of_literal {ℓ : Level} {token : Token} {kind : LiteralKind}
    (isLiteral : literal? token.kind = some kind) (rest : List Token) : Opens ℓ (token :: rest) := by
  refine ⟨token, rest, rfl, fun mark isMark => ?_⟩
  rw [isMark] at isLiteral
  cases isLiteral

theorem Parameters.opens {ts : List Token} {params : Tree} {rest : List Token}
    (head : Parameters ts params rest) : Opens .lambda ts := by
  cases head with
  | name isName isArrow => exact opens_of_isName isName _
  | none isOpen isClose isArrow => exact opens_of_mark isOpen (by decide) _
  | names isOpen listed isClose isArrow => exact opens_of_mark isOpen (by decide) _

mutual

theorem Derives.opens {n : Nat} {ℓ : Level} {ts : List Token} {t : Tree} {rest : List Token} :
    Derives n ℓ ts t rest → Opens ℓ ts
  | .tighter inner => inner.opens.loosen
  | .assign left _ _ => left.opens
  | .lambda head _ => head.opens
  | .ternary first _ _ _ _ => first.opens
  | .flat _ operands _ => operands.opens.loosen
  | .binary _ first _ _ => first.opens
  | .prefixed listed isOp _ => by
    refine opens_of_mark isOp ?_ _
    simp only [prefixOperators, List.mem_cons, Prod.mk.injEq, List.not_mem_nil, or_false] at listed
    rcases listed with ⟨rfl, _⟩ | ⟨rfl, _⟩ | ⟨rfl, _⟩ <;> decide
  | .property inner _ _ => inner.opens
  | .method inner _ _ _ _ => inner.opens
  | .index inner _ _ _ => inner.opens
  | .literal isLiteral => opens_of_literal isLiteral _
  | .identifier isName _ => opens_of_isName isName _
  | .call isName _ _ => opens_of_isName isName _
  | .qualifiedCall isName _ _ => opens_of_isName isName _
  | .parentheses isOpen _ _ => opens_of_mark isOpen (by decide) _
  | .list isOpen _ => opens_of_mark isOpen (by decide) _

theorem Series.opens {n : Nat} {ℓ : Level} {mark : Mark} {ts : List Token} {trees : List Tree}
    {rest : List Token} : Series n ℓ mark ts trees rest → Opens ℓ ts
  | .one last => last.opens
  | .more first _ _ => first.opens

end

/-! ## Names and parentheses that could start a lambda -/

theorem EndsBefore.ne_of_continues {ℓ : Level} {mark other : Mark} (before : EndsBefore ℓ mark)
    (goesOn : continues? other = some ℓ) : mark ≠ other := by
  rintro rfl
  exact Nat.lt_irrefl _ (before ℓ goesOn)

mutual

/-- After a name at the front, a mark that no expression of the level goes on with is left over. -/
theorem Derives.rest_of_name {name op : Token} {more : List Token} {mark : Mark}
    (isName : IsName name) (isOp : IsMark mark op) (noColon : mark ≠ .colon) {n : Nat} {ℓ : Level}
    {ts : List Token} {t : Tree} {rest : List Token} :
    Derives n ℓ ts t rest → ts = name :: op :: more → EndsBefore ℓ mark → rest = op :: more
  | .tighter inner, front, before =>
    inner.rest_of_name isName isOp noColon front (before.mono (Level.rank_le_tighter _))
  | .assign left isAssign _, front, before => by
    cases left.rest_of_name isName isOp noColon front (before.mono (by decide))
    exact absurd (isOp.unique isAssign) (before.ne_of_continues rfl)
  | .lambda head _, front, before => by
    cases head with
    | name _ isArrow =>
      cases front
      exact absurd (isOp.unique isArrow) (before.ne_of_continues rfl)
    | none isOpen _ _ =>
      cases front
      exact absurd isName isOpen.not_isName
    | names isOpen _ _ _ =>
      cases front
      exact absurd isName isOpen.not_isName
  | .ternary first isQuestion _ _ _, front, before => by
    cases first.rest_of_name isName isOp noColon front (before.mono (by decide))
    exact absurd (isOp.unique isQuestion) (before.ne_of_continues rfl)
  | .flat listed operands several, front, before => by
    have single := operands.length_of_name isName isOp noColon front
      (before.mono (Level.rank_le_tighter _))
      (before.ne_of_continues (continues?_of_mem_flatOperators listed))
    omega
  | .binary listed first isBinary _, front, before => by
    cases first.rest_of_name isName isOp noColon front before
    exact absurd (isOp.unique isBinary)
      (before.ne_of_continues (continues?_of_mem_leftOperators listed))
  | .prefixed _ isPrefix _, front, _ => by
    cases front
    exact absurd isName isPrefix.not_isName
  | .property inner isDot _, front, before => by
    cases inner.rest_of_name isName isOp noColon front before
    exact absurd (isOp.unique isDot) (before.ne_of_continues rfl)
  | .method inner isDot _ _ _, front, before => by
    cases inner.rest_of_name isName isOp noColon front before
    exact absurd (isOp.unique isDot) (before.ne_of_continues rfl)
  | .index inner isOpen _ _, front, before => by
    cases inner.rest_of_name isName isOp noColon front before
    exact absurd (isOp.unique isOpen) (before.ne_of_continues rfl)
  | .literal _, front, _ => by
    cases front
    rfl
  | .identifier _ _, front, _ => by
    cases front
    rfl
  | .call _ isOpen _, front, before => by
    cases front
    exact absurd (isOp.unique isOpen) (before.ne_of_continues rfl)
  | .qualifiedCall _ qualified _, front, _ => by
    cases front
    exact absurd (isOp.unique qualified.1) noColon
  | .parentheses isOpen _ _, front, _ => by
    cases front
    exact absurd isName isOpen.not_isName
  | .list isOpen _, front, _ => by
    cases front
    exact absurd isName isOpen.not_isName

theorem Series.length_of_name {name op : Token} {more : List Token} {mark : Mark}
    (isName : IsName name) (isOp : IsMark mark op) (noColon : mark ≠ .colon) {n : Nat} {ℓ : Level}
    {separator : Mark} {ts : List Token} {trees : List Tree} {rest : List Token} :
    Series n ℓ separator ts trees rest → ts = name :: op :: more → EndsBefore ℓ mark →
      mark ≠ separator → trees.length = 1
  | .one _, _, _, _ => rfl
  | .more first isSeparator _, front, before, differs => by
    cases first.rest_of_name isName isOp noColon front before
    exact absurd (isOp.unique isSeparator) differs

end

/-- The tokens after an opening parenthesis are an expression and a closing parenthesis, and then
either `rest` or a mark other than an arrow. -/
def ClosesBefore (more rest : List Token) : Prop :=
  ∃ n inside close after, Derives n .assignment more inside (close :: after) ∧
    IsMark .closeParen close ∧
    (after = rest ∨ ∃ op later mark, after = op :: later ∧ IsMark mark op ∧ mark ≠ .arrow)

theorem ClosesBefore.goOn {more middle rest : List Token} {op : Token} {mark : Mark}
    (closes : ClosesBefore more (op :: middle)) (isOp : IsMark mark op) (noArrow : mark ≠ .arrow) :
    ClosesBefore more rest := by
  obtain ⟨n, inside, close, after, derived, isClose, rfl | ahead⟩ := closes
  · exact ⟨n, inside, close, _, derived, isClose, .inr ⟨op, middle, mark, rfl, isOp, noArrow⟩⟩
  · exact ⟨n, inside, close, after, derived, isClose, .inr ahead⟩

theorem ne_arrow_of_below {ℓ : Level} {mark : Mark} (below : Level.ternary.rank ≤ ℓ.rank)
    (goesOn : continues? mark = some ℓ) : mark ≠ .arrow := by
  rintro rfl
  cases goesOn
  exact absurd below (by decide)

mutual

/-- An expression below the level of lambdas that starts with a parenthesis starts with an
expression in parentheses. -/
theorem Derives.closesBefore {opening : Token} {more : List Token}
    (isOpen : IsMark .openParen opening) {n : Nat} {ℓ : Level} {ts : List Token} {t : Tree}
    {rest : List Token} :
    Derives n ℓ ts t rest → ts = opening :: more → Level.ternary.rank ≤ ℓ.rank →
      ClosesBefore more rest
  | .tighter inner, front, below =>
    inner.closesBefore isOpen front (Nat.le_trans below (Level.rank_le_tighter _))
  | .assign _ _ _, _, below => absurd below (by decide)
  | .lambda _ _, _, below => absurd below (by decide)
  | .ternary first isQuestion _ _ _, front, _ =>
    (first.closesBefore isOpen front (by decide)).goOn isQuestion (by decide)
  | .flat listed operands _, front, below =>
    operands.closesBefore isOpen front (Nat.le_trans below (Level.rank_le_tighter _))
      (ne_arrow_of_below below (continues?_of_mem_flatOperators listed))
  | .binary listed first isBinary _, front, below =>
    (first.closesBefore isOpen front below).goOn isBinary
      (ne_arrow_of_below below (continues?_of_mem_leftOperators listed))
  | .prefixed listed isPrefix _, front, _ => by
    cases front
    cases isPrefix.unique isOpen
    simp [prefixOperators] at listed
  | .property inner isDot _, front, below =>
    (inner.closesBefore isOpen front below).goOn isDot (by decide)
  | .method inner isDot _ _ _, front, below =>
    (inner.closesBefore isOpen front below).goOn isDot (by decide)
  | .index inner isBracket _ _, front, below =>
    (inner.closesBefore isOpen front below).goOn isBracket (by decide)
  | .literal isLiteral, front, _ => by
    cases front
    rw [isOpen] at isLiteral
    cases isLiteral
  | .identifier isName _, front, _ => by
    cases front
    exact absurd isName isOpen.not_isName
  | .call isName _ _, front, _ => by
    cases front
    exact absurd isName isOpen.not_isName
  | .qualifiedCall isName _ _, front, _ => by
    cases front
    exact absurd isName isOpen.not_isName
  | .parentheses _ inner isClose, front, _ => by
    cases front
    exact ⟨_, _, _, _, inner, isClose, .inl rfl⟩
  | .list isBracket _, front, _ => by
    cases front
    cases isBracket.unique isOpen

theorem Series.closesBefore {opening : Token} {more : List Token}
    (isOpen : IsMark .openParen opening) {n : Nat} {ℓ : Level} {separator : Mark} {ts : List Token}
    {trees : List Tree} {rest : List Token} :
    Series n ℓ separator ts trees rest → ts = opening :: more → Level.ternary.rank ≤ ℓ.rank →
      separator ≠ .arrow → ClosesBefore more rest
  | .one last, front, below, _ => last.closesBefore isOpen front below
  | .more first isSeparator _, front, below, noArrow =>
    (first.closesBefore isOpen front below).goOn isSeparator noArrow

end

/-- What can be read as a ternary is not the start of a lambda, unless an arrow comes after it. -/
theorem Derives.not_parameters {n : Nat} {ts : List Token} {t : Tree} {rest : List Token}
    (derived : Derives n .ternary ts t rest) (ends : Ends .lambda rest) {params : Tree}
    {after : List Token} : ¬ Parameters ts params after := by
  intro head
  cases head with
  | name isName isArrow =>
    cases derived.rest_of_name isName isArrow (by decide) rfl (by decide)
    exact absurd (ends.endsBefore isArrow) (by decide)
  | none isOpen isClose isArrow =>
    obtain ⟨_, _, _, _, inside, _⟩ := derived.closesBefore isOpen rfl (by decide)
    obtain ⟨_, _, front, first⟩ := inside.opens
    cases front
    exact absurd (first _ isClose) (by decide)
  | names isOpen listed isClose isArrow =>
    have closes := derived.closesBefore isOpen rfl (by decide)
    cases listed with
    | one isName =>
      obtain ⟨_, _, _, _, inside, _, rfl | ⟨_, _, _, rfl, isOp, noArrow⟩⟩ := closes
      · cases inside.rest_of_name isName isClose (by decide) rfl (by decide)
        exact absurd (ends.endsBefore isArrow) (by decide)
      · cases inside.rest_of_name isName isClose (by decide) rfl (by decide)
        exact noArrow (isOp.unique isArrow)
    | more isName isComma others =>
      obtain ⟨_, _, _, _, inside, isClose', _⟩ := closes
      cases inside.rest_of_name isName isComma (by decide) rfl (by decide)
      cases isComma.unique isClose'

end TargetingRules.Grammar
