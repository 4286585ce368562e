import Mathlib.Data.List.Basic
import TargetingRules.Proofs.Syntax.Mentions
import TargetingRules.Proofs.Syntax.Relocation

/-!
# Readers in step

Two token lists correspond if they go on with tokens of the same kinds, with the same texts where these
are names or literals, and with the same names before a colon that are the namespace of a function; what
is seen of their places is the same, too. On corresponding lists the readers of the grammar are in step:
both succeed and leave corresponding lists, with one expression at two places, or both fail, with one
error at two places. Failures are followed as well as successes, so nothing is said of the grammar here,
and two texts need not be of one length.
-/

namespace TargetingRules

/-- A parse error without its place: its variant, with what was found and what was expected. -/
def ParseError.unplaced : ParseError → ParseError
  | .unexpectedChar c _ => .unexpectedChar c 0
  | .unterminatedString _ => .unterminatedString 0
  | .invalidNumber text _ => .invalidNumber text 0
  | .unexpectedToken found expected _ => .unexpectedToken found expected 0
  | .trailingInput found _ => .trailingInput found 0
  | .tooDeep _ => .tooDeep 0
  | .empty => .empty
  | .unexpectedEnd expected => .unexpectedEnd expected
  | .tree fault => .tree fault

/-- Two computations both succeed, with results that are related, or both fail, with one error but for
its place. -/
inductive InStep {α β : Type} (Related : α → β → Prop) :
    Except ParseError α → Except ParseError β → Prop where
  | ok {a b} (related : Related a b) : InStep Related (.ok a) (.ok b)
  | error {e e'} (same : e.unplaced = e'.unplaced) : InStep Related (.error e) (.error e')

section InStep

variable {α β γ δ : Type} {R : α → β → Prop} {S : γ → δ → Prop}

theorem InStep.bind {x : Except ParseError α} {y : Except ParseError β}
    {next : α → Except ParseError γ} {next' : β → Except ParseError δ} (first : InStep R x y)
    (second : ∀ a b, R a b → InStep S (next a) (next' b)) : InStep S (x >>= next) (y >>= next') := by
  cases first with
  | ok related => exact second _ _ related
  | error same => exact .error same

theorem InStep.map {x : Except ParseError α} {y : Except ParseError β} {f : α → γ} {g : β → δ}
    (first : InStep R x y) (second : ∀ a b, R a b → S (f a) (g b)) :
    InStep S (x.map f) (y.map g) := by
  cases first with
  | ok related => exact .ok (second _ _ related)
  | error same => exact .error same

theorem InStep.mono {x : Except ParseError α} {y : Except ParseError β} {R' : α → β → Prop}
    (step : InStep R x y) (weaker : ∀ a b, R a b → R' a b) : InStep R' x y := by
  cases step with
  | ok related => exact .ok (weaker _ _ related)
  | error same => exact .error same

theorem InStep.exists_ok {a : α} {y : Except ParseError β} (step : InStep R (.ok a) y) :
    ∃ b, y = .ok b ∧ R a b := by
  cases step with
  | ok related => exact ⟨_, rfl, related⟩

/-- What is found on one side is found on the other, and so is nothing. -/
theorem Option.rel_of_forward {x : Option α} {y : Option β}
    (forward : ∀ a, x = some a → ∃ b, y = some b ∧ R a b) (backward : ∀ b, y = some b → x ≠ none) :
    Option.Rel R x y := by
  cases x with
  | none =>
    cases y with
    | none => exact .none
    | some b => exact absurd rfl (backward b rfl)
  | some a =>
    obtain ⟨b, rfl, related⟩ := forward a rfl
    exact .some related

end InStep

namespace Grammar

/-! ## Tokens -/

/-- Two tokens say the same, in the same characters if they are operands, and look the same. -/
structure Matches (f g : Span → Span) (token token' : Token) : Prop where
  kind : token.kind = token'.kind
  text : token.isOperand = true → token.text = token'.text
  place : f token.span = g token'.span

/-- Two lists go on with tokens that match, and with names that are the namespace of a function in both
lists or in neither. -/
inductive Corresponds (f g : Span → Span) : List Token → List Token → Prop where
  | nil : Corresponds f g [] []
  | cons {token token' ts us} (first : Matches f g token token')
      (qualified : IsName token → (OpensQualified token ts ↔ OpensQualified token' us))
      (others : Corresponds f g ts us) : Corresponds f g (token :: ts) (token' :: us)

variable {f g : Span → Span}

namespace Matches

variable {token token' : Token}

theorem isMark (same : Matches f g token token') {mark : Mark} (isMark : IsMark mark token) :
    IsMark mark token' :=
  same.kind.symm.trans isMark

theorem isName (same : Matches f g token token') (isName : IsName token) : IsName token' :=
  isName.imp fun _ kind => same.kind.symm.trans kind

theorem symm (same : Matches f g token token') : Matches g f token' token where
  kind := same.kind.symm
  text isOperand := by
    rw [Token.isOperand, ← same.kind] at isOperand
    exact (same.text isOperand).symm
  place := same.place.symm

theorem leaf (same : Matches f g token token') (isOperand : token.isOperand = true) (kind : Kind) :
    (leaf kind token).relocate f = (leaf kind token').relocate g := by
  simp only [Grammar.leaf, Tree.relocate, same.text isOperand, same.place, Tree.relocateAll]

end Matches

namespace Corresponds

variable {ts us : List Token} {token : Token}

theorem symm (related : Corresponds f g ts us) : Corresponds g f us ts := by
  induction related with
  | nil => exact .nil
  | cons first qualified _ ih =>
    exact .cons first.symm (fun isName => (qualified (first.symm.isName isName)).symm) ih

theorem split (related : Corresponds f g (token :: ts) us) :
    ∃ token' us', us = token' :: us' ∧ Matches f g token token' ∧ Corresponds f g ts us' := by
  cases related with
  | cons first _ others => exact ⟨_, _, rfl, first, others⟩

theorem mark (related : Corresponds f g (token :: ts) us) {mark : Mark}
    (isMark : IsMark mark token) :
    ∃ token' us', us = token' :: us' ∧ IsMark mark token' ∧ Matches f g token token' ∧
      Corresponds f g ts us' := by
  obtain ⟨token', us', rfl, same, others⟩ := related.split
  exact ⟨token', us', rfl, same.isMark isMark, same, others⟩

theorem name (related : Corresponds f g (token :: ts) us) (isName : IsName token) :
    ∃ token' us', us = token' :: us' ∧ IsName token' ∧ token.text = token'.text ∧
      Matches f g token token' ∧ Corresponds f g ts us' := by
  obtain ⟨token', us', rfl, same, others⟩ := related.split
  exact ⟨token', us', rfl, same.isName isName, same.text isName.isOperand, same, others⟩

theorem unexpected (related : Corresponds f g ts us) (expected : Expectation) :
    (Grammar.unexpected expected ts).unplaced = (Grammar.unexpected expected us).unplaced := by
  cases related with
  | nil => rfl
  | cons first _ _ => simp only [Grammar.unexpected, ParseError.unplaced, first.kind]

end Corresponds

section Reading

variable {ts us : List Token}

/-- One token was read on each side. -/
structure SameTaken (f g : Span → Span) (taken : Taken ts) (taken' : Taken us) : Prop where
  token : Matches f g taken.token taken'.token
  rest : Corresponds f g taken.rest taken'.rest

/-- One expression was read on each side. -/
structure SameParsed (f g : Span → Span) (parsed : Parsed ts) (parsed' : Parsed us) : Prop where
  tree : parsed.tree.relocate f = parsed'.tree.relocate g
  rest : Corresponds f g parsed.rest parsed'.rest

/-- The same expressions were read on each side, at least one. -/
structure SameSeveral (f g : Span → Span) (several : Several ts) (several' : Several us) : Prop where
  nonempty : several.trees ≠ []
  trees : Tree.relocateAll f several.trees = Tree.relocateAll g several'.trees
  rest : Corresponds f g several.rest several'.rest

/-- The same expressions were read on each side, if any, and what closes them. -/
structure SameClosed (f g : Span → Span) (closed : Closed ts) (closed' : Closed us) : Prop where
  trees : Tree.relocateAll f closed.trees = Tree.relocateAll g closed'.trees
  rest : Corresponds f g closed.rest closed'.rest
  close : Matches f g closed.close closed'.close

/-- One callee was read on each side. -/
structure SameCallee (f g : Span → Span) (callee : Callee ts) (callee' : Callee us) : Prop where
  image : callee.image = callee'.image
  span : f callee.span = g callee'.span
  rest : Corresponds f g callee.rest callee'.rest

theorem Corresponds.take? (related : Corresponds f g ts us) (mark : Mark) :
    Option.Rel (SameTaken f g) (take? mark ts) (take? mark us) := by
  cases related with
  | nil => exact .none
  | cons first _ others =>
    simp only [Grammar.take?, ← first.kind]
    split
    next => exact .some ⟨first, others⟩
    next => exact .none

theorem Corresponds.expect (related : Corresponds f g ts us) (mark : Mark) :
    InStep (SameTaken f g) (expect mark ts) (expect mark us) := by
  have found := related.take? mark
  unfold Grammar.expect
  generalize Grammar.take? mark ts = taken, Grammar.take? mark us = taken' at found
  cases found with
  | none => exact .error (related.unexpected _)
  | some same => exact .ok same

theorem Corresponds.operator? (related : Corresponds f g ts us) (kind? : Mark → Option Kind) :
    Option.Rel (fun op op' => op.1 = op'.1 ∧ SameTaken f g op.2 op'.2)
      (operator? kind? ts) (operator? kind? us) := by
  cases related with
  | nil => exact .none
  | @cons token token' ts us first _ others =>
    obtain ⟨kind, span, text⟩ := token
    obtain ⟨kind', span', text'⟩ := token'
    obtain rfl : kind = kind' := first.kind
    cases kind with
    | mark mark =>
      simp only [Grammar.operator?]
      cases kind? mark with
      | none => exact .none
      | some op => exact .some ⟨rfl, first, others⟩
    | _ => exact .none

theorem Corresponds.propertyName (related : Corresponds f g ts us) :
    InStep (fun name name' => SameTaken f g name name' ∧ IsName name.token)
      (propertyName ts) (propertyName us) := by
  cases related with
  | nil => exact .error rfl
  | @cons token token' ts us first _ others =>
    obtain ⟨kind, span, text⟩ := token
    obtain ⟨kind', span', text'⟩ := token'
    obtain rfl : kind = kind' := first.kind
    cases kind with
    | ident name => exact .ok ⟨⟨first, others⟩, name, rfl⟩
    | _ => exact .error rfl

/-! ## Names of functions -/

theorem Corresponds.callee?_eq_some {token token' : Token} (isName : IsName token)
    (related : Corresponds f g (token :: ts) (token' :: us)) (compatible : Span.Compatible f g)
    {callee : Callee ts} (found : Grammar.callee? token ts = some callee) :
    ∃ callee', Grammar.callee? token' us = some callee' ∧ SameCallee f g callee callee' := by
  cases related with
  | cons first qualified others =>
    have text := first.text isName.isOperand
    rcases Grammar.callee?_eq_some found with
      ⟨opening, front, isOpen, image, span⟩ | ⟨colon, name, opening, front, opens, image, span⟩
    · rw [front] at others
      obtain ⟨opening', us, rfl, isOpen', _, rest⟩ := others.mark isOpen
      refine ⟨_, callee?_cons isOpen' us, ?_, ?_, rest⟩
      · rw [image, text]
      · rw [span, first.place]
    · rw [front] at others qualified
      have opens' := (qualified isName).mp opens
      obtain ⟨isColon, isNamed, isOpen, _⟩ := opens
      obtain ⟨colon', us, rfl, _, _, others⟩ := others.mark isColon
      obtain ⟨name', us, rfl, _, named, second, others⟩ := others.name isNamed
      obtain ⟨opening', us, rfl, _, _, rest⟩ := others.mark isOpen
      obtain ⟨shorter, found'⟩ := callee?_qualified opens'
      refine ⟨_, found', ?_, ?_, rest⟩
      · rw [image, text, named]
      · rw [span]
        exact compatible.join first.place second.place

theorem Corresponds.callee? {token token' : Token} (isName : IsName token)
    (related : Corresponds f g (token :: ts) (token' :: us)) (compatible : Span.Compatible f g) :
    Option.Rel (SameCallee f g) (callee? token ts) (callee? token' us) := by
  refine Option.rel_of_forward (fun callee found => ?_) fun callee' found' none => ?_
  · exact related.callee?_eq_some isName compatible found
  · have isName' : IsName token' := by
      cases related with
      | cons first _ _ => exact first.isName isName
    obtain ⟨callee, found, _⟩ := related.symm.callee?_eq_some isName' compatible.symm found'
    rw [none] at found
    cases found

/-! ## Nodes -/

theorem spanning_relocate (compatible : Span.Compatible f g) (kind : Kind)
    {trees trees' : List Tree} (same : Tree.relocateAll f trees = Tree.relocateAll g trees')
    (nonempty : trees ≠ []) :
    (spanning kind trees).relocate f = (spanning kind trees').relocate g := by
  simp only [spanning, Tree.relocate, compatible.cover_children same nonempty, same]

theorem grow_inStep (kind : Kind) (image : Option String) {span span' : Span}
    {trees trees' : List Tree} (place : f span = g span')
    (same : Tree.relocateAll f trees = Tree.relocateAll g trees') :
    InStep (fun t t' => t.relocate f = t'.relocate g)
      (grow kind image span trees) (grow kind image span' trees') := by
  have height : (Tree.node kind image span trees).height =
      (Tree.node kind image span' trees').height := by
    simp only [Tree.height, Tree.heightAll_eq_of_relocateAll same]
  simp only [grow, height]
  split
  next =>
    apply InStep.ok
    simp only [Tree.relocate, place, same]
  next => exact .error rfl

theorem branch_inStep (compatible : Span.Compatible f g) (kind : Kind) {trees trees' : List Tree}
    (same : Tree.relocateAll f trees = Tree.relocateAll g trees') (nonempty : trees ≠ []) :
    InStep (fun t t' => t.relocate f = t'.relocate g) (branch kind trees) (branch kind trees') := by
  refine grow_inStep kind none ?_ same
  exact compatible.cover_children same nonempty

/-! ## Parameters of lambdas -/

theorem Names.corresponds {names rest : List Token} (listed : Names ts names rest)
    (related : Corresponds f g ts us) :
    ∃ names' rest', Names us names' rest' ∧ Corresponds f g rest rest' ∧
      Tree.relocateAll f (names.map (leaf .identifier)) =
        Tree.relocateAll g (names'.map (leaf .identifier)) := by
  induction listed generalizing us with
  | one isName =>
    obtain ⟨name', us, rfl, isName', _, same, others⟩ := related.name isName
    exact ⟨[name'], us, .one isName', others, Tree.relocateAll_one (same.leaf isName.isOperand _)⟩
  | more isName isComma _ ih =>
    obtain ⟨name', us, rfl, isName', _, same, related⟩ := related.name isName
    obtain ⟨comma', us, rfl, isComma', _, related⟩ := related.mark isComma
    obtain ⟨names', rest', listed', related, trees⟩ := ih related
    refine ⟨name' :: names', rest', .more isName' isComma' listed', related, ?_⟩
    simp only [List.map_cons, Tree.relocateAll, same.leaf isName.isOperand, trees]

theorem Parameters.corresponds (compatible : Span.Compatible f g) {params : Tree}
    {rest : List Token} (head : Parameters ts params rest) (related : Corresponds f g ts us) :
    ∃ params' rest', Parameters us params' rest' ∧ Corresponds f g rest rest' ∧
      params.relocate f = params'.relocate g := by
  cases head with
  | name isName isArrow =>
    obtain ⟨name', us, rfl, isName', _, same, related⟩ := related.name isName
    obtain ⟨arrow', us, rfl, isArrow', _, related⟩ := related.mark isArrow
    have trees := Tree.relocateAll_one (same.leaf isName.isOperand .identifier)
    exact ⟨_, us, .name isName' isArrow', related, spanning_relocate compatible _ trees (by simp)⟩
  | none isOpen isClose isArrow =>
    obtain ⟨opening', us, rfl, isOpen', first, related⟩ := related.mark isOpen
    obtain ⟨close', us, rfl, isClose', _, related⟩ := related.mark isClose
    obtain ⟨arrow', us, rfl, isArrow', last, related⟩ := related.mark isArrow
    refine ⟨_, us, .none isOpen' isClose' isArrow', related, ?_⟩
    simp only [Tree.relocate, compatible.upTo first.place last.place, Tree.relocateAll]
  | names isOpen listed isClose isArrow =>
    obtain ⟨opening', us, rfl, isOpen', _, related⟩ := related.mark isOpen
    obtain ⟨names', us, listed', related, trees⟩ := listed.corresponds related
    obtain ⟨close', us, rfl, isClose', _, related⟩ := related.mark isClose
    obtain ⟨arrow', us, rfl, isArrow', _, related⟩ := related.mark isArrow
    refine ⟨_, us, .names isOpen' listed' isClose' isArrow', related, ?_⟩
    obtain ⟨name, others, rfl⟩ := List.exists_cons_of_ne_nil listed.ne_nil
    exact spanning_relocate compatible _ trees (by simp)

theorem Corresponds.lambdaHead? (related : Corresponds f g ts us)
    (compatible : Span.Compatible f g) :
    Option.Rel (SameParsed f g) (lambdaHead? ts) (lambdaHead? us) := by
  refine Option.rel_of_forward (fun head found => ?_) fun head' found' none => ?_
  · obtain ⟨params', rest', head', others, same⟩ :=
      (parameters_of_lambdaHead? found).corresponds compatible related
    obtain ⟨shorter, found'⟩ := lambdaHead?_of_parameters head'
    exact ⟨_, found', same, others⟩
  · obtain ⟨params, rest, head, _⟩ :=
      (parameters_of_lambdaHead? found').corresponds compatible.symm related.symm
    obtain ⟨shorter, found⟩ := lambdaHead?_of_parameters head
    rw [none] at found
    cases found

end Reading

end Grammar

end TargetingRules
