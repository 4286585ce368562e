import TargetingRules.Proofs.Syntax.Derivation

/-!
# What the readers read is derivable

Every reader of the grammar, given readers of nested expressions that read only what the grammar
derives, reads only what the grammar derives at its level. By induction on the levels of nesting
the same holds of the readers that `nested` supplies.
-/

namespace TargetingRules.Grammar

/-- A computation with a first step succeeds exactly if the step does and the others do after it. -/
theorem bind_eq_ok_iff {ε α β : Type} {first : Except ε α} {next : α → Except ε β} {b : β} :
    (first >>= next) = .ok b ↔ ∃ a, first = .ok a ∧ next a = .ok b := by
  cases first with
  | error e => simp [bind, Except.bind]
  | ok a => simp [bind, Except.bind]

/-! ## Tokens and nodes -/

theorem take?_eq_some {mark : Mark} {ts : List Token} {taken : Taken ts}
    (found : take? mark ts = some taken) :
    ts = taken.token :: taken.rest ∧ IsMark mark taken.token := by
  cases ts with
  | nil => simp [take?] at found
  | cons token rest =>
    simp only [take?] at found
    split at found
    · next same =>
      cases found
      exact ⟨rfl, same⟩
    · cases found

theorem expect_eq_ok {mark : Mark} {ts : List Token} {taken : Taken ts}
    (found : expect mark ts = .ok taken) :
    ts = taken.token :: taken.rest ∧ IsMark mark taken.token := by
  simp only [expect] at found
  split at found
  · next some =>
    cases found
    exact take?_eq_some some
  · cases found

theorem operator?_eq_some {kind? : Mark → Option Kind} {ts : List Token} {kind : Kind}
    {taken : Taken ts} (found : operator? kind? ts = some (kind, taken)) :
    ts = taken.token :: taken.rest ∧ ∃ mark, IsMark mark taken.token ∧ kind? mark = some kind := by
  cases ts with
  | nil => simp [operator?] at found
  | cons token rest =>
    obtain ⟨tokenKind, span, text⟩ := token
    cases tokenKind with
    | mark mark =>
      simp only [operator?, Option.map_eq_some_iff] at found
      obtain ⟨same, known, equal⟩ := found
      cases equal
      exact ⟨rfl, mark, rfl, known⟩
    | _ => simp [operator?] at found

theorem propertyName_eq_ok {ts : List Token} {taken : Taken ts}
    (found : propertyName ts = .ok taken) : ts = taken.token :: taken.rest ∧ IsName taken.token := by
  cases ts with
  | nil => simp [propertyName] at found
  | cons token rest =>
    obtain ⟨tokenKind, span, text⟩ := token
    cases tokenKind with
    | ident name =>
      cases found
      exact ⟨rfl, name, rfl⟩
    | _ => simp [propertyName] at found

theorem not_opensQualified_of_callee? {token : Token} {ts : List Token}
    (uncalled : callee? token ts = none) : ¬ OpensQualified token ts := by
  intro qualified
  match ts, qualified with
  | ⟨_, _, _⟩ :: ⟨_, _, _⟩ :: ⟨_, _, _⟩ :: rest, ⟨rfl, ⟨name, rfl⟩, rfl, first, second⟩ =>
    simp only [callee?, ite_eq_right_iff, reduceCtorEq, imp_false] at uncalled
    exact uncalled ⟨first, second⟩

theorem callee?_eq_some {token : Token} {ts : List Token} {callee : Callee ts}
    (found : callee? token ts = some callee) :
    (∃ opening, ts = opening :: callee.rest ∧ IsMark .openParen opening ∧
      callee.image = token.text ∧ callee.span = token.span) ∨
    ∃ colon name opening, ts = colon :: name :: opening :: callee.rest ∧
      OpensQualified token (colon :: name :: opening :: callee.rest) ∧
      callee.image = token.text ++ ":" ++ name.text ∧
      callee.span = token.span.join name.span := by
  simp only [callee?] at found
  split at found
  · cases found
    exact .inl ⟨_, rfl, rfl, rfl, rfl⟩
  · split at found
    · next adjacent =>
      cases found
      exact .inr ⟨_, _, _, rfl, ⟨rfl, ⟨_, rfl⟩, rfl, adjacent.1, adjacent.2⟩, rfl, rfl⟩
    · cases found
  · cases found

theorem grow_eq_ok_iff {kind : Kind} {image : Option String} {span : Span} {children : List Tree}
    {t : Tree} : grow kind image span children = .ok t ↔
      t = .node kind image span children ∧ t.height ≤ maxDepth := by
  simp only [grow]
  split
  · next low =>
    constructor
    · rintro ⟨⟩
      exact ⟨rfl, low⟩
    · rintro ⟨rfl, _⟩
      rfl
  · next high =>
    constructor
    · rintro ⟨⟩
    · rintro ⟨rfl, low⟩
      exact absurd low high

theorem height_leaf_le (kind : Kind) (token : Token) : (leaf kind token).height ≤ maxDepth := by
  simp [leaf, Tree.height, Tree.heightAll, maxDepth]

theorem branch_eq_ok_iff {kind : Kind} {children : List Tree} {t : Tree} :
    branch kind children = .ok t ↔ t = spanning kind children ∧ t.height ≤ maxDepth :=
  grow_eq_ok_iff

/-! ## Parameters of lambdas -/

theorem parameters_eq_spanning (names : List Token) :
    parameters names = spanning .lambdaParameters (names.map (leaf .identifier)) := by
  have spans : (names.map (leaf .identifier)).map Tree.span = names.map Token.span := by
    rw [List.map_map]
    rfl
  rw [parameters, spanning, spans]

theorem names_of_parameterNames? {ts : List Token} {found : ParameterNames ts}
    (success : parameterNames? ts = some found) :
    ∃ close arrow, Names ts found.names (close :: arrow :: found.rest) ∧
      IsMark .closeParen close ∧ IsMark .arrow arrow := by
  fun_induction parameterNames? ts with
  | case1 name span text s x rest ih =>
    obtain ⟨more, others, equal⟩ := Option.map_eq_some_iff.mp success
    cases equal
    obtain ⟨close, arrow, names, isClose, isArrow⟩ := ih others
    exact ⟨close, arrow, .more ⟨name, rfl⟩ rfl names, isClose, isArrow⟩
  | case2 name span text s x s' x' rest =>
    cases success
    exact ⟨_, _, .one ⟨name, rfl⟩, rfl, rfl⟩
  | case3 => cases success

theorem parameters_of_lambdaHead? {ts : List Token} {head : Parsed ts}
    (success : lambdaHead? ts = some head) : Parameters ts head.tree head.rest := by
  simp only [lambdaHead?] at success
  split at success
  · cases success
    exact .name ⟨_, rfl⟩ rfl
  · cases success
    exact .none rfl rfl rfl
  · obtain ⟨found, names, equal⟩ := Option.map_eq_some_iff.mp success
    cases equal
    obtain ⟨close, arrow, listed, isClose, isArrow⟩ := names_of_parameterNames? names
    rw [parameters_eq_spanning]
    exact .names rfl listed isClose isArrow
  · cases success

/-! ## Readers by level -/

/-- The level at which a nested expression starts. -/
def Entry.level : Entry → Level
  | .assignment => .assignment
  | .lambda => .lambda
  | .ternary => .ternary
  | .unary => .unary

/-- The reader of a level over the readers of nested expressions. -/
def Level.reader (inner : Entry → Reader) : Level → Reader
  | .assignment => Grammar.assignment inner
  | .lambda => Grammar.lambda inner
  | .ternary => Grammar.ternary inner
  | .disjunction => Grammar.disjunction inner
  | .conjunction => Grammar.conjunction inner
  | .equality => Grammar.equality inner
  | .relation => Grammar.relation inner
  | .concatenation => Grammar.concatenation inner
  | .sum => Grammar.sum inner
  | .product => Grammar.product inner
  | .unary => Grammar.unary inner
  | .access => Grammar.access inner
  | .primary => Grammar.primary inner

/-- The node of an operator of a level whose chains group to the left. -/
def Level.left? : Level → Mark → Option Kind
  | .equality => equality?
  | .relation => relation?
  | .concatenation => concatenation?
  | .sum => sum?
  | .product => product?
  | _ => fun _ => none

theorem Level.left?_eq_some_iff {ℓ : Level} {mark : Mark} {kind : Kind} :
    ℓ.left? mark = some kind ↔ (mark, kind) ∈ ℓ.leftOperators := by
  cases ℓ <;> cases mark <;>
    simp [left?, leftOperators, equality?, relation?, concatenation?, sum?, product?, eq_comm]

theorem unary?_eq_some_iff {mark : Mark} {kind : Kind} :
    unary? mark = some kind ↔ (mark, kind) ∈ prefixOperators := by
  cases mark <;> simp [unary?, prefixOperators, eq_comm]

/-- A reader reads only what the grammar derives, and nothing that is too high. -/
def ReadsDerivable (n : Nat) (ℓ : Level) (reader : Reader) : Prop :=
  ∀ ⦃ts : List Token⦄ ⦃parsed : Parsed ts⦄, reader ts = .ok parsed →
    Derives n ℓ ts parsed.tree parsed.rest ∧ parsed.tree.height ≤ maxDepth

/-! ## Chains and lists -/

theorem Series.single_or_several {n : Nat} {ℓ : Level} {mark : Mark} {ts rest : List Token}
    {trees : List Tree} (series : Series n ℓ mark ts trees rest) :
    (∃ t, trees = [t] ∧ Derives n ℓ ts t rest) ∨
      ∃ first second more, trees = first :: second :: more := by
  cases series with
  | one last => exact .inl ⟨_, rfl, last⟩
  | more first isOp others =>
    refine .inr ?_
    cases others with
    | one last => exact ⟨_, _, _, rfl⟩
    | more next isNext rest => exact ⟨_, _, _, rfl⟩

theorem series_of_separated {n : Nat} {ℓ : Level} {mark : Mark} {operand : Reader}
    (sound : ReadsDerivable n ℓ operand) {ts : List Token} {several : Several ts}
    (success : separated mark operand ts = .ok several) :
    Series n ℓ mark ts several.trees several.rest ∧
      ∀ t ∈ several.trees, t.height ≤ maxDepth := by
  rw [separated] at success
  obtain ⟨first, read, success⟩ := bind_eq_ok_iff.mp success
  obtain ⟨start, low⟩ := sound read
  split at success
  · cases success
    exact ⟨.one start, by simpa using low⟩
  · next taken found =>
    obtain ⟨more, others, success⟩ := bind_eq_ok_iff.mp success
    cases success
    obtain ⟨split, isMark⟩ := take?_eq_some found
    rw [split] at start
    have fewer := Nat.lt_trans taken.shorter first.shorter
    obtain ⟨series, lows⟩ := series_of_separated sound others
    exact ⟨.more start isMark series, List.forall_mem_cons.mpr ⟨low, lows⟩⟩
termination_by ts.length

theorem derives_of_flatChain {n : Nat} {ℓ : Level} {mark : Mark} {kind : Kind} {operand : Reader}
    (listed : (mark, kind) ∈ ℓ.flatOperators) (sound : ReadsDerivable n ℓ.tighter operand) :
    ReadsDerivable n ℓ (flatChain kind mark operand) := by
  intro ts parsed success
  obtain ⟨⟨trees, rest, shorter⟩, read, success⟩ := bind_eq_ok_iff.mp success
  obtain ⟨series, lows⟩ := series_of_separated sound read
  dsimp only at series lows
  rcases series.single_or_several with ⟨t, rfl, single⟩ | ⟨first, second, more, rfl⟩
  · cases success
    exact ⟨.tighter single, lows t (List.mem_singleton_self t)⟩
  · obtain ⟨t, built, success⟩ := bind_eq_ok_iff.mp success
    cases success
    obtain ⟨rfl, low⟩ := branch_eq_ok_iff.mp built
    exact ⟨.flat listed series (by simp), low⟩

theorem derives_of_leftChainFrom {n : Nat} {ℓ : Level} {operand : Reader}
    (sound : ReadsDerivable n ℓ.tighter operand) {ts : List Token} {left parsed : Parsed ts}
    (start : Derives n ℓ ts left.tree left.rest) (low : left.tree.height ≤ maxDepth)
    (success : leftChainFrom ℓ.left? operand left = .ok parsed) :
    Derives n ℓ ts parsed.tree parsed.rest ∧ parsed.tree.height ≤ maxDepth := by
  rw [leftChainFrom] at success
  split at success
  · cases success
    exact ⟨start, low⟩
  · next kind taken found =>
    obtain ⟨split, mark, isMark, known⟩ := operator?_eq_some found
    obtain ⟨right, read, success⟩ := bind_eq_ok_iff.mp success
    obtain ⟨t, built, success⟩ := bind_eq_ok_iff.mp success
    obtain ⟨rfl, low⟩ := branch_eq_ok_iff.mp built
    have fewer := Nat.lt_trans right.shorter taken.shorter
    rw [split] at start
    have step := Derives.binary (Level.left?_eq_some_iff.mp known) start isMark (sound read).1
    exact derives_of_leftChainFrom sound step low success
termination_by left.rest.length

theorem derives_of_leftChain {n : Nat} {ℓ : Level} {operand : Reader}
    (sound : ReadsDerivable n ℓ.tighter operand) :
    ReadsDerivable n ℓ (leftChain ℓ.left? operand) := by
  intro ts parsed success
  obtain ⟨left, read, success⟩ := bind_eq_ok_iff.mp success
  obtain ⟨start, low⟩ := sound read
  exact derives_of_leftChainFrom sound (.tighter start) low success

section Levels

variable {n : Nat} {inner : Entry → Reader}
  (sound : ∀ entry : Entry, ReadsDerivable n entry.level (inner entry))

include sound

theorem items_of_closedList {close : Mark} {ts : List Token} {closed : Closed ts}
    (success : closedList close inner ts = .ok closed) :
    Items n close ts closed.trees closed.close closed.rest := by
  simp only [closedList] at success
  split at success
  · next taken found =>
    cases success
    obtain ⟨split, isClose⟩ := take?_eq_some found
    have nothing : Items n close (taken.token :: taken.rest) [] taken.token taken.rest :=
      .none isClose
    rwa [← split] at nothing
  · obtain ⟨items, read, success⟩ := bind_eq_ok_iff.mp success
    obtain ⟨last, found, success⟩ := bind_eq_ok_iff.mp success
    cases success
    obtain ⟨split, isClose⟩ := expect_eq_ok found
    have series := (series_of_separated (sound .assignment) read).1
    rw [split] at series
    exact .some series isClose

/-! ## Levels -/

theorem derives_of_named {token : Token} (isName : IsName token) {ts : List Token}
    {parsed : Parsed (token :: ts)} (success : named inner token ts = .ok parsed) :
    Derives (n + 1) .primary (token :: ts) parsed.tree parsed.rest ∧
      parsed.tree.height ≤ maxDepth := by
  simp only [named] at success
  split at success
  · next notCalled =>
    cases success
    exact ⟨.identifier isName (not_opensQualified_of_callee? notCalled), height_leaf_le _ _⟩
  · next callee found =>
    obtain ⟨arguments, read, success⟩ := bind_eq_ok_iff.mp success
    obtain ⟨t, built, success⟩ := bind_eq_ok_iff.mp success
    cases success
    obtain ⟨rfl, low⟩ := grow_eq_ok_iff.mp built
    refine ⟨?_, low⟩
    have items := items_of_closedList sound read
    rcases callee?_eq_some found with
      ⟨opening, split, isOpen, image, span⟩ | ⟨colon, name, opening, split, qualified, image, span⟩
    · rw [image, span]
      have called := Derives.call isName isOpen items
      rwa [← split] at called
    · rw [image, span]
      have called := Derives.qualifiedCall isName qualified items
      rwa [← split] at called

theorem derives_of_primary : ReadsDerivable (n + 1) .primary (primary inner) := by
  intro ts parsed success
  cases ts with
  | nil => cases success
  | cons token rest =>
    simp only [primary] at success
    split at success
    · next kind =>
      cases success
      exact ⟨.literal (by rw [kind]; rfl), height_leaf_le _ _⟩
    · next kind =>
      cases success
      exact ⟨.literal (by rw [kind]; rfl), height_leaf_le _ _⟩
    · next kind =>
      cases success
      exact ⟨.literal (by rw [kind]; rfl), height_leaf_le _ _⟩
    · next kind =>
      cases success
      exact ⟨.literal (by rw [kind]; rfl), height_leaf_le _ _⟩
    · next name kind => exact derives_of_named sound ⟨name, kind⟩ success
    · next isOpen =>
      obtain ⟨inside, read, success⟩ := bind_eq_ok_iff.mp success
      obtain ⟨close, found, success⟩ := bind_eq_ok_iff.mp success
      cases success
      obtain ⟨split, isClose⟩ := expect_eq_ok found
      obtain ⟨nested, low⟩ := sound .assignment read
      rw [split] at nested
      exact ⟨.parentheses isOpen nested isClose, low⟩
    · next isOpen =>
      obtain ⟨items, read, success⟩ := bind_eq_ok_iff.mp success
      obtain ⟨t, built, success⟩ := bind_eq_ok_iff.mp success
      cases success
      obtain ⟨rfl, low⟩ := grow_eq_ok_iff.mp built
      exact ⟨.list isOpen (items_of_closedList sound read), low⟩
    · cases success

theorem derives_of_accessFrom {ts : List Token} {target parsed : Parsed ts}
    (start : Derives (n + 1) .access ts target.tree target.rest)
    (low : target.tree.height ≤ maxDepth) (success : accessFrom inner target = .ok parsed) :
    Derives (n + 1) .access ts parsed.tree parsed.rest ∧ parsed.tree.height ≤ maxDepth := by
  rw [accessFrom] at success
  split at success
  · next dot found =>
    obtain ⟨split, isDot⟩ := take?_eq_some found
    obtain ⟨name, named, success⟩ := bind_eq_ok_iff.mp success
    obtain ⟨splitName, isName⟩ := propertyName_eq_ok named
    rw [split, splitName] at start
    have fewer := Nat.lt_trans name.shorter dot.shorter
    split at success
    · next opening opened =>
      obtain ⟨splitOpening, isOpen⟩ := take?_eq_some opened
      obtain ⟨list, read, success⟩ := bind_eq_ok_iff.mp success
      obtain ⟨arguments, built, success⟩ := bind_eq_ok_iff.mp success
      obtain ⟨t, joined, success⟩ := bind_eq_ok_iff.mp success
      obtain ⟨rfl, _⟩ := grow_eq_ok_iff.mp built
      obtain ⟨rfl, low⟩ := branch_eq_ok_iff.mp joined
      rw [splitOpening] at start
      have shorter := Nat.lt_trans (Nat.lt_trans list.shorter opening.shorter) fewer
      have step := Derives.method start isDot isName isOpen (items_of_closedList sound read)
      exact derives_of_accessFrom step low success
    · obtain ⟨t, joined, success⟩ := bind_eq_ok_iff.mp success
      obtain ⟨rfl, low⟩ := branch_eq_ok_iff.mp joined
      exact derives_of_accessFrom (.property start isDot isName) low success
  · split at success
    · next opening found =>
      obtain ⟨split, isOpen⟩ := take?_eq_some found
      obtain ⟨index, read, success⟩ := bind_eq_ok_iff.mp success
      obtain ⟨close, closed, success⟩ := bind_eq_ok_iff.mp success
      obtain ⟨t, built, success⟩ := bind_eq_ok_iff.mp success
      obtain ⟨splitClose, isClose⟩ := expect_eq_ok closed
      obtain ⟨rfl, low⟩ := grow_eq_ok_iff.mp built
      rw [split] at start
      have nested := (sound .assignment read).1
      rw [splitClose] at nested
      have fewer := Nat.lt_trans (Nat.lt_trans close.shorter index.shorter) opening.shorter
      exact derives_of_accessFrom (.index start isOpen nested isClose) low success
    · cases success
      exact ⟨start, low⟩
termination_by target.rest.length

theorem derives_of_access : ReadsDerivable (n + 1) .access (access inner) := by
  intro ts parsed success
  obtain ⟨target, read, success⟩ := bind_eq_ok_iff.mp success
  obtain ⟨start, low⟩ := derives_of_primary sound read
  exact derives_of_accessFrom sound (.tighter start) low success

theorem derives_of_unary : ReadsDerivable (n + 1) .unary (unary inner) := by
  intro ts parsed success
  simp only [unary] at success
  split at success
  · obtain ⟨derived, low⟩ := derives_of_access sound success
    exact ⟨.tighter derived, low⟩
  · next kind taken found =>
    obtain ⟨split, mark, isMark, known⟩ := operator?_eq_some found
    obtain ⟨operand, read, success⟩ := bind_eq_ok_iff.mp success
    obtain ⟨t, built, success⟩ := bind_eq_ok_iff.mp success
    cases success
    obtain ⟨rfl, low⟩ := grow_eq_ok_iff.mp built
    have step := Derives.prefixed (unary?_eq_some_iff.mp known) isMark (sound .unary read).1
    rw [← split] at step
    exact ⟨step, low⟩

theorem derives_of_ternary
    (below : ReadsDerivable (n + 1) .disjunction (disjunction inner)) :
    ReadsDerivable (n + 1) .ternary (ternary inner) := by
  intro ts parsed success
  obtain ⟨condition, read, success⟩ := bind_eq_ok_iff.mp success
  obtain ⟨start, low⟩ := below read
  split at success
  · cases success
    exact ⟨.tighter start, low⟩
  · next question found =>
    obtain ⟨split, isQuestion⟩ := take?_eq_some found
    obtain ⟨whenTrue, readTrue, success⟩ := bind_eq_ok_iff.mp success
    obtain ⟨colon, foundColon, success⟩ := bind_eq_ok_iff.mp success
    obtain ⟨whenFalse, readFalse, success⟩ := bind_eq_ok_iff.mp success
    obtain ⟨t, built, success⟩ := bind_eq_ok_iff.mp success
    cases success
    obtain ⟨rfl, low⟩ := branch_eq_ok_iff.mp built
    obtain ⟨splitColon, isColon⟩ := expect_eq_ok foundColon
    have second := (sound .ternary readTrue).1
    rw [split] at start
    rw [splitColon] at second
    exact ⟨.ternary start isQuestion second isColon (sound .ternary readFalse).1, low⟩

theorem derives_of_lambda
    (below : ReadsDerivable (n + 1) .ternary (ternary inner)) :
    ReadsDerivable (n + 1) .lambda (lambda inner) := by
  intro ts parsed success
  simp only [lambda] at success
  split at success
  · obtain ⟨derived, low⟩ := below success
    exact ⟨.tighter derived, low⟩
  · next head found =>
    obtain ⟨body, read, success⟩ := bind_eq_ok_iff.mp success
    obtain ⟨t, built, success⟩ := bind_eq_ok_iff.mp success
    cases success
    obtain ⟨rfl, low⟩ := branch_eq_ok_iff.mp built
    exact ⟨.lambda (parameters_of_lambdaHead? found) (sound .lambda read).1, low⟩

theorem derives_of_assignment
    (below : ReadsDerivable (n + 1) .lambda (lambda inner)) :
    ReadsDerivable (n + 1) .assignment (assignment inner) := by
  intro ts parsed success
  obtain ⟨target, read, success⟩ := bind_eq_ok_iff.mp success
  obtain ⟨start, low⟩ := below read
  split at success
  · cases success
    exact ⟨.tighter start, low⟩
  · next op found =>
    obtain ⟨split, isOp⟩ := take?_eq_some found
    obtain ⟨value, readValue, success⟩ := bind_eq_ok_iff.mp success
    obtain ⟨t, built, success⟩ := bind_eq_ok_iff.mp success
    cases success
    obtain ⟨rfl, low⟩ := branch_eq_ok_iff.mp built
    rw [split] at start
    exact ⟨.assign start isOp (sound .assignment readValue).1, low⟩

theorem readsDerivable_reader (ℓ : Level) : ReadsDerivable (n + 1) ℓ (ℓ.reader inner) := by
  have unary : ReadsDerivable (n + 1) .unary (unary inner) := derives_of_unary sound
  have product : ReadsDerivable (n + 1) .product (product inner) := derives_of_leftChain unary
  have sum : ReadsDerivable (n + 1) .sum (sum inner) := derives_of_leftChain product
  have concatenation : ReadsDerivable (n + 1) .concatenation (concatenation inner) :=
    derives_of_leftChain sum
  have relation : ReadsDerivable (n + 1) .relation (relation inner) :=
    derives_of_leftChain concatenation
  have equality : ReadsDerivable (n + 1) .equality (equality inner) := derives_of_leftChain relation
  have conjunction : ReadsDerivable (n + 1) .conjunction (conjunction inner) :=
    derives_of_flatChain (by decide) equality
  have disjunction : ReadsDerivable (n + 1) .disjunction (disjunction inner) :=
    derives_of_flatChain (by decide) conjunction
  have ternary : ReadsDerivable (n + 1) .ternary (ternary inner) :=
    derives_of_ternary sound disjunction
  have lambda : ReadsDerivable (n + 1) .lambda (lambda inner) := derives_of_lambda sound ternary
  cases ℓ with
  | assignment => exact derives_of_assignment sound lambda
  | lambda => exact lambda
  | ternary => exact ternary
  | disjunction => exact disjunction
  | conjunction => exact conjunction
  | equality => exact equality
  | relation => exact relation
  | concatenation => exact concatenation
  | sum => exact sum
  | product => exact product
  | unary => exact unary
  | access => exact derives_of_access sound
  | primary => exact derives_of_primary sound

end Levels

/-! ## Nesting -/

/-- Allowing one more level of nesting gives the reader of the entry's level. -/
theorem nested_succ (textEnd n : Nat) (entry : Entry) :
    nested textEnd (n + 1) entry = entry.level.reader (nested textEnd n) := by
  cases entry <;> rfl

theorem readsDerivable_nested (textEnd n : Nat) (entry : Entry) :
    ReadsDerivable n entry.level (nested textEnd n entry) := by
  induction n generalizing entry with
  | zero =>
    intro ts parsed success
    cases success
  | succ n ih =>
    rw [nested_succ]
    exact readsDerivable_reader ih entry.level

/-- An expression that is read is derived from all of the tokens, and is not too high. -/
theorem derives_of_expression {textEnd : Nat} {ts : List Token} {t : Tree}
    (success : expression textEnd ts = .ok t) :
    Derives maxDepth .assignment ts t [] ∧ t.height ≤ maxDepth := by
  simp only [expression] at success
  split at success
  · cases success
  · obtain ⟨parsed, read, success⟩ := bind_eq_ok_iff.mp success
    have derived := readsDerivable_nested textEnd maxDepth .assignment read
    split at success
    · next complete =>
      cases success
      rwa [complete] at derived
    · cases success

end TargetingRules.Grammar
