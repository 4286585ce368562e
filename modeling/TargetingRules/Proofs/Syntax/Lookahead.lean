import TargetingRules.Proofs.Syntax.Indexing

/-!
# Looking ahead for lambdas

Whether an opening parenthesis starts the parameters of a lambda shows at the arrow after the closing
one only, so the parser looks ahead for it before it reads anything. It does so in a loop of its own,
which looks at the tokens by their positions and counts the names. What it then reads, it reads by other
means and as often as it has counted.

Both follow one form, in which the head of a lambda is written. That is shown for the look ahead here,
and from what is known of the reader for the parser: it reads what has been announced, and where nothing
has been announced no lambda could be read.
-/

namespace TargetingRules

open Grammar (Parameters Derives)

/-! ## The form of the head -/

/-- Whether a token is a name. -/
def Token.isName (token : Token) : Bool :=
  match token.kind with
  | .ident _ => true
  | _ => false

/-- The leaf over a token. -/
def Token.parameterNode (token : Token) : Node :=
  ⟨.identifier, some token.text, token.span, []⟩

namespace Grammar

/-- What the tokens say that start a lambda with these parameters: a name, or names with commas between
them in parentheses, and an arrow. In parentheses there may be no name. -/
inductive Heading : List String → List TokenKind → Prop where
  | bare (name : String) : Heading [name] [.ident name, .mark .arrow]
  | listed (names : List String) : Heading names
      (.mark .openParen :: (names.map TokenKind.ident).intersperse (.mark .comma) ++
        [.mark .closeParen, .mark .arrow])

variable {token : Token} {mark : Mark} {names : List String} {ts front rest : List Token}

theorem IsName.filter_cons (isName : IsName token) :
    (token :: ts).filter Token.isName = token :: ts.filter Token.isName := by
  obtain ⟨name, isName⟩ := isName
  refine List.filter_cons_of_pos ?_
  rw [Token.isName, isName]

theorem IsMark.filter_cons (isMark : IsMark mark token) :
    (token :: ts).filter Token.isName = ts.filter Token.isName := by
  refine List.filter_cons_of_neg ?_
  rw [Token.isName, isMark]
  exact Bool.false_ne_true

/-- A list of names is spelled with commas between them. -/
theorem Names.exists_intersperse {listed : List Token} (names : Names ts listed rest) :
    ∃ name more front, ts = front ++ rest ∧ listed.length = (name :: more).length ∧
      front.map Token.kind = ((name :: more).map TokenKind.ident).intersperse (.mark .comma) := by
  induction names with
  | @one token rest isName =>
    obtain ⟨name, isName⟩ := isName
    refine ⟨name, [], [token], rfl, rfl, ?_⟩
    rw [List.map_singleton, isName, List.map_singleton, List.intersperse_singleton]
  | @more token comma ts listed rest isName isComma others ih =>
    obtain ⟨next, more, front, rfl, length, form⟩ := ih
    obtain ⟨name, isName⟩ := isName
    refine ⟨name, next :: more, token :: comma :: front, rfl, congrArg (· + 1) length, ?_⟩
    rw [List.map_cons, List.map_cons, form, isName, isComma, List.map_cons, List.map_cons,
      List.map_cons, List.intersperse_cons_cons]

/-- What is spelled so is a list of the names in it. -/
theorem Names.of_intersperse {name : String} {more : List String}
    (form : front.map Token.kind =
      ((name :: more).map TokenKind.ident).intersperse (.mark .comma)) (rest : List Token) :
    Names (front ++ rest) (front.filter Token.isName) rest ∧
      (front.filter Token.isName).map Token.kind = (name :: more).map TokenKind.ident := by
  induction more generalizing name front with
  | nil =>
    obtain ⟨token, rfl, isName⟩ := List.map_eq_singleton_iff.mp form
    rw [IsName.filter_cons ⟨name, isName⟩, List.filter_nil]
    exact ⟨.one ⟨name, isName⟩, congrArg ([·]) isName⟩
  | cons next more ih =>
    rw [List.map_cons, List.map_cons, List.intersperse_cons_cons] at form
    obtain ⟨token, _, rfl, isName, form⟩ := List.map_eq_cons_iff.mp form
    obtain ⟨comma, front, rfl, isComma, form⟩ := List.map_eq_cons_iff.mp form
    obtain ⟨names, kinds⟩ := ih form
    rw [IsName.filter_cons ⟨name, isName⟩, IsMark.filter_cons isComma]
    refine ⟨.more ⟨name, isName⟩ isComma names, ?_⟩
    rw [List.map_cons, kinds, isName]
    rfl

/-- The parameters of a lambda are spelled in this form. -/
theorem Parameters.exists_heading {params : Tree} (head : Parameters ts params rest) :
    ∃ names front, ts = front ++ rest ∧ Heading names (front.map Token.kind) ∧
      params.children.length = names.length := by
  cases head with
  | @name token arrow _ isName isArrow =>
    obtain ⟨name, isName⟩ := isName
    refine ⟨[name], [token, arrow], rfl, ?_, rfl⟩
    rw [List.map_cons, List.map_singleton, isName, isArrow]
    exact .bare name
  | @none opening close arrow _ isOpen isClose isArrow =>
    refine ⟨[], [opening, close, arrow], rfl, ?_, rfl⟩
    rw [List.map_cons, List.map_cons, List.map_singleton, isOpen, isClose, isArrow]
    exact .listed []
  | @names opening ts listed close arrow _ isOpen names isClose isArrow =>
    obtain ⟨name, more, front, rfl, length, form⟩ := names.exists_intersperse
    have ending : [close, arrow].map Token.kind = [.mark .closeParen, .mark .arrow] := by
      rw [List.map_cons, List.map_singleton, isClose, isArrow]
    refine ⟨name :: more, opening :: front ++ [close, arrow], by simp, ?_, ?_⟩
    · rw [List.map_append, List.map_cons, form, isOpen, ending]
      exact .listed (name :: more)
    · rw [spanning, Tree.children, List.length_map, length]

/-- What is spelled in this form are the parameters of a lambda. -/
theorem Heading.parameters (heading : Heading names (front.map Token.kind)) (rest : List Token) :
    ∃ span, Parameters (front ++ rest)
        (.node .lambdaParameters none span ((front.filter Token.isName).map (leaf .identifier))) rest ∧
      (front.filter Token.isName).map Token.kind = names.map TokenKind.ident := by
  generalize kinds : front.map Token.kind = said at heading
  cases heading with
  | bare name =>
    obtain ⟨token, _, rfl, isName, after⟩ := List.map_eq_cons_iff.mp kinds
    obtain ⟨arrow, rfl, isArrow⟩ := List.map_eq_singleton_iff.mp after
    rw [IsName.filter_cons ⟨name, isName⟩, IsMark.filter_cons isArrow, List.filter_nil]
    exact ⟨_, .name ⟨name, isName⟩ isArrow, congrArg ([·]) isName⟩
  | listed =>
    obtain ⟨inside, last, rfl, form, ending⟩ := List.map_eq_append_iff.mp kinds
    obtain ⟨opening, between, rfl, isOpen, form⟩ := List.map_eq_cons_iff.mp form
    obtain ⟨close, _, rfl, isClose, ending⟩ := List.map_eq_cons_iff.mp ending
    obtain ⟨arrow, rfl, isArrow⟩ := List.map_eq_singleton_iff.mp ending
    have outside : [close, arrow].filter Token.isName = [] := by
      rw [IsMark.filter_cons isClose, IsMark.filter_cons isArrow, List.filter_nil]
    rw [List.filter_append, outside, List.append_nil, IsMark.filter_cons isOpen]
    cases names with
    | nil =>
      obtain rfl := List.map_eq_nil_iff.mp form
      exact ⟨_, .none isOpen isClose isArrow, rfl⟩
    | cons name more =>
      obtain ⟨names, kinds⟩ := Names.of_intersperse form (close :: arrow :: rest)
      rw [List.append_assoc]
      exact ⟨_, .names isOpen names isClose isArrow, kinds⟩

/-- So many parameters come next just if tokens of this form do. -/
theorem parametersAhead?_eq_some_iff {n : Nat} :
    Assembler.parametersAhead? ts = some n ↔ ∃ names front rest, ts = front ++ rest ∧
      Heading names (front.map Token.kind) ∧ names.length = n := by
  rw [parametersAhead?_eq, Option.map_eq_some_iff]
  constructor
  · rintro ⟨head, found, rfl⟩
    obtain ⟨names, front, split, heading, length⟩ := (parameters_of_lambdaHead? found).exists_heading
    exact ⟨names, front, head.rest, split, heading, length.symm⟩
  · rintro ⟨names, front, rest, rfl, heading, rfl⟩
    obtain ⟨span, head, kinds⟩ := heading.parameters rest
    obtain ⟨shorter, found⟩ := lambdaHead?_of_parameters head
    refine ⟨_, found, ?_⟩
    have length := congrArg List.length kinds
    rw [List.length_map, List.length_map] at length
    rw [Tree.children, List.length_map, length]

/-- Where no parameters come next, there is no head. -/
theorem not_parameters_of_parametersAhead? (noneAhead : Assembler.parametersAhead? ts = none)
    {params : Tree} : ¬ Parameters ts params rest := by
  intro head
  obtain ⟨shorter, found⟩ := lambdaHead?_of_parameters head
  rw [parametersAhead?_eq, found] at noneAhead
  cases noneAhead

end Grammar

/-! ## Looking ahead by position -/

/-- What a look ahead comes to, and the places that it looks at. -/
structure Look where
  /-- The number of parameters, if they come next. -/
  found : Option Nat
  /-- The places in order. -/
  places : List Nat
  deriving DecidableEq

/-- A look that goes on after a look at other places. -/
def Look.after (places : List Nat) (look : Look) : Look :=
  ⟨look.found, places ++ look.places⟩

namespace Source

variable {source : Source} {place count n : Nat} {kind : TokenKind}

/-- What the token at a place says; past the end there is none. -/
def kindAt (source : Source) (place : Nat) : Option TokenKind :=
  source.tokens[place]?.map Token.kind

theorem drop_of_kindAt (seen : source.kindAt place = some kind) : ∃ span text,
    source.tokens.drop place = ⟨kind, span, text⟩ :: source.tokens.drop (place + 1) := by
  obtain ⟨token, there, rfl⟩ := Option.map_eq_some_iff.mp seen
  obtain ⟨inside, rfl⟩ := List.getElem?_eq_some_iff.mp there
  exact ⟨_, _, List.drop_eq_getElem_cons inside⟩

theorem lt_of_kindAt (seen : source.kindAt place = some kind) : place < source.tokens.length := by
  obtain ⟨token, there, -⟩ := Option.map_eq_some_iff.mp seen
  exact (List.getElem?_eq_some_iff.mp there).1

theorem kindAt_of_drop {token : Token} {rest : List Token}
    (next : source.tokens.drop place = token :: rest) : source.kindAt place = some token.kind := by
  have there := congrArg List.head? next
  rw [List.head?_drop, List.head?_cons] at there
  rw [kindAt, there, Option.map_some]

theorem drop_succ {token : Token} {rest : List Token}
    (next : source.tokens.drop place = token :: rest) : source.tokens.drop (place + 1) = rest := by
  rw [← List.tail_drop, next, List.tail_cons]

/-- The last look, which announces so many parameters if it is at an arrow. -/
def arrowAt (source : Source) (place count : Nat) : Look :=
  ⟨if source.kindAt place = some (.mark .arrow) then some count else none, [place]⟩

/-- The look at names with commas between them, the first of which should be at a place. There is one
turn for each name. -/
def namesFrom (source : Source) (place count : Nat) : Look :=
  match _ : source.kindAt place with
  | some (.ident _) =>
    match source.kindAt (place + 1) with
    | some (.mark .comma) => (namesFrom source (place + 2) (count + 1)).after [place, place + 1]
    | some (.mark .closeParen) => (source.arrowAt (place + 2) (count + 1)).after [place, place + 1]
    | _ => ⟨none, [place, place + 1]⟩
  | _ => ⟨none, [place]⟩
termination_by source.tokens.length - place
decreasing_by
  have inside := lt_of_kindAt ‹source.kindAt place = some _›
  omega

/-- The look for the parameters of a lambda at a place. -/
def lookAhead (source : Source) (place : Nat) : Look :=
  match source.kindAt place with
  | some (.ident _) => (source.arrowAt (place + 1) 1).after [place]
  | some (.mark .openParen) =>
    if source.kindAt (place + 1) = some (.mark .closeParen) then
      (source.arrowAt (place + 2) 0).after [place, place + 1]
    else (source.namesFrom (place + 1) 0).after [place, place + 1]
  | _ => ⟨none, [place]⟩

/-- Where a name is, what comes after it decides how the look goes on. -/
theorem namesFrom_of_name {name : String} (isName : source.kindAt place = some (.ident name)) :
    source.namesFrom place count = match source.kindAt (place + 1) with
      | some (.mark .comma) => (source.namesFrom (place + 2) (count + 1)).after [place, place + 1]
      | some (.mark .closeParen) =>
        (source.arrowAt (place + 2) (count + 1)).after [place, place + 1]
      | _ => ⟨none, [place, place + 1]⟩ := by
  rw [namesFrom]
  split
  next => rfl
  next noName => exact absurd isName (noName name)

theorem namesFrom_of_noName (noName : ∀ name, source.kindAt place ≠ some (.ident name)) :
    source.namesFrom place count = ⟨none, [place]⟩ := by
  rw [namesFrom]
  split
  next name isName => exact absurd isName (noName name)
  next => rfl

/-! ### What is found -/

theorem namesFrom_found {ts : List Token} (here : source.tokens.drop place = ts) :
    (source.namesFrom place count).found = Assembler.namesAhead? count ts := by
  -- the list is what is left from the place on, and a turn drops a name and a comma from it
  fun_induction Assembler.namesAhead? count ts generalizing place with
  | case1 count name span text comma spelling rest ih =>
    rw [namesFrom_of_name (kindAt_of_drop here), kindAt_of_drop (drop_succ here)]
    exact ih (drop_succ (drop_succ here))
  | case2 count name span text close spelling arrow spelling' rest =>
    rw [namesFrom_of_name (kindAt_of_drop here), kindAt_of_drop (drop_succ here)]
    exact if_pos (kindAt_of_drop (drop_succ (drop_succ here)))
  | case3 count ts noMore noLast =>
    subst here
    rw [namesFrom]
    split
    next name isName =>
      obtain ⟨_, _, first⟩ := drop_of_kindAt isName
      split
      next isComma =>
        obtain ⟨_, _, second⟩ := drop_of_kindAt isComma
        rw [second] at first
        exact (noMore _ _ _ _ _ _ first).elim
      next isClose =>
        obtain ⟨_, _, second⟩ := drop_of_kindAt isClose
        refine if_neg fun isArrow => ?_
        obtain ⟨_, _, third⟩ := drop_of_kindAt isArrow
        rw [second, third] at first
        exact noLast _ _ _ _ _ _ _ _ first
      next => rfl
    next => rfl

/-- The look by position finds what the parser goes by. -/
theorem lookAhead_found (source : Source) (place : Nat) :
    (source.lookAhead place).found = Assembler.parametersAhead? (source.tokens.drop place) := by
  generalize here : source.tokens.drop place = ts
  fun_cases Assembler.parametersAhead? ts with
  | case1 name span text arrow spelling rest =>
    rw [lookAhead, kindAt_of_drop here]
    exact if_pos (kindAt_of_drop (drop_succ here))
  | case2 opening text close spelling arrow spelling' rest =>
    have isClose := kindAt_of_drop (drop_succ here)
    rw [lookAhead, kindAt_of_drop here]
    dsimp only
    rw [if_pos isClose]
    exact if_pos (kindAt_of_drop (drop_succ (drop_succ here)))
  | case3 opening text rest notClosed =>
    have later := drop_succ here
    rw [lookAhead, kindAt_of_drop here, ← namesFrom_found later]
    dsimp only
    split
    next isClose =>
      -- between parentheses there is no name then, and the arrow after them would be another case
      have noName : ∀ name, source.kindAt (place + 1) ≠ some (.ident name) := by simp [isClose]
      rw [namesFrom_of_noName noName]
      refine if_neg fun isArrow => ?_
      obtain ⟨_, _, second⟩ := drop_of_kindAt isClose
      obtain ⟨_, _, third⟩ := drop_of_kindAt isArrow
      rw [later, third] at second
      exact notClosed _ _ _ _ _ second
    next => rfl
  | case4 ts noName notClosed noNames =>
    subst here
    rw [lookAhead]
    split
    next name isName =>
      refine if_neg fun isArrow => ?_
      obtain ⟨_, _, first⟩ := drop_of_kindAt isName
      obtain ⟨_, _, second⟩ := drop_of_kindAt isArrow
      rw [second] at first
      exact noName _ _ _ _ _ _ first
    next isOpen =>
      obtain ⟨_, _, first⟩ := drop_of_kindAt isOpen
      exact (noNames _ _ _ first).elim
    next => rfl

/-! ### What is looked at -/

theorem namesFrom_places (count : Nat) (inside : place ≤ source.tokens.length) : ∃ looks,
    (source.namesFrom place count).places = List.range' place looks ∧
      place + looks ≤ source.tokens.length + 1 := by
  -- a place is looked at only after a token, so that the last one is at most one too far
  fun_induction namesFrom source place count with
  | case1 place count name isName isComma ih =>
    have next := lt_of_kindAt isComma
    obtain ⟨looks, places, bound⟩ := ih next
    refine ⟨looks + 2, ?_, by omega⟩
    rw [Look.after, places]
    rfl
  | case2 place count name isName isClose =>
    have next := lt_of_kindAt isClose
    exact ⟨3, rfl, by omega⟩
  | case3 place count name isName noComma noClose =>
    have next := lt_of_kindAt isName
    exact ⟨2, rfl, by omega⟩
  | case4 place count noName => exact ⟨1, rfl, by omega⟩

/-- No place is looked at beyond the one after the last token, unless the look begins there. The turns
look at one place after another, and only at the parenthesis the place after it is looked at twice. -/
theorem lookAhead_places (source : Source) (place : Nat) :
    (∀ looked ∈ (source.lookAhead place).places, looked = place ∨ looked ≤ source.tokens.length) ∧
      (source.lookAhead place).places.length ≤ source.tokens.length - place + 2 := by
  fun_cases lookAhead source place with
  | case1 name isName =>
    have inside := lt_of_kindAt isName
    refine ⟨List.forall_mem_cons.mpr ⟨.inl rfl, ?_⟩, Nat.le_add_left 2 _⟩
    exact List.forall_mem_singleton.mpr (.inr inside)
  | case2 isOpen isClose =>
    have inside := lt_of_kindAt isOpen
    have next := lt_of_kindAt isClose
    have three : 3 ≤ source.tokens.length - place + 2 := by omega
    refine ⟨List.forall_mem_cons.mpr ⟨.inl rfl, List.forall_mem_cons.mpr ⟨.inr inside, ?_⟩⟩, three⟩
    exact List.forall_mem_singleton.mpr (.inr next)
  | case3 isOpen notClosed =>
    have inside := lt_of_kindAt isOpen
    obtain ⟨looks, places, bound⟩ := namesFrom_places 0 inside
    have whole : ((source.namesFrom (place + 1) 0).after [place, place + 1]).places =
        place :: (place + 1) :: List.range' (place + 1) looks :=
      congrArg ([place, place + 1] ++ ·) places
    rw [whole]
    refine ⟨List.forall_mem_cons.mpr ⟨.inl rfl, List.forall_mem_cons.mpr ⟨.inr inside, ?_⟩⟩, ?_⟩
    · intro looked member
      have below := (List.mem_range'_1.mp member).2
      omega
    · rw [List.length_cons, List.length_cons, List.length_range']
      omega
  | case4 noName noOpen => exact ⟨List.forall_mem_singleton.mpr (.inl rfl), Nat.le_add_left 1 _⟩

theorem arrowAt_congr {other : Source} (same : ∀ looked ∈ (source.arrowAt place count).places,
    other.kindAt looked = source.kindAt looked) :
    other.arrowAt place count = source.arrowAt place count := by
  rw [arrowAt, arrowAt, List.forall_mem_singleton.mp same]

theorem namesFrom_congr {other : Source} (same : ∀ looked ∈ (source.namesFrom place count).places,
    other.kindAt looked = source.kindAt looked) :
    other.namesFrom place count = source.namesFrom place count := by
  fun_induction namesFrom source place count with
  | case1 place count name isName isComma ih =>
    obtain ⟨first, others⟩ := List.forall_mem_cons.mp same
    obtain ⟨second, others⟩ := List.forall_mem_cons.mp others
    rw [namesFrom_of_name (first.trans isName), second, isComma]
    exact congrArg (Look.after [place, place + 1]) (ih others)
  | case2 place count name isName isClose =>
    obtain ⟨first, others⟩ := List.forall_mem_cons.mp same
    obtain ⟨second, third⟩ := List.forall_mem_cons.mp others
    rw [namesFrom_of_name (first.trans isName), second, isClose]
    exact congrArg (Look.after [place, place + 1]) (arrowAt_congr third)
  | case3 place count name isName noComma noClose =>
    obtain ⟨first, second⟩ := List.forall_mem_cons.mp same
    rw [namesFrom_of_name (first.trans isName), List.forall_mem_singleton.mp second]
    split
    next isComma => exact (noComma isComma).elim
    next isClose => exact (noClose isClose).elim
    next => rfl
  | case4 place count noName =>
    have first := List.forall_mem_singleton.mp same
    exact namesFrom_of_noName fun name isName => noName name (first.symm.trans isName)

/-- What is not looked at does not matter. -/
theorem lookAhead_congr {other : Source} (same : ∀ looked ∈ (source.lookAhead place).places,
    other.kindAt looked = source.kindAt looked) :
    other.lookAhead place = source.lookAhead place := by
  revert same
  fun_cases lookAhead source place with
  | case1 name isName =>
    intro same
    obtain ⟨first, second⟩ := List.forall_mem_cons.mp same
    rw [lookAhead, first, isName]
    exact congrArg (Look.after [place]) (arrowAt_congr second)
  | case2 isOpen isClose =>
    intro same
    obtain ⟨first, others⟩ := List.forall_mem_cons.mp same
    obtain ⟨second, third⟩ := List.forall_mem_cons.mp others
    rw [lookAhead, first, isOpen, second]
    dsimp only
    rw [if_pos isClose]
    exact congrArg (Look.after [place, place + 1]) (arrowAt_congr third)
  | case3 isOpen notClosed =>
    intro same
    obtain ⟨first, others⟩ := List.forall_mem_cons.mp same
    obtain ⟨second, names⟩ := List.forall_mem_cons.mp others
    rw [lookAhead, first, isOpen, second]
    dsimp only
    rw [if_neg notClosed]
    exact congrArg (Look.after [place, place + 1]) (namesFrom_congr names)
  | case4 noName noOpen =>
    intro same
    have first := List.forall_mem_singleton.mp same
    rw [lookAhead, first]
    split
    next name isName => exact absurd isName (noName name)
    next isOpen => exact absurd isOpen noOpen
    next => rfl

end Source

/-! ## Reading what is announced -/

namespace Tree

theorem sizeAll_leaves (kind : Kind) (names : List Token) :
    sizeAll (names.map (Grammar.leaf kind)) = names.length := by
  induction names with
  | nil => rfl
  | cons name names ih =>
    rw [List.map_cons, sizeAll, ih, List.length_cons, Grammar.leaf, size, sizeAll]
    omega

theorem numberedAll_leaves (base : Nat) (names : List Token) :
    numberedAll base (names.map (Grammar.leaf .identifier)) = names.map Token.parameterNode := by
  induction names generalizing base with
  | nil => rfl
  | cons name names ih =>
    rw [List.map_cons, numberedAll, ih]
    rfl

theorem rootNumbers_leaves (base : Nat) (kind : Kind) (names : List Token) :
    rootNumbers base (names.map (Grammar.leaf kind)) = List.range' base names.length := by
  induction names generalizing base with
  | nil => rfl
  | cons name names ih =>
    rw [List.map_cons, rootNumbers, ih]
    rfl

end Tree

/-- The nodes of parameters are a leaf for each name and a node over the leaves, which comes last. -/
theorem Holds.parameters {before : List Node} {nodes : Array Node} {id : Nat} {names : List Token}
    {span : Span} (held : Holds before nodes
      [.node .lambdaParameters none span (names.map (Grammar.leaf .identifier))] [id]) :
    nodes.toList = before ++ names.map Token.parameterNode ++
        [⟨.lambdaParameters, none, span, List.range' before.length names.length⟩] ∧
      id = before.length + names.length := by
  constructor
  · rw [held.nodes_eq, Tree.numberedAll, Tree.numberedAll, Tree.numbered, Tree.numberedAll_leaves,
      Tree.rootNumbers_leaves, List.append_nil, List.append_assoc]
  · have root := (List.cons.inj held.roots).1
    rw [Tree.size, Tree.sizeAll_leaves] at root
    omega

/-- The tokens at the front have been read, and their names have become the parameters of a lambda: the
nodes pushed are a leaf for each name, in order, and a node over the leaves. -/
structure Assembly.ReadsParameters (state : Assembly) (front : List Token) (mid : Assembly) :
    Prop where
  /-- Just these tokens have been read. -/
  position : mid.position = state.position + front.length
  /-- The depth is what it was. -/
  nesting : mid.nesting = state.nesting
  /-- The nodes. -/
  nodes : ∃ span, mid.builder.nodes.toList = state.builder.nodes.toList ++
    (front.filter Token.isName).map Token.parameterNode ++ [⟨.lambdaParameters, none, span,
      List.range' state.builder.nodes.size (front.filter Token.isName).length⟩]

namespace Source

variable {source : Source} {state mid : Assembly} {front rest : List Token}

/-- Where less is left to read, the difference has been read. -/
theorem position_of_ahead (sound : state.Sound source) (sound' : mid.Sound source)
    (split : source.ahead state = front ++ rest) (here : source.ahead mid = rest) :
    mid.position = state.position + front.length := by
  have before := sound.position_le
  have after := sound'.position_le
  have unread := congrArg List.length split
  have left := congrArg List.length here
  rw [ahead, List.length_drop, List.length_append] at unread
  rw [ahead, List.length_drop] at left
  omega

/-- The parameters of a head that comes next are read, and nothing in them fails. -/
theorem run_parameters (sound : state.Sound source) {names : List String}
    (split : source.ahead state = front ++ rest)
    (heading : Grammar.Heading names (front.map Token.kind)) :
    ∃ mid, state.ReadsParameters front mid ∧ mid.Sound source ∧
      ((Assembler.parameters names.length).run source state).answer =
        .ok (state.builder.nodes.size + names.length) ∧
      ((Assembler.parameters names.length).run source state).last = mid := by
  obtain ⟨span, head, kinds⟩ := heading.parameters rest
  have count := congrArg List.length kinds
  rw [List.length_map, List.length_map] at count
  have ready : state.Ready source state.nesting := ⟨sound, rfl⟩
  obtain ⟨orderly, answers⟩ := follows_parameters head split ready
  rw [Tree.children, List.length_map, count] at orderly answers
  obtain ⟨id, answer, here, held⟩ := answers.exists_ok
  have sound' := orderly.ready.sound
  obtain ⟨nodes, rfl⟩ := held.parameters
  have position := position_of_ahead sound sound' split here
  refine ⟨_, ⟨position, orderly.ready.nesting_eq, span, nodes⟩, sound', ?_, rfl⟩
  rw [answer, count, Array.length_toList]

end Source

/-! ## Names in rules -/

namespace Lexer

theorem IsLexeme.text_of_ident {c : Char} {cs : List Char} {kind : TokenKind} {length : Nat}
    {name : String} (isLexeme : IsLexeme c cs kind length) (isName : kind = .ident name) :
    String.ofList (c :: cs.take length) = name := by
  cases isLexeme with
  | number digit read => cases isName
  | string noDigit quote run => cases isName
  | symbol noDigit noQuote noWord found => cases isName
  | word noDigit noQuote starts =>
    have noKeyword : ∀ entry ∈ keywords, entry.2 ≠ .ident name := by simp [keywords]
    rcases wordKind_cases (String.ofList (c :: cs.take (wordRun cs))) with ⟨entry, member, same⟩ | same
    · exact absurd (same.symm.trans isName) (noKeyword entry member)
    · rw [isName] at same
      cases same
      rfl

/-- A name is written as it is. -/
theorem Splits.text_of_ident {pos : Nat} {cs : List Char} {ts : List Token}
    (splits : Splits pos cs ts) :
    ∀ token ∈ ts, ∀ name, token.kind = .ident name → token.text = name := by
  induction splits with
  | nil => exact List.forall_mem_nil _
  | blank _ _ ih => exact ih
  | lexeme _ isLexeme _ _ ih =>
    exact List.forall_mem_cons.mpr ⟨fun name isName => isLexeme.text_of_ident isName, ih⟩

end Lexer

/-- The tokens have the texts at their places, and names are written as they are. -/
structure Source.Spells (source : Source) (text : List Char) : Prop extends
    Parser.Reads source text where
  /-- Names. -/
  name : ∀ token ∈ source.tokens, ∀ name, token.kind = .ident name → token.text = name

/-- The tokens of a rule are spelled by it. -/
theorem Source.spells_of_tokens {rule : String} {tokens : List Token}
    (split : (Body.of rule.toList).tokens = .ok tokens) (textEnd : Nat) :
    Source.Spells ⟨tokens, textEnd⟩ rule.toList := by
  have splits := Lexer.splits_of_tokens split
  refine ⟨⟨?_, splits.text_of_colon⟩, splits.text_of_ident⟩
  exact fun token member => (splits.slice (Body.slice?_of _) token member).2

/-- The texts of names are what the names say. -/
theorem Source.Spells.texts {source : Source} {text : List Char} (spells : source.Spells text)
    {tokens : List Token} {names : List String} (inside : ∀ token ∈ tokens, token ∈ source.tokens)
    (kinds : tokens.map Token.kind = names.map TokenKind.ident) : tokens.map Token.text = names := by
  induction tokens generalizing names with
  | nil =>
    obtain rfl := List.map_eq_nil_iff.mp kinds.symm
    rfl
  | cons token tokens ih =>
    obtain ⟨name, more, rfl, isName, others⟩ := List.map_eq_cons_iff.mp kinds.symm
    obtain ⟨member, inside⟩ := List.forall_mem_cons.mp inside
    rw [List.map_cons, spells.name token member name isName.symm, ih inside others.symm]

/-! ## The parser and its look ahead -/

/-- Without parameters, what can be read as a lambda can be read as a ternary. -/
theorem Grammar.Derives.lambda_iff_ternary {depth : Nat} {ts rest : List Token} {t : Tree}
    (noHead : ∀ params middle, ¬ Parameters ts params middle) :
    Derives depth .lambda ts t rest ↔ Derives depth .ternary ts t rest := by
  refine ⟨fun derived => ?_, fun inner => .tighter (ℓ := .lambda) inner⟩
  cases derived with
  | tighter inner => exact inner
  | lambda head inner => exact absurd head (noHead _ _)
  | flat listed => exact absurd listed List.not_mem_nil
  | binary listed => exact absurd listed List.not_mem_nil

/-- The parser and its look ahead agree on where there is a lambda and on how many parameters it has. -/
structure Source.AgreesOnLambdas (source : Source) : Prop where
  /-- So many parameters are announced just if what comes next has the form of a head with so many. -/
  announces : ∀ place n, (source.lookAhead place).found = some n ↔
    ∃ names front rest, source.tokens.drop place = front ++ rest ∧
      Grammar.Heading names (front.map Token.kind) ∧ names.length = n
  /-- The reader of the grammar finds the same parameters. -/
  decides : ∀ place, (source.lookAhead place).found =
    (Grammar.lambdaHead? (source.tokens.drop place)).map fun head => head.tree.children.length
  /-- The look comes to an end at the latest at the place after the last token, -/
  inside : ∀ place, ∀ looked ∈ (source.lookAhead place).places,
    looked = place ∨ looked ≤ source.tokens.length
  /-- after a number of steps that grows with the tokens that are left, -/
  ends : ∀ place, (source.lookAhead place).places.length ≤ source.tokens.length - place + 2
  /-- and it depends on nothing but what it looks at. -/
  limited : ∀ place, ∀ other : Source,
    (∀ looked ∈ (source.lookAhead place).places, other.kindAt looked = source.kindAt looked) →
      other.lookAhead place = source.lookAhead place
  /-- What is announced is read: just the tokens of the head are taken, and a leaf for each name and the
  node over the leaves are pushed. Nothing fails before the body, from which the machine goes on, and so
  does the parser, where the leaves are named as the names say. -/
  reads : ∀ (state : Assembly) (names : List String) (front rest : List Token), state.Sound source →
    source.ahead state = front ++ rest → Grammar.Heading names (front.map Token.kind) →
      (front.filter Token.isName).map Token.kind = names.map TokenKind.ident ∧
      ∃ mid, state.ReadsParameters front mid ∧ mid.Sound source ∧
        (∀ nested : Grammar.Entry → Assembler Nat,
          let body := (nested .lambda >>= fun body =>
            Assembler.branch .arrow [state.builder.nodes.size + names.length, body]).run source mid
          ∃ passed, (Assembler.lambda nested).run source state =
            ⟨body.answer, body.last, passed ++ body.passed⟩) ∧
        ∀ text, source.Spells text → (front.filter Token.isName).map Token.text = names ∧
          ∀ nested : Grammar.Entry → Parser Nat, Parser.lambda source text nested state =
            (nested .lambda >>= fun body => Parser.within source
              (.branch .arrow [state.builder.nodes.size + names.length, body])) mid
  /-- Where nothing is announced there is no lambda, so that going on with a ternary loses nothing. -/
  fallsBack : ∀ place, (source.lookAhead place).found = none →
    (∀ params middle, ¬ Parameters (source.tokens.drop place) params middle) ∧
      (∀ depth t rest, Derives depth .lambda (source.tokens.drop place) t rest ↔
        Derives depth .ternary (source.tokens.drop place) t rest) ∧
      ∀ state : Assembly, state.position = place →
        (∀ nested, (Assembler.lambda nested).run source state =
          (Assembler.ternary nested).run source state) ∧
        ∀ text nested, Parser.lambda source text nested state = Parser.ternary source text nested state

namespace Source

section Machine

variable {source : Source} {state : Assembly} {n id : Nat} (nested : Grammar.Entry → Assembler Nat)

theorem run_lambda_of_none (found : Assembler.parametersAhead? (source.ahead state) = none) :
    (Assembler.lambda nested).run source state = (Assembler.ternary nested).run source state := by
  have looked : (Assembler.ahead.run source state).answer = .ok (source.ahead state) := rfl
  rw [Assembler.lambda, Assembler.bind_of_ok looked, found]
  rfl

theorem run_lambda_of_some (found : Assembler.parametersAhead? (source.ahead state) = some n)
    (answer : ((Assembler.parameters n).run source state).answer = .ok id) :
    let body := (nested .lambda >>= fun body => Assembler.branch .arrow [id, body]).run source
      ((Assembler.parameters n).run source state).last
    (Assembler.lambda nested).run source state = ⟨body.answer, body.last,
      ((Assembler.parameters n).run source state).passed ++ body.passed⟩ := by
  have looked : (Assembler.ahead.run source state).answer = .ok (source.ahead state) := rfl
  rw [Assembler.lambda, Assembler.bind_of_ok looked, found]
  dsimp only
  have still : (Assembler.ahead.run source state).last = state := rfl
  rw [still, Assembler.bind_of_ok answer]
  rfl

end Machine

section Parser

variable {source : Source} {text : List Char} {state : Assembly} {n id : Nat}
  (nested : Grammar.Entry → Parser Nat)

theorem lambda_of_none (found : Assembler.parametersAhead? (source.ahead state) = none) :
    Parser.lambda source text nested state = Parser.ternary source text nested state := by
  rw [Parser.lambda, Parser.ahead_apply, found]

theorem lambda_of_some (reads : Parser.Reads source text)
    (found : Assembler.parametersAhead? (source.ahead state) = some n)
    (answer : ((Assembler.parameters n).run source state).answer = .ok id) :
    Parser.lambda source text nested state = (nested .lambda >>= fun body =>
      Parser.within source (.branch .arrow [id, body]))
        ((Assembler.parameters n).run source state).last := by
  obtain ⟨token, rest, here⟩ : ∃ token rest, source.ahead state = token :: rest :=
    List.exists_cons_of_ne_nil fun none => by
      rw [none] at found
      cases found
  rw [Parser.lambda, Parser.ahead_apply, found]
  dsimp only
  rw [Parser.bind_apply, Parser.parameters_within reads here, Parser.within_apply, answer]
  exact settled_ok_bind _ _

end Parser

end Source

/-- On every list of tokens, the look ahead and the parser agree. What they need is given wherever a rule
is read, which the parser reads as it is read by the grammar: the rule spells its tokens, and the
bookkeeping is right in every state that is passed. -/
theorem agreesOnLambdas : (∀ source : Source, source.AgreesOnLambdas) ∧
    ∀ (rule : String) (tokens : List Token), (Body.of rule.toList).tokens = .ok tokens →
      let source : Source := ⟨tokens, Text.byteLength rule.toList⟩
      source.Spells rule.toList ∧ ∀ beyond : Assembler Nat,
        SyntaxTree.parseByPosition beyond rule = settled (SyntaxTree.parse rule) ∧
          ∀ state ∈ .initial :: ((Assembler.expression beyond).run source .initial).passed,
            state.Sound source := by
  constructor
  · intro source
    refine
      { announces := fun place n => ?_
        decides := fun place => (source.lookAhead_found place).trans (parametersAhead?_eq _)
        inside := fun place => (source.lookAhead_places place).1
        ends := fun place => (source.lookAhead_places place).2
        limited := fun place other same => Source.lookAhead_congr same
        reads := fun state names front rest sound split heading => ?_
        fallsBack := fun place unannounced => ?_ }
    · rw [Source.lookAhead_found, Grammar.parametersAhead?_eq_some_iff]
    · have ahead : Assembler.parametersAhead? (source.ahead state) = some names.length :=
        Grammar.parametersAhead?_eq_some_iff.mpr ⟨names, front, rest, split, heading, rfl⟩
      obtain ⟨_, _, kinds⟩ := heading.parameters rest
      obtain ⟨_, reads, sound', answer, rfl⟩ := Source.run_parameters sound split heading
      refine ⟨kinds, _, reads, sound',
        fun nested => ⟨_, Source.run_lambda_of_some nested ahead answer⟩,
        fun text spells => ⟨spells.texts (fun token member => ?_) kinds, fun nested => ?_⟩⟩
      · have unread : token ∈ source.ahead state := by
          rw [split]
          exact List.mem_append_left rest (List.mem_of_mem_filter member)
        exact List.mem_of_mem_drop unread
      · exact Source.lambda_of_some nested spells.toReads ahead answer
    · rw [Source.lookAhead_found] at unannounced
      have noHead : ∀ params middle, ¬ Parameters (source.tokens.drop place) params middle :=
        fun _ _ => Grammar.not_parameters_of_parametersAhead? unannounced
      refine ⟨noHead, fun _ _ _ => Grammar.Derives.lambda_iff_ternary noHead, ?_⟩
      rintro state rfl
      exact ⟨fun nested => Source.run_lambda_of_none nested unannounced,
        fun text nested => Source.lambda_of_none nested unannounced⟩
  · intro rule tokens split source
    have initial := Assembly.sound_initial source
    refine ⟨Source.spells_of_tokens split _, fun beyond => ⟨?_, List.forall_mem_cons.mpr ⟨initial, ?_⟩⟩⟩
    · exact SyntaxTree.parseByPosition_eq beyond rule
    · exact (follows_expression beyond source ⟨initial, rfl⟩).1.sound

/-- The tokens of the rule `(a, b) -> a`. -/
def pairOfNames : List Token :=
  [⟨.mark .openParen, ⟨0, 1⟩, "("⟩, ⟨.ident "a", ⟨1, 2⟩, "a"⟩, ⟨.mark .comma, ⟨2, 3⟩, ","⟩,
    ⟨.ident "b", ⟨4, 5⟩, "b"⟩, ⟨.mark .closeParen, ⟨5, 6⟩, ")"⟩, ⟨.mark .arrow, ⟨7, 9⟩, "->"⟩,
    ⟨.ident "a", ⟨10, 11⟩, "a"⟩]

/-- At the parenthesis two parameters are announced and read. At the second name none is announced, for
the arrow does not come right after it. -/
theorem agreesOnLambdas_pair :
    let source : Source := ⟨pairOfNames, 11⟩
    (source.lookAhead 0).found = some 2 ∧ (source.lookAhead 3).found = none ∧
      ∃ mid, Assembly.initial.ReadsParameters (pairOfNames.take 6) mid ∧
        ∀ nested : Grammar.Entry → Parser Nat,
          Parser.lambda source "(a, b) -> a".toList nested .initial =
            (nested .lambda >>= fun body => Parser.within source (.branch .arrow [2, body])) mid := by
  intro source
  obtain ⟨agrees, rules⟩ := agreesOnLambdas
  have split : (Body.of "(a, b) -> a".toList).tokens = .ok pairOfNames :=
    Lexer.tokens_of_split? (n := 12) rfl
  have heading : Grammar.Heading ["a", "b"] ((pairOfNames.take 6).map Token.kind) :=
    .listed ["a", "b"]
  have parts : source.tokens.drop 0 = pairOfNames.take 6 ++ pairOfNames.drop 6 := rfl
  obtain ⟨_, mid, reads, _, _, parser⟩ :=
    (agrees source).reads .initial ["a", "b"] _ _ (Assembly.sound_initial source) parts heading
  refine ⟨?_, ?_, mid, reads, (parser _ (rules _ _ split).1).2⟩
  · exact ((agrees source).announces 0 2).mpr ⟨["a", "b"], _, _, parts, heading, rfl⟩
  · rw [Source.lookAhead_found]
    rfl

end TargetingRules
