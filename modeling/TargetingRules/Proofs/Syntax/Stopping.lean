import TargetingRules.Proofs.Syntax.Assembled
import TargetingRules.Proofs.Syntax.Nesting

/-!
# Where a run stops

A run that fails leaves the state in which it has failed, so that one can ask what was ahead there. The
failure of a run names the token that comes next, or says that there is none. Only a tree that gets too
high is found out later, when the node over it is pushed; it is reported at the start of that node, and
nodes start where tokens do. That is the invariant of the runs here.
-/

namespace TargetingRules

namespace Source

/-- A token starts at a position. -/
def StartsAt (source : Source) (pos : Nat) : Prop :=
  ∃ token ∈ source.tokens, token.span.start = pos

section StartsAt

variable {source : Source} {state : Assembly} {token : Token} {rest : List Token} {s r : Span}

theorem mem_of_ahead (next : source.ahead state = token :: rest) : token ∈ source.tokens :=
  List.mem_of_mem_drop (next ▸ List.mem_cons_self)

theorem startsAt_of_mem (member : token ∈ source.tokens) : source.StartsAt token.span.start :=
  ⟨token, member, rfl⟩

theorem StartsAt.join (starts : source.StartsAt s.start) (starts' : source.StartsAt r.start) :
    source.StartsAt (s.join r).start := by
  simp only [Span.join]
  rcases Nat.le_total s.start r.start with less | less
  · rwa [Nat.min_eq_left less]
  · rwa [Nat.min_eq_right less]

theorem StartsAt.cover {spans : List Span} (nonempty : spans ≠ [])
    (starts : ∀ s ∈ spans, source.StartsAt s.start) : source.StartsAt (Span.cover spans).start := by
  obtain ⟨s, member, same⟩ := (Span.covers_cover nonempty).start
  exact same ▸ starts s member

end StartsAt

end Source

/-- All nodes start where tokens start, and the nesting is so deep. -/
structure Assembly.Placed (source : Source) (depth : Nat) (state : Assembly) : Prop where
  startsAt : ∀ node ∈ state.builder.nodes, source.StartsAt node.span.start
  nesting_eq : state.nesting = depth

theorem Assembly.placed_initial (source : Source) : initial.Placed source 0 where
  startsAt node member := absurd member (Array.not_mem_empty node)
  nesting_eq := rfl

/-- A failure is for what comes next in a state, or for a node that has got too high. -/
def ParseError.IsAt (source : Source) (last : Assembly) : ParseError → Prop
  | .unexpectedToken found _ pos =>
    ∃ token rest, source.ahead last = token :: rest ∧ token.kind = found ∧ token.span.start = pos
  | .unexpectedEnd _ => source.ahead last = []
  | .tooDeep pos => source.StartsAt pos ∨ source.ahead last = [] ∧ pos = source.textEnd
  | .tree _ => True
  | _ => False

/-- A run ends with well placed nodes and a good result, or with a failure for what comes next. -/
structure Run.Points {α : Type} (run : Run α) (source : Source) (depth : Nat) (good : α → Prop) :
    Prop where
  placed : run.last.Placed source depth
  answers : ∀ a, run.answer = .ok a → good a
  fails : FailsWith (ParseError.IsAt source run.last) run.answer

section Runs

variable {α : Type} {source : Source} {depth : Nat} {last : Assembly} {passed : List Assembly}
  {good : α → Prop}

theorem Run.Points.ok (placed : last.Placed source depth) {a : α} (holds : good a) :
    Run.Points ⟨.ok a, last, passed⟩ source depth good :=
  ⟨placed, fun _ same => Except.ok.inj same ▸ holds, failsWith_ok a⟩

theorem Run.Points.error (placed : last.Placed source depth) {e : ParseError}
    (isAt : e.IsAt source last) : Run.Points ⟨.error e, last, passed⟩ source depth good :=
  ⟨placed, (fun _ same => nomatch same), failsWith_error isAt⟩

end Runs

/-- Where the nodes are well placed, a part runs to such an end. -/
def Assembler.PointsFrom {α : Type} (source : Source) (depth : Nat) (state : Assembly)
    (part : Assembler α) (good : α → Prop) : Prop :=
  state.Placed source depth → (part.run source state).Points source depth good

/-- A part does so from every state. -/
def Assembler.Points {α : Type} (source : Source) (depth : Nat) (part : Assembler α)
    (good : α → Prop) : Prop :=
  ∀ state, part.PointsFrom source depth state good

namespace Assembler

section Rules

variable {α β : Type} {source : Source} {depth : Nat} {state : Assembly} {good : α → Prop}
  {good' : β → Prop}

theorem points_pure {a : α} (holds : good a) : Points source depth (pure a) good :=
  fun _ placed => .ok placed holds

theorem PointsFrom.bind {part : Assembler α} {next : α → Assembler β}
    (first : part.PointsFrom source depth state good)
    (second : ∀ a, good a → Points source depth (next a) good') :
    (part >>= next).PointsFrom source depth state good' := by
  intro placed
  obtain ⟨placed', answers, fails⟩ := first placed
  cases answer : (part.run source state).answer with
  | error e =>
    rw [bind_of_error answer]
    exact .error placed' (fails e answer)
  | ok a =>
    rw [bind_of_ok answer]
    obtain ⟨placed'', answers', fails'⟩ := second a (answers a answer) _ placed'
    exact ⟨placed'', answers', fails'⟩

theorem Points.bind {part : Assembler α} {next : α → Assembler β}
    (first : Points source depth part good)
    (second : ∀ a, good a → Points source depth (next a) good') :
    Points source depth (part >>= next) good' :=
  fun state => (first state).bind second

/-- What is ahead is known to the parts after it until one of them moves. -/
theorem points_ahead {next : List Token → Assembler β}
    (seen : ∀ state ts, source.ahead state = ts → (next ts).PointsFrom source depth state good') :
    Points source depth (ahead >>= next) good' :=
  fun state => seen state _ rfl

theorem PointsFrom.ahead {ts : List Token} (here : source.ahead state = ts)
    {next : List Token → Assembler β} (seen : (next ts).PointsFrom source depth state good') :
    (Assembler.ahead >>= next).PointsFrom source depth state good' := by
  subst here
  exact seen

/-! ### Steps -/

theorem points_move : Points source depth move fun _ => True :=
  fun _ ⟨startsAt, nesting_eq⟩ => ⟨⟨startsAt, nesting_eq⟩, fun _ _ => trivial, failsWith_ok _⟩

theorem PointsFrom.unexpected {expected : Expectation} {ts : List Token}
    (here : source.ahead state = ts) :
    (fail (Grammar.unexpected expected ts)).PointsFrom source depth state good := by
  intro placed
  refine .error placed ?_
  cases ts with
  | nil => exact here
  | cons token rest => exact ⟨token, rest, here, rfl, rfl⟩

theorem points_spanOf (id : Nat) :
    Points source depth (spanOf id) fun span => source.StartsAt span.start := by
  intro state placed
  simp only [spanOf, TreeBuilder.node]
  cases found : state.builder.nodes[id]? with
  | none => exact .error placed trivial
  | some node => exact .ok placed (placed.startsAt node (Array.mem_of_getElem? found))

theorem points_spansOf (ids : List Nat) : Points source depth (spansOf ids) fun spans =>
    spans.length = ids.length ∧ ∀ s ∈ spans, source.StartsAt s.start := by
  induction ids with
  | nil => exact points_pure ⟨rfl, by simp⟩
  | cons id ids ih =>
    refine (points_spanOf id).bind fun first starts => ih.bind fun others ⟨same, starts'⟩ => ?_
    exact points_pure ⟨congrArg (· + 1) same, List.forall_mem_cons.mpr ⟨starts, starts'⟩⟩

/-- A node may be refused for the height of its tree, and that is reported at its start. -/
theorem points_push {node : Node} (starts : source.StartsAt node.span.start) :
    Points source depth (push node) fun _ => True := by
  intro state placed
  unfold push TreeBuilder.push
  dsimp only
  split
  next high => exact .error placed (.inl starts)
  next low =>
    split
    next => exact .error placed trivial
    next pushed =>
      split at pushed
      next => cases pushed
      next =>
        cases pushed
        refine ⟨⟨fun other member => ?_, placed.nesting_eq⟩, fun _ _ => trivial, failsWith_ok _⟩
        rcases Array.mem_push.mp member with earlier | rfl
        · exact placed.startsAt other earlier
        · exact starts

theorem points_leaf {kind : Kind} {token : Token} (member : token ∈ source.tokens) :
    Points source depth (leaf kind token) fun _ => True :=
  points_push (Source.startsAt_of_mem member)

theorem points_branch {kind : Kind} {ids : List Nat} (nonempty : ids ≠ []) :
    Points source depth (branch kind ids) fun _ => True := by
  refine (points_spansOf ids).bind fun spans ⟨same, starts⟩ => points_push ?_
  refine .cover (fun none => nonempty ?_) starts
  rwa [none, eq_comm, List.length_nil, List.length_eq_zero_iff] at same

theorem points_eat (mark : Mark) :
    Points source depth (eat mark) fun found => ∀ token ∈ found, token ∈ source.tokens := by
  refine points_ahead fun state ts here => ?_
  cases found : Grammar.take? mark ts with
  | none => exact points_pure (by simp) state
  | some taken =>
    rw [(Grammar.take?_eq_some found).1] at here
    refine points_move.bind (fun _ _ => points_pure ?_) state
    rintro _ ⟨⟩
    exact Source.mem_of_ahead here

theorem points_expect (mark : Mark) : Points source depth (expect mark) (· ∈ source.tokens) := by
  refine points_ahead fun state ts here => ?_
  cases found : Grammar.take? mark ts with
  | none => exact .ahead here (.unexpected here)
  | some taken =>
    rw [(Grammar.take?_eq_some found).1] at here
    exact points_move.bind (fun _ _ => points_pure (Source.mem_of_ahead here)) state

theorem points_operator (kind? : Mark → Option Kind) : Points source depth (operator kind?)
    fun found => ∀ kind token, found = some (kind, token) → token ∈ source.tokens := by
  refine points_ahead fun state ts here => ?_
  cases found : Grammar.operator? kind? ts with
  | none => exact points_pure (by simp) state
  | some pair =>
    obtain ⟨kind, taken⟩ := pair
    rw [(Grammar.operator?_eq_some found).1] at here
    refine points_move.bind (fun _ _ => points_pure ?_) state
    rintro _ _ ⟨⟩
    exact Source.mem_of_ahead here

theorem points_propertyName : Points source depth propertyName (· ∈ source.tokens) := by
  refine points_ahead fun state ts here => ?_
  cases found : Grammar.propertyName ts with
  | error e =>
    unfold Grammar.propertyName at found
    split at found
    next => cases found
    next =>
      cases found
      exact .unexpected here
  | ok taken =>
    rw [(Grammar.propertyName_eq_ok found).1] at here
    exact points_move.bind (fun _ _ => points_pure (Source.mem_of_ahead here)) state

/-- Past the limit of nesting a run stops at the next token, or after the text. -/
theorem points_descend_stop {part : Assembler Nat} (deep : Grammar.maxDepth ≤ depth) :
    Points source depth (descend part) fun _ => True := by
  intro state placed
  unfold descend
  dsimp only
  rw [if_pos (by rwa [placed.nesting_eq])]
  refine .error placed ?_
  cases here : source.ahead state with
  | nil => exact .inr ⟨here, rfl⟩
  | cons token rest => exact .inl (Source.startsAt_of_mem (Source.mem_of_ahead here))

theorem points_descend {part : Assembler Nat} (shallow : depth < Grammar.maxDepth)
    (inside : Points source (depth + 1) part fun _ => True) :
    Points source depth (descend part) fun _ => True := by
  intro state placed
  obtain ⟨placed', answers, fails⟩ :=
    inside state.deeper ⟨placed.startsAt, congrArg (· + 1) placed.nesting_eq⟩
  unfold descend
  dsimp only
  rw [if_neg (by rw [placed.nesting_eq]; omega)]
  exact ⟨⟨placed'.startsAt, congrArg (· - 1) placed'.nesting_eq⟩, answers,
    fails.mono fun e isAt => by cases e <;> exact isAt⟩

end Rules

/-! ## Levels -/

section Chains

variable {source : Source} {depth : Nat} {operand : Assembler Nat}
  (points : Points source depth operand fun _ => True)

include points

theorem points_separated (mark : Mark) (turns : Nat) :
    Points source depth (separated mark operand turns) (· ≠ []) := by
  induction turns with
  | zero => exact points.bind fun first _ => points_pure (List.cons_ne_nil _ _)
  | succ turns ih =>
    refine points.bind fun first _ => (points_eat mark).bind fun found _ => ?_
    cases found with
    | none => exact points_pure (List.cons_ne_nil _ _)
    | some _ => exact ih.bind fun more _ => points_pure (List.cons_ne_nil _ _)

theorem points_flatChain (kind : Kind) (mark : Mark) :
    Points source depth (flatChain kind mark operand) fun _ => True := by
  refine points_ahead fun state ts _ => ?_
  refine (points_separated points mark ts.length).bind (fun ids nonempty => ?_) state
  split
  next => exact points_pure trivial
  next => exact points_branch nonempty

theorem points_leftChainFrom (kind? : Mark → Option Kind) (turns left : Nat) :
    Points source depth (leftChainFrom kind? operand turns left) fun _ => True := by
  induction turns generalizing left with
  | zero => exact points_pure trivial
  | succ turns ih =>
    refine (points_operator kind?).bind fun found _ => ?_
    cases found with
    | none => exact points_pure trivial
    | some pair =>
      exact points.bind fun right _ => (points_branch (List.cons_ne_nil _ _)).bind fun id _ => ih id

theorem points_leftChain (kind? : Mark → Option Kind) :
    Points source depth (leftChain kind? operand) fun _ => True :=
  points.bind fun left _ => points_ahead fun state ts _ =>
    points_leftChainFrom points kind? ts.length left state

end Chains

section Parameters

variable {source : Source} {depth : Nat}

theorem points_parameter : Points source depth parameter fun _ => True := by
  refine points_ahead fun state ts here => ?_
  cases ts with
  | nil => exact .unexpected here
  | cons token rest => exact points_move.bind (fun _ _ => points_leaf (Source.mem_of_ahead here)) state

theorem points_parameterList (count : Nat) :
    Points source depth (parameterList count) fun _ => True := by
  fun_induction parameterList count with
  | case1 => exact points_pure trivial
  | case2 => exact points_parameter.bind fun last _ => points_pure trivial
  | case3 count ih =>
    exact points_parameter.bind fun first _ => (points_expect .comma).bind fun comma _ =>
      ih.bind fun others _ => points_pure trivial

theorem points_closeAfter (opening : Option Token) :
    Points source depth (closeAfter opening) fun _ => True := by
  cases opening with
  | none => exact points_pure trivial
  | some _ => exact (points_expect .closeParen).bind fun close _ => points_pure trivial

/-- Parameters start at a token, for they are only looked for where there is one. -/
theorem pointsFrom_parameters {state : Assembly} {token : Token} {rest : List Token}
    (here : source.ahead state = token :: rest) (count : Nat) :
    (parameters count).PointsFrom source depth state fun _ => True := by
  refine .ahead here ?_
  refine (points_eat .openParen).bind (fun opening _ => ?_) state
  refine (points_parameterList count).bind fun names _ => ?_
  refine (points_closeAfter opening).bind fun _ _ => ?_
  refine (points_expect .arrow).bind fun arrow _ => ?_
  cases names with
  | nil => exact points_push (Source.startsAt_of_mem (Source.mem_of_ahead here))
  | cons name names => exact points_branch (List.cons_ne_nil _ _)

end Parameters

section Levels

variable {source : Source} {depth : Nat} {inner : Grammar.Entry → Assembler Nat}
  (points : ∀ entry, Points source depth (inner entry) fun _ => True)

include points

theorem points_closedList (close : Mark) :
    Points source depth (closedList inner close) (·.2 ∈ source.tokens) := by
  refine (points_eat close).bind fun found among => ?_
  cases found with
  | some token => exact points_pure (among token rfl)
  | none =>
    refine points_ahead fun state ts _ => ?_
    refine (points_separated (points .assignment) .comma ts.length).bind (fun items _ => ?_) state
    exact (points_expect close).bind fun token member => points_pure member

theorem points_call {image : String} {span : Span} (starts : source.StartsAt span.start) :
    Points source depth (call inner image span) fun _ => True :=
  (points_expect .openParen).bind fun _ _ => (points_closedList points .closeParen).bind
    fun ⟨_, _⟩ member => points_push (starts.join (Source.startsAt_of_mem member))

theorem points_arguments : Points source depth (arguments inner) fun _ => True :=
  (points_expect .openParen).bind fun _ member => (points_closedList points .closeParen).bind
    fun ⟨_, _⟩ member' =>
      points_push ((Source.startsAt_of_mem member).join (Source.startsAt_of_mem member'))

theorem points_named {token : Token} (member : token ∈ source.tokens) :
    Points source depth (named inner token) fun _ => True := by
  refine points_move.bind fun _ _ => points_ahead fun state ts here => ?_
  have starts := Source.startsAt_of_mem member
  split
  next => exact points_call points starts state
  next colon _ name span word _ _ _ =>
    split
    next =>
      have among : ⟨.ident name, span, word⟩ ∈ source.tokens :=
        List.mem_of_mem_drop (here ▸ List.mem_cons_of_mem _ List.mem_cons_self)
      exact points_move.bind (fun _ _ => points_move.bind fun _ _ =>
        points_call points (starts.join (Source.startsAt_of_mem among))) state
    next => exact points_leaf member state
  next => exact points_leaf member state

theorem points_primary : Points source depth (primary inner) fun _ => True := by
  refine points_ahead fun state ts here => ?_
  cases ts with
  | nil => exact .unexpected here
  | cons token rest =>
    have member := Source.mem_of_ahead here
    dsimp only
    split
    next => exact points_move.bind (fun _ _ => points_leaf member) state
    next => exact points_move.bind (fun _ _ => points_leaf member) state
    next => exact points_move.bind (fun _ _ => points_leaf member) state
    next => exact points_move.bind (fun _ _ => points_leaf member) state
    next => exact points_named points member state
    next =>
      refine points_move.bind (fun _ _ => (points .assignment).bind fun inside _ => ?_) state
      exact (points_expect .closeParen).bind fun close _ => points_pure trivial
    next =>
      refine points_move.bind (fun _ _ => (points_closedList points .closeBracket).bind ?_) state
      rintro ⟨items, close⟩ member'
      exact points_push ((Source.startsAt_of_mem member).join (Source.startsAt_of_mem member'))
    next => exact .unexpected here

theorem points_accessNext {goOn : Nat → Assembler Nat}
    (further : ∀ id, Points source depth (goOn id) fun _ => True) (target : Nat) :
    Points source depth (accessNext inner goOn target) fun _ => True := by
  refine (points_eat .dot).bind fun found _ => ?_
  cases found with
  | some dot =>
    refine points_propertyName.bind fun name member => (points_leaf member).bind fun leaf _ => ?_
    refine points_ahead fun state ts _ => ?_
    cases Grammar.take? .openParen ts with
    | some _ =>
      refine (points_arguments points).bind (fun list _ => ?_) state
      exact (points_branch (List.cons_ne_nil _ _)).bind fun id _ => further id
    | none => exact (points_branch (List.cons_ne_nil _ _)).bind (fun id _ => further id) state
  | none =>
    refine (points_eat .openBracket).bind fun found _ => ?_
    cases found with
    | some opening =>
      refine (points .assignment).bind fun index _ => (points_expect .closeBracket).bind
        fun close member => (points_spanOf target).bind fun span starts => ?_
      exact (points_push (starts.join (Source.startsAt_of_mem member))).bind fun id _ => further id
    | none => exact points_pure trivial

theorem points_accessFrom (turns target : Nat) :
    Points source depth (accessFrom inner turns target) fun _ => True := by
  induction turns generalizing target with
  | zero => exact points_pure trivial
  | succ turns ih => exact points_accessNext points ih target

theorem points_access : Points source depth (access inner) fun _ => True :=
  (points_primary points).bind fun target _ => points_ahead fun state ts _ =>
    points_accessFrom points ts.length target state

theorem points_unary : Points source depth (unary inner) fun _ => True := by
  refine (points_operator Grammar.unary?).bind fun found among => ?_
  cases found with
  | none => exact points_access points
  | some pair =>
    obtain ⟨kind, op⟩ := pair
    have starts := Source.startsAt_of_mem (among kind op rfl)
    exact (points .unary).bind fun operand _ => (points_spanOf operand).bind fun span starts' =>
      points_push (starts.join starts')

theorem points_ternary (below : Points source depth (disjunction inner) fun _ => True) :
    Points source depth (ternary inner) fun _ => True := by
  refine below.bind fun condition _ => (points_eat .question).bind fun found _ => ?_
  cases found with
  | none => exact points_pure trivial
  | some question =>
    exact (points .ternary).bind fun whenTrue _ => (points_expect .colon).bind fun colon _ =>
      (points .ternary).bind fun whenFalse _ => points_branch (List.cons_ne_nil _ _)

theorem points_lambda (below : Points source depth (ternary inner) fun _ => True) :
    Points source depth (lambda inner) fun _ => True := by
  refine points_ahead fun state ts here => ?_
  cases found : parametersAhead? ts with
  | none => exact below state
  | some count =>
    cases ts with
    | nil => cases found
    | cons token rest =>
      refine (pointsFrom_parameters here count).bind fun params _ => ?_
      exact (points .lambda).bind fun body _ => points_branch (List.cons_ne_nil _ _)

theorem points_assignment (below : Points source depth (lambda inner) fun _ => True) :
    Points source depth (assignment inner) fun _ => True := by
  refine below.bind fun target _ => (points_eat .assign).bind fun found _ => ?_
  cases found with
  | none => exact points_pure trivial
  | some op =>
    exact (points .assignment).bind fun value _ => points_branch (List.cons_ne_nil _ _)

theorem points_level (ℓ : Grammar.Level) :
    Points source depth (ℓ.assembler inner) fun _ => True := by
  have unary := points_unary points
  have product : Points source depth (product inner) fun _ => True := points_leftChain unary _
  have sum : Points source depth (sum inner) fun _ => True := points_leftChain product _
  have concatenation : Points source depth (concatenation inner) fun _ => True :=
    points_leftChain sum _
  have relation : Points source depth (relation inner) fun _ => True :=
    points_leftChain concatenation _
  have equality : Points source depth (equality inner) fun _ => True := points_leftChain relation _
  have conjunction : Points source depth (conjunction inner) fun _ => True :=
    points_flatChain equality _ _
  have disjunction : Points source depth (disjunction inner) fun _ => True :=
    points_flatChain conjunction _ _
  have ternary := points_ternary points disjunction
  have lambda := points_lambda points ternary
  cases ℓ with
  | assignment => exact points_assignment points lambda
  | lambda => exact lambda
  | ternary => exact ternary
  | disjunction => exact disjunction
  | conjunction => exact conjunction
  | equality => exact equality
  | relation => exact relation
  | concatenation => exact concatenation
  | sum => exact sum
  | product => exact product
  | unary => exact unary
  | access => exact points_access points
  | primary => exact points_primary points

end Levels

/-! ## Nesting -/

/-- What the machine would do beyond its levels of nesting is never run. -/
theorem points_nested {source : Source} {beyond : Assembler Nat} {depth levels : Nat}
    (all : depth + levels = Grammar.maxDepth) (entry : Grammar.Entry) :
    Points source depth (nested beyond (levels + 1) entry) fun _ => True := by
  induction levels generalizing depth entry with
  | zero => exact points_descend_stop (by omega)
  | succ levels ih =>
    exact points_descend (by omega) (points_level (fun entry => ih (by omega) entry) _)

/-- The state in which the machine stops. -/
def stop (beyond : Assembler Nat) (source : Source) : Assembly :=
  ((expression beyond).run source .initial).last

/-- An expression fails, if at all, for what comes next where the machine stops. -/
theorem isAt_of_expression {beyond : Assembler Nat} {source : Source} {e : ParseError}
    (failed : ((expression beyond).run source .initial).answer = .error e) :
    e.IsAt source (stop beyond source) :=
  (points_nested (Nat.zero_add _) .assignment .initial (Assembly.placed_initial source)).fails e failed

end Assembler

end TargetingRules
