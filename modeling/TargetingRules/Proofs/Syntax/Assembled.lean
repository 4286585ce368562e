import TargetingRules.Proofs.Syntax.Bookkeeping

/-!
# The machine follows the grammar

Every part of the machine does what the reader of the grammar at its place does. The parts are taken
in the order of the grammar, each over parts for nested expressions that follow their readers, and
the induction on the levels of nesting closes the circle.
-/

namespace TargetingRules

open Follows (pure)

section Chains

variable {source : Source} {depth : Nat} {state : Assembly} {part : Assembler Nat}
  {reader : Grammar.Reader} {mark : Mark} {kind : Kind} {kind? : Mark → Option Kind}
  {ts : List Token}

theorem follows_separated (operand : Assembles source depth part reader) {turns : Nat}
    (here : source.ahead state = ts) (enough : ts.length ≤ turns) :
    Follows source depth state ((Assembler.separated mark part turns).run source state)
      (Grammar.separated mark reader ts) fun several ids =>
        Reached source state.builder.nodes.toList several.trees several.rest ids := by
  induction turns generalizing state ts with
  | zero =>
    rw [Grammar.separated]
    refine Follows.read operand (.start here) fun first id mid _ _ => ?_
    have := first.shorter
    omega
  | succ turns ih =>
    rw [Grammar.separated, Assembler.separated]
    refine Follows.read operand (.start here) fun first id mid _ reached => ?_
    refine Follows.eat reached (fun absent => ?_) fun taken present reached => ?_
    · rw [absent]
      exact pure reached
    · rw [present]
      have := first.shorter
      have := taken.shorter
      refine Follows.bind (ih reached.here (by omega)) fun more ids last _ later => ?_
      exact pure (reached.append later)

theorem assembles_flatChain (operand : Assembles source depth part reader) :
    Assembles source depth (.flatChain kind mark part) (Grammar.flatChain kind mark reader) := by
  intro state ts here
  refine Follows.ahead (.start here) ?_
  refine Follows.bind (follows_separated operand here (Nat.le_refl _))
    fun ⟨trees, rest, shorter⟩ ids mid _ reached => ?_
  obtain rfl := reached.held.roots
  match trees, reached with
  | [t], reached => exact pure reached
  | [], reached => exact (Follows.branch reached kind).map fun _ _ reached => reached
  | first :: second :: more, reached =>
    exact (Follows.branch reached kind).map fun _ _ reached => reached

theorem follows_leftChainFrom (operand : Assembles source depth part reader) {before : List Node}
    {left : Grammar.Parsed ts} {id : Nat} {turns : Nat}
    (reached : Reached source before [left.tree] left.rest [id] state)
    (enough : left.rest.length ≤ turns) :
    Follows source depth state ((Assembler.leftChainFrom kind? part turns id).run source state)
      (Grammar.leftChainFrom kind? reader left) fun parsed id =>
        Reached source before [parsed.tree] parsed.rest [id] := by
  induction turns generalizing state left id with
  | zero =>
    have ended : left.rest = [] := List.eq_nil_of_length_eq_zero (by omega)
    have absent : Grammar.operator? kind? left.rest = none := by
      rw [ended]
      rfl
    rw [Grammar.leftChainFrom, Assembler.leftChainFrom, absent]
    exact pure reached
  | succ turns ih =>
    rw [Grammar.leftChainFrom, Assembler.leftChainFrom]
    refine Follows.operator reached (fun absent => ?_) fun kind taken present reached => ?_
    · rw [absent]
      exact pure reached
    · rw [present]
      have := taken.shorter
      refine Follows.read operand reached fun right _ _ _ reached => ?_
      refine Follows.bind (Follows.branch reached kind) fun t _ _ _ reached => ?_
      have := right.shorter
      exact ih reached (by dsimp only; omega)

theorem assembles_leftChain (operand : Assembles source depth part reader) :
    Assembles source depth (.leftChain kind? part) (Grammar.leftChain kind? reader) := by
  intro state ts here
  refine Follows.read operand (.start here) fun left id mid _ reached => ?_
  refine Follows.ahead reached ?_
  exact follows_leftChainFrom operand reached (Nat.le_refl _)

end Chains

/-! ## Parameters of lambdas -/

theorem namesAhead?_eq (count : Nat) (ts : List Token) :
    Assembler.namesAhead? count ts =
      (Grammar.parameterNames? ts).map fun found => count + found.names.length := by
  fun_induction Grammar.parameterNames? ts generalizing count with
  | case1 name span text comma spelling rest ih =>
    rw [Assembler.namesAhead?, ih, Option.map_map]
    refine congrArg (Option.map · _) (funext fun found => ?_)
    simp only [Function.comp_apply, List.length_cons]
    omega
  | case2 => rfl
  | case3 ts noMore noLast =>
    rw [Assembler.namesAhead?]
    · rfl
    · exact noMore
    · exact noLast

theorem parametersAhead?_eq (ts : List Token) :
    Assembler.parametersAhead? ts =
      (Grammar.lambdaHead? ts).map fun head => head.tree.children.length := by
  fun_cases Grammar.lambdaHead? ts with
  | case1 => rfl
  | case2 => rfl
  | case3 opening spelling rest notClosed =>
    rw [Assembler.parametersAhead?, Grammar.lambdaHead?, namesAhead?_eq, Option.map_map]
    · refine congrArg (Option.map · _) (funext fun found => ?_)
      simp only [Function.comp_apply, Grammar.parameters, Tree.children, List.length_map]
      omega
    · exact notClosed
    · exact notClosed
  | case4 ts noName notClosed noNames =>
    rw [Assembler.parametersAhead?, Grammar.lambdaHead?]
    · rfl
    · exact noName
    · exact notClosed
    · exact noNames
    · exact noName
    · exact notClosed
    · exact noNames

theorem heightAll_leaves_le (kind : Kind) (names : List Token) :
    Tree.heightAll (names.map (Grammar.leaf kind)) ≤ 1 := by
  induction names with
  | nil => exact Nat.zero_le 1
  | cons name names ih =>
    simp only [List.map_cons, Tree.heightAll, Grammar.leaf, Tree.height] at ih ⊢
    omega

/-- The node over the parameters of a lambda is never too high. -/
theorem branch_leaves (kind leaves : Kind) (names : List Token) :
    Grammar.branch kind (names.map (Grammar.leaf leaves)) =
      .ok (Grammar.spanning kind (names.map (Grammar.leaf leaves))) := by
  refine Grammar.branch_of_low ?_
  have low := heightAll_leaves_le leaves names
  simp only [Grammar.spanning, Tree.height, Grammar.maxDepth]
  omega

section Parameters

variable {source : Source} {depth : Nat} {state : Assembly} {ts rest : List Token} {α β : Type}
  {result : Except ParseError α} {agrees : α → β → Assembly → Prop} {before : List Node}
  {trees : List Tree} {ids : List Nat}

theorem follows_parameter {token : Token}
    (reached : Reached source before trees (token :: rest) ids state) {next : Nat → Assembler β}
    (seen : ∀ id mid, Reached source before (trees ++ [Grammar.leaf .identifier token]) rest
      (ids ++ [id]) mid → Follows source depth mid ((next id).run source mid) result agrees) :
    Follows source depth state ((Assembler.parameter >>= next).run source state) result agrees := by
  rw [Assembler.parameter, bind_assoc]
  refine Follows.ahead reached ?_
  dsimp only
  rw [bind_assoc]
  exact Follows.move reached fun reached => Follows.leaf_bind reached seen

theorem follows_closeAfter {opening close : Token}
    (reached : Reached source before trees (close :: rest) ids state)
    (isClose : Grammar.IsMark .closeParen close) {next : Unit → Assembler β}
    (seen : Reached source before trees rest ids state.moved →
      Follows source depth state.moved ((next ()).run source state.moved) result agrees) :
    Follows source depth state ((Assembler.closeAfter (some opening) >>= next).run source state)
      result agrees := by
  rw [Assembler.closeAfter, bind_assoc]
  exact Follows.pass reached isClose seen

theorem follows_parameterList {names : List Token} (listed : Grammar.Names ts names rest)
    (reached : Reached source before trees ts ids state) {next : List Nat → Assembler β}
    (seen : ∀ others mid, Reached source before (trees ++ names.map (Grammar.leaf .identifier)) rest
      (ids ++ others) mid → Follows source depth mid ((next others).run source mid) result agrees) :
    Follows source depth state ((Assembler.parameterList names.length >>= next).run source state)
      result agrees := by
  induction listed generalizing trees ids state next with
  | one isName =>
    change Follows _ _ _ (((Assembler.parameterList 1) >>= next).run _ _) _ _
    rw [Assembler.parameterList, bind_assoc]
    exact follows_parameter reached fun _ _ reached => seen _ _ reached
  | @more name comma ts names rest isName isComma others ih =>
    obtain ⟨first, more, rfl⟩ := List.exists_cons_of_ne_nil others.ne_nil
    change Follows _ _ _ ((Assembler.parameterList (more.length + 2) >>= next).run _ _) _ _
    rw [Assembler.parameterList, bind_assoc]
    refine follows_parameter reached fun _ _ reached => ?_
    rw [bind_assoc]
    refine Follows.pass reached isComma fun reached => ?_
    rw [bind_assoc]
    refine ih reached fun others mid reached => ?_
    rw [List.append_assoc, List.append_assoc] at reached
    exact seen _ _ reached

theorem follows_parameterNode {names : List Token}
    (reached : Reached source before (names.map (Grammar.leaf .identifier)) ts ids state) :
    Follows source depth state ((Assembler.branch .lambdaParameters ids).run source state)
      (.ok (Grammar.spanning .lambdaParameters (names.map (Grammar.leaf .identifier))))
      fun params id => Reached source before [params] ts [id] := by
  rw [← branch_leaves]
  exact Follows.branch reached .lambdaParameters

theorem follows_parameters {params : Tree} (head : Grammar.Parameters ts params rest)
    (here : source.ahead state = ts) :
    Follows source depth state
      ((Assembler.parameters params.children.length).run source state) (.ok params)
      fun params id => Reached source state.builder.nodes.toList [params] rest [id] := by
  refine Follows.ahead (.start here) ?_
  cases head with
  | @name name arrow _ isName isArrow =>
    refine Follows.eat (.start here) (fun _ => ?_) fun opening found _ => ?_
    · refine follows_parameterList (.one isName) (.start here) fun _ _ reached => ?_
      obtain rfl := reached.held.roots
      refine Follows.pass reached isArrow fun reached => ?_
      exact follows_parameterNode reached
    · obtain ⟨split, isOpen⟩ := Grammar.take?_eq_some found
      rw [← (List.cons.inj split).1] at isOpen
      exact absurd isName isOpen.not_isName
  | @none opening close arrow _ isOpen isClose isArrow =>
    have low : (Tree.node .lambdaParameters none ⟨opening.span.start, arrow.span.start⟩ []).height ≤
        Grammar.maxDepth := by
      simp [Tree.height, Tree.heightAll, Grammar.maxDepth]
    refine Follows.eat (.start here) (fun absent => ?_) fun opening found reached => ?_
    · rw [Grammar.take?_cons isOpen] at absent
      cases absent
    · rw [Grammar.take?_cons isOpen] at found
      cases found
      simp only [Tree.children, List.length_nil, Assembler.parameterList, pure_bind]
      refine follows_closeAfter reached isClose fun reached => ?_
      refine Follows.pass reached isArrow fun reached => ?_
      rw [← Grammar.grow_of_low low]
      exact Follows.push reached _ _ _
  | @names opening ts names close arrow _ isOpen listed isClose isArrow =>
    refine Follows.eat (.start here) (fun absent => ?_) fun opening found reached => ?_
    · rw [Grammar.take?_cons isOpen] at absent
      cases absent
    · rw [Grammar.take?_cons isOpen] at found
      cases found
      obtain ⟨first, more, rfl⟩ := List.exists_cons_of_ne_nil listed.ne_nil
      simp only [Grammar.spanning, Tree.children, List.length_map]
      refine follows_parameterList listed reached fun _ _ reached => ?_
      obtain rfl := reached.held.roots
      refine follows_closeAfter reached isClose fun reached => ?_
      refine Follows.pass reached isArrow fun reached => ?_
      exact follows_parameterNode reached

end Parameters

section Levels

variable {source : Source} {depth : Nat} {state : Assembly}
  {inner : Grammar.Entry → Assembler Nat} {inner' : Grammar.Entry → Grammar.Reader}
  (assembles : ∀ entry, Assembles source depth (inner entry) (inner' entry))
  {ts rest : List Token}

include assembles

theorem follows_closedList (close : Mark) (here : source.ahead state = ts) :
    Follows source depth state ((Assembler.closedList inner close).run source state)
      (Grammar.closedList close inner' ts) fun closed found last =>
        Reached source state.builder.nodes.toList closed.trees closed.rest found.1 last ∧
          found.2 = closed.close := by
  rw [Assembler.closedList, Grammar.closedList]
  refine Follows.eat (.start here) (fun absent => ?_) fun taken present reached => ?_
  · rw [absent]
    refine Follows.ahead (.start here) ?_
    refine Follows.bind (follows_separated (assembles .assignment) here (Nat.le_refl _))
      fun items ids mid _ reached => ?_
    exact Follows.expect reached fun last reached => pure ⟨reached, rfl⟩
  · rw [present]
    exact pure ⟨reached, rfl⟩

theorem follows_call {opening : Token} (here : source.ahead state = opening :: rest)
    (isOpen : Grammar.IsMark .openParen opening) {image : String} {span : Span} {α : Type}
    {make : Grammar.Closed rest → Tree → α} {agrees : α → Nat → Assembly → Prop}
    (same : ∀ closed t id last,
      Reached source state.builder.nodes.toList [t] closed.rest [id] last →
        agrees (make closed t) id last) :
    Follows source depth state ((Assembler.call inner image span).run source state)
      (do
        let closed ← Grammar.closedList .closeParen inner' rest
        let t ← Grammar.grow .function (some image) (span.join closed.close.span) closed.trees
        return make closed t) agrees := by
  refine Follows.pass (.start here) isOpen fun reached => ?_
  refine Follows.bind (follows_closedList assembles .closeParen reached.here)
    fun closed ⟨ids, close⟩ mid _ ⟨later, isClose⟩ => ?_
  subst isClose
  exact (Follows.push (reached.append later) _ _ _).map fun t id => same closed t id _

theorem follows_arguments {opening : Token} (isOpen : Grammar.IsMark .openParen opening)
    {before : List Node} {trees : List Tree} {ids : List Nat}
    (reached : Reached source before trees (opening :: rest) ids state) {α β : Type}
    {next : Nat → Assembler β} {next' : Grammar.Closed rest → Tree → Except ParseError α}
    {agrees : α → β → Assembly → Prop}
    (seen : ∀ closed t id mid, Reached source before (trees ++ [t]) closed.rest (ids ++ [id]) mid →
      Follows source depth mid ((next id).run source mid) (next' closed t) agrees) :
    Follows source depth state ((Assembler.arguments inner >>= next).run source state)
      (do
        let closed ← Grammar.closedList .closeParen inner' rest
        let t ← Grammar.grow .arguments none (opening.span.join closed.close.span) closed.trees
        next' closed t) agrees := by
  rw [Assembler.arguments, bind_assoc]
  refine Follows.pass (.start reached.here) isOpen fun passed => ?_
  rw [bind_assoc]
  refine Follows.bind (follows_closedList assembles .closeParen passed.here)
    fun closed ⟨items, close⟩ mid _ ⟨later, isClose⟩ => ?_
  subst isClose
  refine Follows.bind (Follows.push (passed.append later) _ _ _) fun t id last _ pushed => ?_
  exact seen closed t id last (reached.append pushed)

theorem follows_named {token : Token} (here : source.ahead state = token :: rest) :
    Follows source depth state ((Assembler.named inner token).run source state)
      (Grammar.named inner' token rest) fun parsed id =>
        Reached source state.builder.nodes.toList [parsed.tree] parsed.rest [id] := by
  refine Follows.move (.start here) fun reached => ?_
  refine Follows.ahead reached ?_
  rw [Grammar.named]
  split
  · exact follows_call assembles reached.here rfl fun _ _ _ _ reached => reached
  · simp only [Grammar.callee?]
    split
    · next adjacent =>
      refine Follows.move reached fun reached => ?_
      refine Follows.move reached fun reached => ?_
      exact follows_call assembles reached.here rfl fun _ _ _ _ reached => reached
    · exact .leaf reached.here fun _ _ reached => reached
  · simp only [Grammar.callee?]
    exact .leaf reached.here fun _ _ reached => reached

theorem assembles_primary : Assembles source depth (.primary inner) (Grammar.primary inner') := by
  intro state ts here
  have reached : Reached source state.builder.nodes.toList [] ts [] state := .start here
  refine Follows.ahead reached ?_
  cases ts with
  | nil => exact Follows.fail _
  | cons token rest =>
    obtain ⟨kind, span, text⟩ := token
    rw [Grammar.primary]
    cases kind with
    | ident name => exact follows_named assembles here
    | mark mark =>
      cases mark with
      | openParen =>
        refine Follows.move reached fun reached => ?_
        refine Follows.read (assembles .assignment) reached fun inside id mid _ reached => ?_
        exact Follows.expect reached fun close reached => pure reached
      | openBracket =>
        refine Follows.move reached fun reached => ?_
        refine Follows.bind (follows_closedList assembles .closeBracket reached.here)
          fun items found mid _ agrees => ?_
        obtain ⟨ids, close⟩ := found
        obtain ⟨later, rfl⟩ := agrees
        exact (Follows.push (reached.append later) _ _ _).map fun _ _ reached => reached
      | _ => exact Follows.fail _
    | _ => exact Follows.move reached fun reached => .leaf reached.here fun _ _ reached => reached

theorem follows_accessFrom {before : List Node} {target : Grammar.Parsed ts} {id : Nat} {turns : Nat}
    (reached : Reached source before [target.tree] target.rest [id] state)
    (enough : target.rest.length ≤ turns) :
    Follows source depth state ((Assembler.accessFrom inner turns id).run source state)
      (Grammar.accessFrom inner' target) fun parsed id =>
        Reached source before [parsed.tree] parsed.rest [id] := by
  induction turns generalizing state target id with
  | zero =>
    have ended : target.rest = [] := List.eq_nil_of_length_eq_zero (by omega)
    have absent : ∀ mark, Grammar.take? mark target.rest = none := fun mark => by
      rw [ended]
      rfl
    rw [Grammar.accessFrom, absent .dot, absent .openBracket]
    exact pure reached
  | succ turns ih =>
    rw [Grammar.accessFrom]
    refine Follows.eat reached (fun absent => ?_) fun dot present reached => ?_
    · rw [absent]
      refine Follows.eat reached (fun absent => ?_) fun opening present reached => ?_
      · rw [absent]
        exact pure reached
      · rw [present]
        refine Follows.read (assembles .assignment) reached fun index _ _ _ reached => ?_
        refine Follows.expect reached fun close reached => ?_
        refine Follows.spanOf (List.forall₂_cons.mp reached.held.stands).1 ?_
        refine Follows.bind (Follows.push reached _ _ _) fun t _ _ _ reached => ?_
        have := opening.shorter
        have := index.shorter
        have := close.shorter
        exact ih reached (by dsimp only; omega)
    · rw [present]
      refine Follows.propertyName reached fun name reached => ?_
      have := dot.shorter
      have := name.shorter
      refine Follows.leaf_bind reached fun _ _ reached => ?_
      refine Follows.ahead reached ?_
      cases found : Grammar.take? .openParen name.rest with
      | none =>
        refine Follows.bind (Follows.branch reached _) fun t _ _ _ reached => ?_
        exact ih reached (by dsimp only; omega)
      | some opening =>
        obtain ⟨split, isOpen⟩ := Grammar.take?_eq_some found
        rw [split] at reached
        refine follows_arguments assembles isOpen reached fun list _ _ _ reached => ?_
        refine Follows.bind (Follows.branch reached _) fun t _ _ _ reached => ?_
        have := opening.shorter
        have := list.shorter
        exact ih reached (by dsimp only; omega)

theorem assembles_access : Assembles source depth (.access inner) (Grammar.access inner') := by
  intro state ts here
  refine Follows.read (assembles_primary assembles) (.start here) fun target id mid _ reached => ?_
  refine Follows.ahead reached ?_
  exact follows_accessFrom assembles reached (Nat.le_refl _)

theorem assembles_unary : Assembles source depth (.unary inner) (Grammar.unary inner') := by
  intro state ts here
  rw [Grammar.unary]
  refine Follows.operator (.start here) (fun absent => ?_) fun kind taken present reached => ?_
  · rw [absent]
    exact assembles_access assembles state ts here
  · rw [present]
    refine Follows.read (assembles .unary) reached fun operand id _ _ reached => ?_
    refine Follows.spanOf (List.forall₂_cons.mp reached.held.stands).1 ?_
    exact (Follows.push reached _ _ _).map fun _ _ reached => reached

theorem assembles_ternary
    (below : Assembles source depth (.disjunction inner) (Grammar.disjunction inner')) :
    Assembles source depth (.ternary inner) (Grammar.ternary inner') := by
  intro state ts here
  refine Follows.read below (.start here) fun condition _ _ _ reached => ?_
  refine Follows.eat reached (fun absent => ?_) fun question present reached => ?_
  · rw [absent]
    exact pure reached
  · rw [present]
    refine Follows.read (assembles .ternary) reached fun whenTrue _ _ _ reached => ?_
    refine Follows.expect reached fun colon reached => ?_
    refine Follows.read (assembles .ternary) reached fun whenFalse _ _ _ reached => ?_
    exact (Follows.branch reached _).map fun _ _ reached => reached

theorem assembles_lambda
    (below : Assembles source depth (.ternary inner) (Grammar.ternary inner')) :
    Assembles source depth (.lambda inner) (Grammar.lambda inner') := by
  intro state ts here
  refine Follows.ahead (.start here) ?_
  rw [Grammar.lambda, parametersAhead?_eq]
  cases found : Grammar.lambdaHead? ts with
  | none => exact below state ts here
  | some head =>
    refine Follows.after (follows_parameters (Grammar.parameters_of_lambdaHead? found) here)
      fun _ _ reached => ?_
    refine Follows.read (assembles .lambda) reached fun body _ _ _ reached => ?_
    exact (Follows.branch reached _).map fun _ _ reached => reached

theorem assembles_assignment
    (below : Assembles source depth (.lambda inner) (Grammar.lambda inner')) :
    Assembles source depth (.assignment inner) (Grammar.assignment inner') := by
  intro state ts here
  refine Follows.read below (.start here) fun target _ _ _ reached => ?_
  refine Follows.eat reached (fun absent => ?_) fun op present reached => ?_
  · rw [absent]
    exact pure reached
  · rw [present]
    refine Follows.read (assembles .assignment) reached fun value _ _ _ reached => ?_
    exact (Follows.branch reached _).map fun _ _ reached => reached

/-- Every level of the machine follows the reader of the level. -/
theorem assembles_level (ℓ : Grammar.Level) :
    Assembles source depth (ℓ.assembler inner) (ℓ.reader inner') := by
  have unary : Assembles source depth (.unary inner) (Grammar.unary inner') :=
    assembles_unary assembles
  have product : Assembles source depth (.product inner) (Grammar.product inner') :=
    assembles_leftChain unary
  have sum : Assembles source depth (.sum inner) (Grammar.sum inner') :=
    assembles_leftChain product
  have concatenation :
      Assembles source depth (.concatenation inner) (Grammar.concatenation inner') :=
    assembles_leftChain sum
  have relation : Assembles source depth (.relation inner) (Grammar.relation inner') :=
    assembles_leftChain concatenation
  have equality : Assembles source depth (.equality inner) (Grammar.equality inner') :=
    assembles_leftChain relation
  have conjunction : Assembles source depth (.conjunction inner) (Grammar.conjunction inner') :=
    assembles_flatChain equality
  have disjunction : Assembles source depth (.disjunction inner) (Grammar.disjunction inner') :=
    assembles_flatChain conjunction
  have ternary : Assembles source depth (.ternary inner) (Grammar.ternary inner') :=
    assembles_ternary assembles disjunction
  have lambda : Assembles source depth (.lambda inner) (Grammar.lambda inner') :=
    assembles_lambda assembles ternary
  cases ℓ with
  | assignment => exact assembles_assignment assembles lambda
  | lambda => exact lambda
  | ternary => exact ternary
  | disjunction => exact disjunction
  | conjunction => exact conjunction
  | equality => exact equality
  | relation => exact relation
  | concatenation => exact concatenation
  | sum => exact sum
  | product => exact product
  | unary => exact unary
  | access => exact assembles_access assembles
  | primary => exact assembles_primary assembles

end Levels

/-! ## Nesting -/

/-- The guard against nesting stops just where the readers have no levels left, so what the machine
would do beyond is never run. -/
theorem assembles_nested {source : Source} {beyond : Assembler Nat} {depth levels : Nat}
    (all : depth + levels = Grammar.maxDepth) (entry : Grammar.Entry) :
    Assembles source depth (Assembler.nested beyond (levels + 1) entry)
      (Grammar.nested source.textEnd levels entry) := by
  induction levels generalizing depth entry with
  | zero => exact assembles_descend_stop (by omega)
  | succ levels ih =>
    rw [Grammar.nested_succ]
    exact assembles_descend (by omega) (assembles_level (fun entry => ih (by omega) entry) _)

/-! ## Rules -/

/-- How the machine goes on the tokens of a rule, from nothing read. -/
theorem follows_expression (beyond : Assembler Nat) (source : Source) :
    Follows source 0 .initial ((Assembler.expression beyond).run source .initial)
      (Grammar.nested source.textEnd Grammar.maxDepth .assignment source.tokens) fun parsed id =>
        Reached source [] [parsed.tree] parsed.rest [id] :=
  assembles_nested (Nat.zero_add _) .assignment .initial source.tokens rfl

/-- The nodes of one expression and their root make the syntax tree of the expression. -/
theorem finish_eq_ofTree {builder : TreeBuilder} {t : Tree} {root : Nat}
    (held : Holds [] builder.nodes [t] [root]) : builder.finish root = .ok (.ofTree t) := by
  obtain ⟨nodes, first⟩ := builder
  obtain ⟨listed, roots⟩ := held
  have nodes_eq : nodes = (t.numbered 0).toArray := by
    refine Array.toList_inj.mp (listed.trans ?_)
    simp only [Tree.numberedAll, List.nil_append, List.append_nil, List.length_nil]
  have root_eq : root = t.size - 1 := by
    simpa only [Tree.rootNumbers, List.length_nil, Nat.zero_add, List.cons.injEq, and_true] using roots
  subst nodes_eq root_eq
  have positive := t.size_pos
  have size : (t.numbered 0).toArray.size = t.size := by simp
  have inside : t.size - 1 < (t.numbered 0).toArray.size := by omega
  have nonempty : ¬ (t.numbered 0).toArray.isEmpty = true := by
    rw [Array.isEmpty_iff_size_eq_zero]
    omega
  simp only [TreeBuilder.finish, nonempty, Bool.false_eq_true, ↓reduceIte, dif_pos inside]
  rfl

/-- Assembling a rule node by node gives the syntax tree of the expression that the grammar reads,
or the same failure. -/
theorem SyntaxTree.assemble_eq_parse (beyond : Assembler Nat) (rule : String) :
    SyntaxTree.assemble beyond rule = SyntaxTree.parse rule := by
  rw [assemble, parse, Tree.parse]
  cases split : (Body.of rule.toList).tokens with
  | error e => rfl
  | ok tokens =>
    simp only [bind, Except.bind, Grammar.expression]
    cases empty : tokens.isEmpty with
    | true => rfl
    | false =>
      simp only [Bool.false_eq_true, ↓reduceIte]
      have ready : Assembly.initial.Ready ⟨tokens, Text.byteLength rule.toList⟩ 0 :=
        ⟨Assembly.sound_initial _, rfl⟩
      have answers := (follows_expression beyond _ ready).2
      dsimp only at answers
      cases result : Grammar.nested (Text.byteLength rule.toList) Grammar.maxDepth .assignment
          tokens with
      | error e =>
        rw [result] at answers
        rw [answers.eq_error]
        rfl
      | ok parsed =>
        rw [result] at answers
        obtain ⟨root, answer, reached⟩ := answers.exists_ok
        rw [answer]
        dsimp only
        rw [reached.here]
        cases left : parsed.rest with
        | nil =>
          dsimp only
          rw [finish_eq_ofTree reached.held]
          rfl
        | cons token rest => rfl

theorem TreeBuilder.finish_eq_ok {builder : TreeBuilder} {root : Nat} {tree : SyntaxTree}
    (success : builder.finish root = .ok tree) : tree.nodes = builder.nodes ∧ tree.root = root := by
  simp only [finish] at success
  split at success
  · cases success
  · split at success
    · cases success
      exact ⟨rfl, rfl⟩
    · cases success

/-- When the machine has read a rule, it has pushed the nodes of its syntax tree and no others, and
has read all tokens. -/
theorem SyntaxTree.run_of_parse {rule : String} {tree : SyntaxTree}
    (success : SyntaxTree.parse rule = .ok tree) (beyond : Assembler Nat) :
    ∃ tokens, (Body.of rule.toList).tokens = .ok tokens ∧
      let source : Source := ⟨tokens, Text.byteLength rule.toList⟩
      let run := (Assembler.expression beyond).run source .initial
      run.answer = .ok tree.root ∧ run.last.builder.nodes = tree.nodes ∧
        source.ahead run.last = [] := by
  rw [← assemble_eq_parse beyond] at success
  obtain ⟨tokens, split, success⟩ := Grammar.bind_eq_ok_iff.mp success
  refine ⟨tokens, split, ?_⟩
  split at success
  · cases success
  · obtain ⟨root, answer, success⟩ := Grammar.bind_eq_ok_iff.mp success
    split at success
    · cases success
    · next left =>
      cases finished : ((Assembler.expression beyond).run ⟨tokens, Text.byteLength rule.toList⟩
          .initial).last.builder.finish root with
      | error fault =>
        rw [finished] at success
        cases success
      | ok tree' =>
        rw [finished] at success
        cases success
        obtain ⟨nodes, rfl⟩ := TreeBuilder.finish_eq_ok finished
        exact ⟨answer, nodes.symm, left⟩

/-- What a run of the machine comes to is the syntax tree of the rule. -/
theorem SyntaxTree.parse_of_run {rule : String} {token : Token} {tokens : List Token} {t : Tree}
    (beyond : Assembler Nat) {run : Run Nat}
    (split : (Body.of rule.toList).tokens = .ok (token :: tokens))
    (ran : (Assembler.expression beyond).run ⟨token :: tokens, Text.byteLength rule.toList⟩ .initial =
      run)
    (answer : run.answer = .ok (t.size - 1)) (nodes : run.last.builder.nodes = (ofTree t).nodes)
    (complete : run.last.position = tokens.length + 1) :
    SyntaxTree.parse rule = .ok (ofTree t) := by
  have held : Holds [] run.last.builder.nodes [t] [t.size - 1] := by
    refine ⟨?_, ?_⟩
    · simp only [nodes, ofTree, Tree.numberedAll, List.length_nil, List.append_nil, List.nil_append]
    · simp only [Tree.rootNumbers, List.length_nil, Nat.zero_add]
  have left : Source.ahead ⟨token :: tokens, Text.byteLength rule.toList⟩ run.last = [] :=
    List.drop_of_length_le (Nat.le_of_eq complete.symm)
  rw [← assemble_eq_parse beyond, assemble, split]
  simp only [bind, Except.bind, List.isEmpty_cons, Bool.false_eq_true, ↓reduceIte, ran, answer, left,
    finish_eq_ofTree held]
  rfl

end TargetingRules
