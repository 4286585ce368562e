import TargetingRules.Proofs.Evaluation.Faultless
import TargetingRules.Proofs.Syntax.Assembled
import TargetingRules.Proofs.Syntax.Joining

/-!
# Limits on depth

However a rule is read, the nesting stays within its limit and is restored by every part of the
machine, whether it succeeds or fails; tokens once read stay read, and a part that succeeds has read
one at least. No node is higher than the limit, so the evaluation of a rule never goes further down
than that either.

What is limited is depth alone. Chains of `&&` and `||`, lists and arguments may be as long as they
like.
-/

namespace TargetingRules

open Grammar (Entry Level maxDepth)

/-! ## Parts of the machine -/

/-- From a state with the right bookkeeping, a part keeps it right, goes forward and restores the
depth of nesting, and has read at least one token if it succeeds. -/
def Assembler.StaysWithin {α : Type} (part : Assembler α) (source : Source) (depth : Nat)
    (state : Assembly) : Prop :=
  state.Ready source depth →
    (part.run source state).Orderly source depth state ∧
      ∀ a, (part.run source state).answer = .ok a →
        state.position < (part.run source state).last.position

theorem staysWithin_of_follows {α β : Type} {part : Assembler β} {source : Source} {depth : Nat}
    {state : Assembly} {result : Except ParseError α} {agrees : α → β → Assembly → Prop}
    (follows : Follows source depth state (part.run source state) result agrees)
    (fewer : ∀ a b last, agrees a b last →
      (source.ahead last).length < (source.ahead state).length) :
    part.StaysWithin source depth state := by
  intro ready
  obtain ⟨orderly, answers⟩ := follows ready
  refine ⟨orderly, fun b answer => ?_⟩
  rw [answer] at answers
  cases result with
  | error e => exact answers.elim
  | ok a =>
    have shorter := fewer a b _ answers
    simp only [Source.ahead, List.length_drop] at shorter
    omega

theorem Assembles.staysWithin {source : Source} {depth : Nat} {part : Assembler Nat}
    {reader : Grammar.Reader} (assembles : Assembles source depth part reader)
    (state : Assembly) : part.StaysWithin source depth state :=
  staysWithin_of_follows (assembles state _ rfl) fun parsed _ _ reached => by
    rw [reached.here]
    exact parsed.shorter

section Parts

variable {source : Source} {depth : Nat} {inner : Entry → Assembler Nat}
  {inner' : Entry → Grammar.Reader}
  (assembles : ∀ entry, Assembles source depth (inner entry) (inner' entry))

include assembles

theorem staysWithin_closedList (close : Mark) (state : Assembly) :
    (Assembler.closedList inner close).StaysWithin source depth state :=
  staysWithin_of_follows (follows_closedList assembles close rfl) fun closed _ _ ⟨reached, _⟩ => by
    rw [reached.here]
    exact closed.shorter

/-- A node over arguments, from the opening parenthesis on. -/
theorem staysWithin_overArguments (kind : Kind) (image : Option String)
    (place : Token → Token → Span) (state : Assembly) :
    (do
      let opening ← Assembler.expect .openParen
      let (arguments, close) ← Assembler.closedList inner .closeParen
      Assembler.push ⟨kind, image, place opening close, arguments⟩).StaysWithin source depth
        state := by
  have follows : Follows source depth state ((do
      let opening ← Assembler.expect .openParen
      let (arguments, close) ← Assembler.closedList inner .closeParen
      Assembler.push ⟨kind, image, place opening close, arguments⟩).run source state)
      (do
        let opening ← Grammar.expect .openParen (source.ahead state)
        let closed ← Grammar.closedList .closeParen inner' opening.rest
        let _ ← Grammar.grow kind image (place opening.token closed.close) closed.trees
        return closed.rest)
      fun rest _ last => source.ahead last = rest ∧ rest.length < (source.ahead state).length := by
    refine Follows.expect (.start rfl) fun opening reached => ?_
    refine Follows.bind (follows_closedList assembles .closeParen reached.here)
      fun closed ⟨ids, close⟩ mid _ ⟨later, same⟩ => ?_
    subst same
    refine (Follows.push (reached.append later) kind image _).map fun t id pushed => ?_
    exact ⟨pushed.here, Nat.lt_trans closed.shorter opening.shorter⟩
  refine staysWithin_of_follows follows fun rest _ last ⟨here, fewer⟩ => ?_
  rwa [here]

theorem staysWithin_named {token : Token} {rest : List Token} {state : Assembly}
    (here : source.ahead state = token :: rest) :
    (Assembler.named inner token).StaysWithin source depth state :=
  staysWithin_of_follows (follows_named assembles here) fun parsed _ _ reached => by
    rw [reached.here, here]
    exact parsed.shorter

end Parts

/-- The parts of the machine at a depth of nesting, over the parts for nested expressions. -/
structure PartsStayWithin (source : Source) (depth : Nat) (inner : Entry → Assembler Nat) :
    Prop where
  /-- Expressions one level further in. -/
  nested : ∀ entry state, (inner entry).StaysWithin source depth state
  /-- Expressions of every level of precedence. -/
  level : ∀ (ℓ : Level) state, (ℓ.assembler inner).StaysWithin source depth state
  /-- Variables and calls, at a name. -/
  named : ∀ token rest state, source.ahead state = token :: rest →
    (Assembler.named inner token).StaysWithin source depth state
  /-- Calls of functions, after their names. -/
  call : ∀ image span state, (Assembler.call inner image span).StaysWithin source depth state
  /-- Arguments of methods. -/
  arguments : ∀ state, (Assembler.arguments inner).StaysWithin source depth state
  /-- Arguments and items. -/
  closedList : ∀ close state, (Assembler.closedList inner close).StaysWithin source depth state

theorem partsStayWithin (beyond : Assembler Nat) (source : Source) {depth levels : Nat}
    (all : depth + levels = maxDepth) :
    PartsStayWithin source depth (Assembler.nested beyond (levels + 1)) := by
  have assembles : ∀ entry, Assembles source depth (Assembler.nested beyond (levels + 1) entry)
      (Grammar.nested source.textEnd levels entry) := assembles_nested all
  constructor
  case nested => exact fun entry => (assembles entry).staysWithin
  case level => exact fun ℓ => (assembles_level assembles ℓ).staysWithin
  case named => exact fun _ _ _ here => staysWithin_named assembles here
  case call =>
    exact fun image span =>
      staysWithin_overArguments assembles .function (some image) fun _ close => span.join close.span
  case arguments =>
    exact staysWithin_overArguments assembles .arguments none fun opening close =>
      opening.span.join close.span
  case closedList => exact staysWithin_closedList assembles

/-! ## Evaluation -/

namespace SyntaxTree

/-- A node as an operand, where nodes so many levels further down are not looked at. What they would
give is left open. -/
def operandWithin (tree : SyntaxTree) (env : Environment) (beyond : Nat → Operand) :
    (levels : Nat) → (id : Nat) → Operand
  | 0, id => beyond id
  | levels + 1, id =>
    match tree.nodes[id]? with
    | none => beyond id
    | some node =>
      let operands : Unit → List Operand := fun _ =>
        node.children.map (tree.operandWithin env beyond levels)
      { kind := node.kind
        image := node.image
        value := fun _ => env.evaluate node.kind node.image (operands ())
        parts := fun _ => Operand.values (operands ()) }

/-- The value of a syntax tree whose evaluation goes so many levels down at most. -/
def evaluateWithin (tree : SyntaxTree) (env : Environment) (beyond : Nat → Operand)
    (levels : Nat) : Evaluated :=
  (tree.operandWithin env beyond levels tree.root).value ()

variable {tree : SyntaxTree} {env : Environment} {beyond : Nat → Operand}

theorem operandWithin_eq {levels id : Nat} (bound : id < tree.nodes.size)
    (low : (tree.unfoldFrom id bound).height ≤ levels) :
    tree.operandWithin env beyond levels id = (tree.unfoldFrom id bound).operand env := by
  induction levels generalizing id with
  | zero =>
    rw [unfoldFrom_eq, Tree.height] at low
    omega
  | succ levels ih =>
    rw [unfoldFrom_eq, Tree.height] at low
    have children : tree.nodes[id].children.map (tree.operandWithin env beyond levels) =
        Tree.operands env (tree.nodes[id].children.pmap tree.unfoldFrom (children_lt bound)) := by
      rw [Tree.operands_eq_map, List.map_pmap, ← List.pmap_eq_map (children_lt bound)]
      refine List.pmap_congr_left _ fun child member _ inside => ?_
      have among : tree.unfoldFrom child inside ∈
          tree.nodes[id].children.pmap tree.unfoldFrom (children_lt bound) :=
        List.mem_pmap.mpr ⟨child, member, rfl⟩
      have below := Grammar.height_le_heightAll among
      exact ih inside (by omega)
    rw [operandWithin, Array.getElem?_eq_getElem bound, unfoldFrom_eq, Tree.operand]
    simp only [children]

/-- A low tree is evaluated without going further down than its height. -/
theorem evaluateWithin_eq {levels : Nat} (low : tree.unfold.height ≤ levels) :
    tree.evaluateWithin env beyond levels = tree.evaluate env := by
  rw [evaluateWithin, operandWithin_eq tree.root_lt low, evaluate_eq_unfold]
  rfl

end SyntaxTree

/-! ## Rules -/

/-- A rule is read as an expression with an outline. -/
def IsReadAs (rule : String) (outline : Tree) : Prop :=
  ∃ tree, SyntaxTree.parse rule = .ok tree ∧ tree.unfold.outline = outline

theorem isReadAs_of_parse {rule : String} {outline : Tree}
    (parsed : ∃ t, Tree.parse rule = .ok t ∧ t.outline = outline) : IsReadAs rule outline := by
  obtain ⟨t, success, same⟩ := parsed
  refine ⟨.ofTree t, SyntaxTree.parse_eq_ok_iff.mpr ⟨t, success, rfl⟩, ?_⟩
  rwa [SyntaxTree.unfold_ofTree]

/-- Depth is limited, and the length of chains, lists and arguments is not. Operands of chains state
expressions of the next tighter level on their own; items and arguments state any expressions that
leave one level of nesting for the list. -/
structure LimitsDepthAlone (beyond : Assembler Nat) : Prop where
  /-- Every part keeps the limits wherever it starts. -/
  parts : ∀ source depth levels, depth + levels = maxDepth →
    PartsStayWithin source depth (Assembler.nested beyond (levels + 1))
  /-- So does a whole run, which starts where nothing has been read. -/
  run : ∀ source, Assembly.initial.Sound source ∧
    ((Assembler.expression beyond).run source .initial).Orderly source 0 .initial
  /-- The run comes to what the grammar says. -/
  assembled : ∀ rule, SyntaxTree.assemble beyond rule = SyntaxTree.parse rule
  /-- What is read is low, and its evaluation goes no further down. -/
  low : ∀ rule tree, SyntaxTree.parse rule = .ok tree → tree.unfold.height ≤ maxDepth ∧
    ∀ env deeper, tree.evaluateWithin env deeper maxDepth = tree.evaluate env
  /-- A chain is one node over all its operands. -/
  chain : ∀ (ℓ : Level) mark kind operator texts trees, (mark, kind) ∈ ℓ.flatOperators →
    Lexer.Lexes operator (.mark mark) →
    List.Forall₂ (StandsAlone maxDepth ℓ.tighter) texts trees →
    (∀ t ∈ trees, t.height < maxDepth) → 2 ≤ texts.length →
    IsReadAs (joined operator texts) (.node kind none ⟨0, 0⟩ (Tree.outlineAll trees))
  /-- A list is one node over all its items. -/
  list : ∀ texts trees, List.Forall₂ (StandsAlone (maxDepth - 1) .assignment) texts trees →
    (∀ t ∈ trees, t.height < maxDepth) → trees ≠ [] →
    IsReadAs (enclosed .openBracket texts .closeBracket)
      (.node .list none ⟨0, 0⟩ (Tree.outlineAll trees))
  /-- A call is one node over all its arguments. -/
  call : ∀ name texts trees, IsIdentifier name →
    List.Forall₂ (StandsAlone (maxDepth - 1) .assignment) texts trees →
    (∀ t ∈ trees, t.height < maxDepth) → trees ≠ [] →
    IsReadAs (beside name (enclosed .openParen texts .closeParen))
      (.node .function (some name) ⟨0, 0⟩ (Tree.outlineAll trees))
  /-- The arguments of a method are one node. -/
  methodCall : ∀ target t name texts trees, StandsAlone maxDepth .access target t →
    t.height < maxDepth → IsIdentifier name →
    List.Forall₂ (StandsAlone (maxDepth - 1) .assignment) texts trees →
    (∀ t ∈ trees, t.height < maxDepth - 1) → trees ≠ [] →
    IsReadAs (beside target (beside Mark.dot.symbol
        (beside name (enclosed .openParen texts .closeParen))))
      (.node .methodCall none ⟨0, 0⟩ [t.outline, .node .member (some name) ⟨0, 0⟩ [],
        .node .arguments none ⟨0, 0⟩ (Tree.outlineAll trees)])

theorem limitsDepthAlone (beyond : Assembler Nat) : LimitsDepthAlone beyond := by
  constructor
  case parts => exact fun source depth levels all => partsStayWithin beyond source all
  case run =>
    intro source
    have sound := Assembly.sound_initial source
    exact ⟨sound, (follows_expression beyond source ⟨sound, rfl⟩).1⟩
  case assembled => exact SyntaxTree.assemble_eq_parse beyond
  case low =>
    intro rule tree success
    obtain ⟨t, parsed, rfl⟩ := SyntaxTree.parse_eq_ok_iff.mp success
    obtain ⟨tokens, _, _, low⟩ := Tree.parse_eq_ok_iff.mp parsed
    rw [← SyntaxTree.unfold_ofTree t] at low
    exact ⟨low, fun env deeper => SyntaxTree.evaluateWithin_eq low⟩
  case chain =>
    intro ℓ mark kind operator texts trees listed lexes operands low several
    exact isReadAs_of_parse
      (Tree.parse_chain listed (Piece.readsAs_of_lexes lexes) operands low several)
  case list =>
    intro texts trees operands low nonempty
    exact isReadAs_of_parse (Tree.parse_listing operands low nonempty)
  case call =>
    intro name texts trees isName operands low nonempty
    exact isReadAs_of_parse (Tree.parse_calling isName operands low nonempty)
  case methodCall =>
    intro target t name texts trees receiver isLow isName operands low nonempty
    exact isReadAs_of_parse (Tree.parse_methodCalling receiver isLow isName operands low nonempty)

/-- A chain may have more operands than there are levels. -/
theorem limitsDepthAlone_longChain :
    IsReadAs (joined "&&" (List.replicate 100 "a")) (.node .and none ⟨0, 0⟩
      (Tree.outlineAll (List.replicate 100 (.node .identifier (some "a") ⟨0, 1⟩ [])))) := by
  have name : StandsAlone maxDepth .equality "a" (.node .identifier (some "a") ⟨0, 1⟩ []) := by
    refine ⟨rfl, [⟨.ident "a", ⟨0, 1⟩, "a"⟩], Lexer.tokens_of_split? (n := 1) rfl, ?_⟩
    have derived : Grammar.Derives maxDepth .primary [⟨.ident "a", ⟨0, 1⟩, "a"⟩] _ [] :=
      .identifier ⟨"a", rfl⟩ id
    exact derived.loosen (by decide)
  have operands (count : Nat) : List.Forall₂ (StandsAlone maxDepth .equality)
      (List.replicate count "a") (List.replicate count (.node .identifier (some "a") ⟨0, 1⟩ [])) := by
    induction count with
    | zero => exact .nil
    | succ count ih => exact .cons name ih
  have isAnd : Lexer.Lexes "&&" (.mark .and) := Lexer.tokens_of_split? (n := 1) rfl
  refine (limitsDepthAlone (.fail .empty)).chain .conjunction .and .and "&&" _ _ (by decide) isAnd
    (operands 100) (fun t member => ?_) (by decide)
  rw [List.eq_of_mem_replicate member]
  decide

end TargetingRules
