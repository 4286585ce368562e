import TargetingRules.Proofs.Syntax.Soundness
import TargetingRules.Syntax.Reading

/-!
# Assembling syntax trees node by node

The grammar again, as a machine with a state: how many tokens have been read, the nodes that have
been pushed, the height of each of them and the depth of nesting. A step moves past one token,
pushes one node or changes the nesting, and a run keeps every state that it passes, so that one can
say what holds all along. Expressions are known by the numbers of their nodes alone.

Nothing in the state says which nodes belong together: that what has been pushed since a level was
entered is one complete expression is a fact about the machine and not part of it.
-/

namespace TargetingRules

/-- The tokens of a rule and the length of its text in bytes. -/
structure Source where
  /-- The tokens in order. -/
  tokens : List Token
  /-- The position after the text. -/
  textEnd : Nat

/-- How far the assembly of a syntax tree has got. -/
structure Assembly where
  /-- The number of tokens read. -/
  position : Nat
  /-- The nodes pushed. -/
  builder : TreeBuilder
  /-- The height of each node, by its number. -/
  heights : Array Nat
  /-- The depth of nesting. -/
  nesting : Nat

/-- The tokens that have not been read. -/
def Source.ahead (source : Source) (state : Assembly) : List Token :=
  source.tokens.drop state.position

namespace Assembly

/-- Nothing has been read. -/
def initial : Assembly := ⟨0, .empty, #[], 0⟩

/-- One more token has been read. -/
def moved (state : Assembly) : Assembly :=
  { state with position := state.position + 1 }

/-- One level further in. -/
def deeper (state : Assembly) : Assembly :=
  { state with nesting := state.nesting + 1 }

/-- One level further out. -/
def shallower (state : Assembly) : Assembly :=
  { state with nesting := state.nesting - 1 }

/-- The height of a node over nodes whose heights are known. -/
def heightOver (state : Assembly) (children : List Nat) : Nat :=
  children.foldl (fun height child => max height (state.heights.getD child 0 + 1)) 1

end Assembly

/-- How a part of an assembly went. -/
structure Run (α : Type) where
  /-- What came out. -/
  answer : Except ParseError α
  /-- The state at the end. -/
  last : Assembly
  /-- The states passed, without the one at the start. -/
  passed : List Assembly

/-- A part of the machine. -/
structure Assembler (α : Type) where
  /-- How it goes from a state. -/
  run : Source → Assembly → Run α

namespace Assembler

instance : Monad Assembler where
  pure a := ⟨fun _ state => ⟨.ok a, state, []⟩⟩
  bind part next := .mk fun source state =>
    let first := part.run source state
    match first.answer with
    | .error e => ⟨.error e, first.last, first.passed⟩
    | .ok a =>
      let second := (next a).run source first.last
      ⟨second.answer, second.last, first.passed ++ second.passed⟩

section Laws

variable {β δ : Type} {source : Source} {state : Assembly}

theorem bind_of_error {part : Assembler β} {next : β → Assembler δ} {e : ParseError}
    (failed : (part.run source state).answer = .error e) :
    (part >>= next).run source state =
      ⟨.error e, (part.run source state).last, (part.run source state).passed⟩ := by
  simp only [bind, failed]

theorem bind_of_ok {part : Assembler β} {next : β → Assembler δ} {b : β}
    (answered : (part.run source state).answer = .ok b) :
    (part >>= next).run source state =
      ⟨((next b).run source (part.run source state).last).answer,
        ((next b).run source (part.run source state).last).last,
        (part.run source state).passed ++ ((next b).run source (part.run source state).last).passed⟩ := by
  simp only [bind, answered]

theorem ext {part part' : Assembler β}
    (same : ∀ source state, part.run source state = part'.run source state) : part = part' := by
  obtain ⟨run⟩ := part
  obtain ⟨run'⟩ := part'
  exact congrArg Assembler.mk (funext fun source => funext (same source))

instance : LawfulMonad Assembler := by
  refine .mk' Assembler (fun part => ?_) (fun _ _ => rfl) fun part next last => ?_
  · refine Assembler.ext fun source state => ?_
    change (part >>= Pure.pure).run source state = _
    cases answer : (part.run source state).answer with
    | error e => rw [bind_of_error answer, ← answer]
    | ok a =>
      rw [bind_of_ok answer]
      simp only [Pure.pure, List.append_nil]
      rw [← answer]
  · refine Assembler.ext fun source state => ?_
    simp only [Bind.bind]
    cases (part.run source state).answer with
    | error e => rfl
    | ok a =>
      dsimp only
      cases ((next a).run source (part.run source state).last).answer with
      | error e => rfl
      | ok b => simp only [List.append_assoc]

end Laws

/-! ## Steps -/

/-- Stop with a failure. -/
def fail {α : Type} (e : ParseError) : Assembler α :=
  ⟨fun _ state => ⟨.error e, state, []⟩⟩

/-- The tokens that have not been read. -/
def ahead : Assembler (List Token) :=
  ⟨fun source state => ⟨.ok (source.ahead state), state, []⟩⟩

/-- Move past a token. -/
def move : Assembler Unit :=
  ⟨fun _ state => ⟨.ok (), state.moved, [state.moved]⟩⟩

/-- The span of a node. -/
def spanOf (id : Nat) : Assembler Span := .mk fun _ state =>
  match state.builder.node id with
  | .ok node => ⟨.ok node.span, state, []⟩
  | .error fault => ⟨.error (.tree fault), state, []⟩

/-- Push a node and keep its height, unless that gets too high. -/
def push (node : Node) : Assembler Nat := .mk fun _ state =>
  if Grammar.maxDepth < state.heightOver node.children then
    ⟨.error (.tooDeep node.span.start), state, []⟩
  else
    match state.builder.push node with
    | .error fault => ⟨.error (.tree fault), state, []⟩
    | .ok (builder, id) =>
      let pushed := { state with
        builder := builder, heights := state.heights.push (state.heightOver node.children) }
      ⟨.ok id, pushed, [pushed]⟩

/-- Run a part one level of nesting further in. -/
def descend (part : Assembler Nat) : Assembler Nat := .mk fun source state =>
  if Grammar.maxDepth ≤ state.nesting then
    ⟨.error (.tooDeep (Grammar.position source.textEnd (source.ahead state))), state, []⟩
  else
    let inside := part.run source state.deeper
    ⟨inside.answer, inside.last.shallower,
      state.deeper :: (inside.passed ++ [inside.last.shallower])⟩

/-! ## Tokens and nodes -/

/-- Move past a mark, if it comes next. -/
def eat (mark : Mark) : Assembler (Option Token) := do
  match Grammar.take? mark (← ahead) with
  | some taken =>
    move
    return some taken.token
  | none => return none

/-- Move past a mark that has to come next. -/
def expect (mark : Mark) : Assembler Token := do
  match Grammar.take? mark (← ahead) with
  | some taken =>
    move
    return taken.token
  | none => fail (Grammar.unexpected (.mark mark) (← ahead))

/-- Move past one of several operators, if it comes next. -/
def operator (kind? : Mark → Option Kind) : Assembler (Option (Kind × Token)) := do
  match Grammar.operator? kind? (← ahead) with
  | some (kind, taken) =>
    move
    return some (kind, taken.token)
  | none => return none

/-- Move past the name after a point. -/
def propertyName : Assembler Token := do
  match Grammar.propertyName (← ahead) with
  | .ok taken =>
    move
    return taken.token
  | .error e => fail e

/-- A node without children, named by its token. -/
def leaf (kind : Kind) (token : Token) : Assembler Nat :=
  push ⟨kind, some token.text, token.span, []⟩

/-- The spans of nodes in order. -/
def spansOf : List Nat → Assembler (List Span)
  | [] => return []
  | id :: ids => do
    let first ← spanOf id
    let others ← spansOf ids
    return first :: others

/-- A node that spans exactly its children. -/
def branch (kind : Kind) (children : List Nat) : Assembler Nat := do
  let spans ← spansOf children
  push ⟨kind, none, Span.cover spans, children⟩

/-! ## Chains

A loop turns at most as often as there are tokens ahead when it starts. -/

/-- One or more operands with a mark between them. -/
def separated (mark : Mark) (operand : Assembler Nat) : (turns : Nat) → Assembler (List Nat)
  | 0 => do
    let first ← operand
    return [first]
  | turns + 1 => do
    let first ← operand
    match ← eat mark with
    | none => return [first]
    | some _ =>
      let more ← separated mark operand turns
      return first :: more

/-- A chain of one operator as a single node; one operand alone stands for itself. -/
def flatChain (kind : Kind) (mark : Mark) (operand : Assembler Nat) : Assembler Nat := do
  let tokens ← ahead
  let operands ← separated mark operand tokens.length
  match operands with
  | [id] => return id
  | ids => branch kind ids

/-- The operators and operands that follow a left operand, grouped to the left. -/
def leftChainFrom (kind? : Mark → Option Kind) (operand : Assembler Nat) :
    (turns : Nat) → (left : Nat) → Assembler Nat
  | 0, left => return left
  | turns + 1, left => do
    match ← operator kind? with
    | none => return left
    | some (kind, _) =>
      let right ← operand
      let id ← branch kind [left, right]
      leftChainFrom kind? operand turns id

/-- A chain of operators of one level, grouped to the left. -/
def leftChain (kind? : Mark → Option Kind) (operand : Assembler Nat) : Assembler Nat := do
  let left ← operand
  let tokens ← ahead
  leftChainFrom kind? operand tokens.length left

/-! ## Levels -/

section Levels

variable (nested : Grammar.Entry → Assembler Nat)

/-- Expressions separated by commas up to a closing mark; there may be none. -/
def closedList (close : Mark) : Assembler (List Nat × Token) := do
  match ← eat close with
  | some token => return ([], token)
  | none =>
    let tokens ← ahead
    let items ← separated .comma (nested .assignment) tokens.length
    let token ← expect close
    return (items, token)

/-- The arguments of a function and the function over them, once its name has been read. -/
def call (image : String) (span : Span) : Assembler Nat := do
  let _ ← expect .openParen
  let (arguments, close) ← closedList nested .closeParen
  push ⟨.function, some image, span.join close.span, arguments⟩

/-- The arguments of a method. -/
def arguments : Assembler Nat := do
  let opening ← expect .openParen
  let (arguments, close) ← closedList nested .closeParen
  push ⟨.arguments, none, opening.span.join close.span, arguments⟩

/-- A variable or a function call that starts with a name. -/
def named (token : Token) : Assembler Nat := do
  move
  match ← ahead with
  | ⟨.mark .openParen, _, _⟩ :: _ => call nested token.text token.span
  | ⟨.mark .colon, colon, _⟩ :: ⟨.ident _, span, name⟩ :: ⟨.mark .openParen, _, _⟩ :: _ =>
    if token.span.stop = colon.start ∧ colon.stop = span.start then do
      move
      move
      call nested (token.text ++ ":" ++ name) (token.span.join span)
    else leaf .identifier token
  | _ => leaf .identifier token

/-- A literal, a variable, a function call, an expression in parentheses or a list. -/
def primary : Assembler Nat := do
  match ← ahead with
  | [] => fail (Grammar.unexpected .expression [])
  | token :: rest =>
    match token.kind with
    | .number _ =>
      move
      leaf (.literal .number) token
    | .str _ =>
      move
      leaf (.literal .string) token
    | .bool _ =>
      move
      leaf (.literal .boolean) token
    | .null =>
      move
      leaf (.literal .null) token
    | .ident _ => named nested token
    | .mark .openParen =>
      move
      let inside ← nested .assignment
      let _ ← expect .closeParen
      return inside
    | .mark .openBracket =>
      move
      let (items, close) ← closedList nested .closeBracket
      push ⟨.list, none, token.span.join close.span, items⟩
    | .mark _ => fail (Grammar.unexpected .expression (token :: rest))

/-- The next member or element of a target, if one comes next, and whatever goes on from there. -/
def accessNext (goOn : Nat → Assembler Nat) (target : Nat) : Assembler Nat := do
  match ← eat .dot with
  | some _ =>
    let name ← propertyName
    let member ← leaf .member name
    match Grammar.take? .openParen (← ahead) with
    | some _ =>
      let list ← arguments nested
      let id ← branch .methodCall [target, member, list]
      goOn id
    | none =>
      let id ← branch .property [target, member]
      goOn id
  | none =>
    match ← eat .openBracket with
    | some _ =>
      let index ← nested .assignment
      let close ← expect .closeBracket
      let span ← spanOf target
      let id ← push ⟨.index, none, span.join close.span, [target, index]⟩
      goOn id
    | none => return target

/-- The members and elements read from a target. -/
def accessFrom : (turns : Nat) → (target : Nat) → Assembler Nat
  | 0, target => return target
  | turns + 1, target => accessNext nested (accessFrom turns) target

/-- A primary expression and the members and elements read from it. -/
def access : Assembler Nat := do
  let target ← primary nested
  let tokens ← ahead
  accessFrom nested tokens.length target

/-- An operator before its operand, or an access. -/
def unary : Assembler Nat := do
  match ← operator Grammar.unary? with
  | none => access nested
  | some (kind, op) =>
    let operand ← nested .unary
    let span ← spanOf operand
    push ⟨kind, none, op.span.join span, [operand]⟩

/-- Products. -/
def product : Assembler Nat := leftChain Grammar.product? (unary nested)

/-- Sums. -/
def sum : Assembler Nat := leftChain Grammar.sum? (product nested)

/-- Concatenations. -/
def concatenation : Assembler Nat := leftChain Grammar.concatenation? (sum nested)

/-- Relations. -/
def relation : Assembler Nat := leftChain Grammar.relation? (concatenation nested)

/-- Equalities. -/
def equality : Assembler Nat := leftChain Grammar.equality? (relation nested)

/-- Conjunctions. -/
def conjunction : Assembler Nat := flatChain .and .and (equality nested)

/-- Disjunctions. -/
def disjunction : Assembler Nat := flatChain .or .or (conjunction nested)

/-- A condition with two alternatives, or a disjunction. -/
def ternary : Assembler Nat := do
  let condition ← disjunction nested
  match ← eat .question with
  | none => return condition
  | some _ =>
    let whenTrue ← nested .ternary
    let _ ← expect .colon
    let whenFalse ← nested .ternary
    branch .ternary [condition, whenTrue, whenFalse]

/-- The number of names with commas between them, up to a closing parenthesis and an arrow. -/
def namesAhead? (count : Nat) : List Token → Option Nat
  | ⟨.ident _, _, _⟩ :: ⟨.mark .comma, _, _⟩ :: rest => namesAhead? (count + 1) rest
  | ⟨.ident _, _, _⟩ :: ⟨.mark .closeParen, _, _⟩ :: ⟨.mark .arrow, _, _⟩ :: _ => some (count + 1)
  | _ => none

/-- The number of the parameters of a lambda, if they come next. -/
def parametersAhead? : List Token → Option Nat
  | ⟨.ident _, _, _⟩ :: ⟨.mark .arrow, _, _⟩ :: _ => some 1
  | ⟨.mark .openParen, _, _⟩ :: ⟨.mark .closeParen, _, _⟩ :: ⟨.mark .arrow, _, _⟩ :: _ => some 0
  | ⟨.mark .openParen, _, _⟩ :: rest => namesAhead? 0 rest
  | _ => none

/-- A leaf over the next token; at the end of the tokens there is none. -/
def parameter : Assembler Nat := do
  match ← ahead with
  | [] => fail (Grammar.unexpected .parameter [])
  | token :: _ =>
    move
    leaf .identifier token

/-- So many leaves with commas between them. -/
def parameterList : (count : Nat) → Assembler (List Nat)
  | 0 => return []
  | 1 => do
    let last ← parameter
    return [last]
  | count + 2 => do
    let first ← parameter
    let _ ← expect .comma
    let others ← parameterList (count + 1)
    return first :: others

/-- Move past the closing parenthesis that an opening one asks for. -/
def closeAfter : (opening : Option Token) → Assembler Unit
  | none => return ()
  | some _ => do
    let _ ← expect .closeParen
    return ()

/-- So many parameters of a lambda, in parentheses or not, with the arrow after them. A node without
children has no spans to cover, and takes the one up to the arrow. -/
def parameters (count : Nat) : Assembler Nat := do
  let tokens ← ahead
  let opening ← eat .openParen
  let names ← parameterList count
  closeAfter opening
  let arrow ← expect .arrow
  match names with
  | [] => push ⟨.lambdaParameters, none, ⟨Grammar.position 0 tokens, arrow.span.start⟩, []⟩
  | names => branch .lambdaParameters names

/-- A lambda, or a ternary. -/
def lambda : Assembler Nat := do
  match parametersAhead? (← ahead) with
  | none => ternary nested
  | some count =>
    let params ← parameters count
    let body ← nested .lambda
    branch .arrow [params, body]

/-- An assignment, which groups to the right, or a lambda. -/
def assignment : Assembler Nat := do
  let target ← lambda nested
  match ← eat .assign with
  | none => return target
  | some _ =>
    let value ← nested .assignment
    branch .assign [target, value]

end Levels

end Assembler

/-- The part of the machine that reads expressions of a level. -/
def Grammar.Level.assembler (nested : Entry → Assembler Nat) : Level → Assembler Nat
  | .assignment => Assembler.assignment nested
  | .lambda => Assembler.lambda nested
  | .ternary => Assembler.ternary nested
  | .disjunction => Assembler.disjunction nested
  | .conjunction => Assembler.conjunction nested
  | .equality => Assembler.equality nested
  | .relation => Assembler.relation nested
  | .concatenation => Assembler.concatenation nested
  | .sum => Assembler.sum nested
  | .product => Assembler.product nested
  | .unary => Assembler.unary nested
  | .access => Assembler.access nested
  | .primary => Assembler.primary nested

namespace Assembler

/-- Nested expressions, where so many levels can be opened at most. What would go on beyond them is
left open. -/
def nested (beyond : Assembler Nat) : (levels : Nat) → Grammar.Entry → Assembler Nat
  | 0, _ => beyond
  | levels + 1, entry => descend (entry.level.assembler (nested beyond levels))

/-- An expression at the start of the tokens. The guard against nesting stops before the levels of
the machine run out. -/
def expression (beyond : Assembler Nat) : Assembler Nat :=
  nested beyond (Grammar.maxDepth + 1) .assignment

end Assembler

/-- The syntax tree of a rule, assembled node by node. -/
def SyntaxTree.assemble (beyond : Assembler Nat) (rule : String) : Except ParseError SyntaxTree := do
  let tokens ← (Body.of rule.toList).tokens
  if tokens.isEmpty then .error .empty
  else
    let source : Source := ⟨tokens, Text.byteLength rule.toList⟩
    let run := (Assembler.expression beyond).run source .initial
    let root ← run.answer
    match source.ahead run.last with
    | token :: _ => .error (.trailingInput token.kind token.span.start)
    | [] => (run.last.builder.finish root).mapError .tree

end TargetingRules
