import TargetingRules.Proofs.Syntax.Mentions
import TargetingRules.Proofs.Syntax.Ranges
import TargetingRules.Proofs.Syntax.Stopping

/-!
# Reading tokens by position

The parser has the text of a rule and the array of its tokens, and finds its way by positions in both:
the image of a node is cut out of the text, and after a look at the tokens ahead some of them are taken
by their index. What is not there has no outcome here, so that a look ahead that says too little, or a
token with a place that is not one of the text, would show.

It never does. The parser has an outcome for every text, and it is what the machine of `Assembler` comes
to, whose tokens carry their texts with them.
-/

namespace TargetingRules

open Grammar (IsMark Entry Level)

/-- A computation with the state of the machine, which moves on unless it fails. -/
abbrev Parser := StateT Assembly (ExceptT ParseError Option)

namespace Parser

/-! ## The parser -/

section Steps

variable {α : Type} (source : Source)

/-- A part of the machine as a part of the parser. -/
def within (part : Assembler α) : Parser α := fun state =>
  settled ((part.run source state).answer.map fun a => (a, (part.run source state).last))

/-- The token so many places after the next one. -/
def tokenAt (offset : Nat) : Parser Token := do
  liftM source.tokens[(← get).position + offset]?

/-- Run a part one level of nesting further in. -/
def descend (part : Parser Nat) : Parser Nat := do
  if Grammar.maxDepth ≤ (← get).nesting then
    throw (.tooDeep (Grammar.position source.textEnd (← within source .ahead)))
  else do
    modify .deeper
    let id ← part
    modify .shallower
    return id

/-- One or more operands with a mark between them. -/
def separated (mark : Mark) (operand : Parser Nat) : (turns : Nat) → Parser (List Nat)
  | 0 => do
    let first ← operand
    return [first]
  | turns + 1 => do
    let first ← operand
    match ← within source (.eat mark) with
    | none => return [first]
    | some _ =>
      let more ← separated mark operand turns
      return first :: more

/-- A chain of one operator as a single node. -/
def flatChain (kind : Kind) (mark : Mark) (operand : Parser Nat) : Parser Nat := do
  let tokens ← within source .ahead
  let operands ← separated source mark operand tokens.length
  match operands with
  | [id] => return id
  | ids => within source (.branch kind ids)

/-- The operators and operands that follow a left operand, grouped to the left. -/
def leftChainFrom (kind? : Mark → Option Kind) (operand : Parser Nat) :
    (turns : Nat) → (left : Nat) → Parser Nat
  | 0, left => return left
  | turns + 1, left => do
    match ← within source (.operator kind?) with
    | none => return left
    | some (kind, _) =>
      let right ← operand
      let id ← within source (.branch kind [left, right])
      leftChainFrom kind? operand turns id

/-- A chain of operators of one level, grouped to the left. -/
def leftChain (kind? : Mark → Option Kind) (operand : Parser Nat) : Parser Nat := do
  let left ← operand
  let tokens ← within source .ahead
  leftChainFrom source kind? operand tokens.length left

end Steps

section Levels

variable (source : Source) (text : List Char)

/-- The characters of a span. -/
def image (span : Span) : Parser String := do
  return String.ofList (← liftM (Text.slice? span.start span.stop text))

/-- A node without children, named by the characters of its span. -/
def leaf (kind : Kind) (span : Span) : Parser Nat := do
  let image ← image text span
  within source (.push ⟨kind, some image, span, []⟩)

/-- A leaf over the next token. -/
def parameter : Parser Nat := do
  match ← within source .ahead with
  | [] => within source (.fail (Grammar.unexpected .parameter []))
  | token :: _ =>
    within source .move
    leaf source text .identifier token.span

/-- So many leaves with commas between them. -/
def parameterList : (count : Nat) → Parser (List Nat)
  | 0 => return []
  | 1 => do
    let last ← parameter source text
    return [last]
  | count + 2 => do
    let first ← parameter source text
    let _ ← within source (.expect .comma)
    let others ← parameterList (count + 1)
    return first :: others

/-- So many parameters of a lambda, in parentheses or not, with the arrow after them. -/
def parameters (count : Nat) : Parser Nat := do
  let first ← tokenAt source 0
  let opening ← within source (.eat .openParen)
  let names ← parameterList source text count
  within source (.closeAfter opening)
  let arrow ← within source (.expect .arrow)
  match names with
  | [] => within source (.push ⟨.lambdaParameters, none, ⟨first.span.start, arrow.span.start⟩, []⟩)
  | names => within source (.branch .lambdaParameters names)

variable (nested : Entry → Parser Nat)

/-- Expressions separated by commas up to a closing mark; there may be none. -/
def closedList (close : Mark) : Parser (List Nat × Token) := do
  match ← within source (.eat close) with
  | some token => return ([], token)
  | none =>
    let tokens ← within source .ahead
    let items ← separated source .comma (nested .assignment) tokens.length
    let token ← within source (.expect close)
    return (items, token)

/-- The arguments of a function and the function over them, whose name is at a span. -/
def call (span : Span) : Parser Nat := do
  let image ← image text span
  let _ ← within source (.expect .openParen)
  let (arguments, close) ← closedList source nested .closeParen
  within source (.push ⟨.function, some image, span.join close.span, arguments⟩)

/-- The arguments of a method. -/
def arguments : Parser Nat := do
  let opening ← within source (.expect .openParen)
  let (arguments, close) ← closedList source nested .closeParen
  within source (.push ⟨.arguments, none, opening.span.join close.span, arguments⟩)

/-- Whether a name comes next that is the namespace of a function, with nothing between the name and the
colon and between the colon and the name of the function. -/
def qualifies : List Token → Bool
  | ⟨_, scope, _⟩ :: ⟨.mark .colon, colon, _⟩ :: ⟨.ident _, name, _⟩ :: ⟨.mark .openParen, _, _⟩ :: _ =>
    scope.stop = colon.start ∧ colon.stop = name.start
  | _ => false

/-- A variable or a function call that starts with a name. The name after a colon is taken by its
index. -/
def named (token : Token) : Parser Nat := do
  let tokens ← within source .ahead
  if qualifies tokens then do
    let name ← tokenAt source 2
    within source .move
    within source .move
    within source .move
    call source text nested (token.span.join name.span)
  else if (Grammar.take? .openParen tokens.tail).isSome then do
    within source .move
    call source text nested token.span
  else do
    within source .move
    leaf source text .identifier token.span

/-- A literal, a variable, a function call, an expression in parentheses or a list. -/
def primary : Parser Nat := do
  match ← within source .ahead with
  | [] => within source (.fail (Grammar.unexpected .expression []))
  | token :: rest =>
    match token.kind with
    | .number _ =>
      within source .move
      leaf source text (.literal .number) token.span
    | .str _ =>
      within source .move
      leaf source text (.literal .string) token.span
    | .bool _ =>
      within source .move
      leaf source text (.literal .boolean) token.span
    | .null =>
      within source .move
      leaf source text (.literal .null) token.span
    | .ident _ => named source text nested token
    | .mark .openParen =>
      within source .move
      let inside ← nested .assignment
      let _ ← within source (.expect .closeParen)
      return inside
    | .mark .openBracket =>
      within source .move
      let (items, close) ← closedList source nested .closeBracket
      within source (.push ⟨.list, none, token.span.join close.span, items⟩)
    | .mark _ => within source (.fail (Grammar.unexpected .expression (token :: rest)))

/-- The next member or element of a target, if one comes next, and whatever goes on from there. -/
def accessNext (goOn : Nat → Parser Nat) (target : Nat) : Parser Nat := do
  match ← within source (.eat .dot) with
  | some _ =>
    let name ← within source .propertyName
    let member ← leaf source text .member name.span
    match Grammar.take? .openParen (← within source .ahead) with
    | some _ =>
      let list ← arguments source nested
      let id ← within source (.branch .methodCall [target, member, list])
      goOn id
    | none =>
      let id ← within source (.branch .property [target, member])
      goOn id
  | none =>
    match ← within source (.eat .openBracket) with
    | some _ =>
      let index ← nested .assignment
      let close ← within source (.expect .closeBracket)
      let span ← within source (.spanOf target)
      let id ← within source (.push ⟨.index, none, span.join close.span, [target, index]⟩)
      goOn id
    | none => return target

/-- The members and elements read from a target. -/
def accessFrom : (turns : Nat) → (target : Nat) → Parser Nat
  | 0, target => return target
  | turns + 1, target => accessNext source text nested (accessFrom turns) target

/-- A primary expression and the members and elements read from it. -/
def access : Parser Nat := do
  let target ← primary source text nested
  let tokens ← within source .ahead
  accessFrom source text nested tokens.length target

/-- An operator before its operand, or an access. -/
def unary : Parser Nat := do
  match ← within source (.operator Grammar.unary?) with
  | none => access source text nested
  | some (kind, op) =>
    let operand ← nested .unary
    let span ← within source (.spanOf operand)
    within source (.push ⟨kind, none, op.span.join span, [operand]⟩)

/-- Products. -/
def product : Parser Nat := leftChain source Grammar.product? (unary source text nested)

/-- Sums. -/
def sum : Parser Nat := leftChain source Grammar.sum? (product source text nested)

/-- Concatenations. -/
def concatenation : Parser Nat := leftChain source Grammar.concatenation? (sum source text nested)

/-- Relations. -/
def relation : Parser Nat := leftChain source Grammar.relation? (concatenation source text nested)

/-- Equalities. -/
def equality : Parser Nat := leftChain source Grammar.equality? (relation source text nested)

/-- Conjunctions. -/
def conjunction : Parser Nat := flatChain source .and .and (equality source text nested)

/-- Disjunctions. -/
def disjunction : Parser Nat := flatChain source .or .or (conjunction source text nested)

/-- A condition with two alternatives, or a disjunction. -/
def ternary : Parser Nat := do
  let condition ← disjunction source text nested
  match ← within source (.eat .question) with
  | none => return condition
  | some _ =>
    let whenTrue ← nested .ternary
    let _ ← within source (.expect .colon)
    let whenFalse ← nested .ternary
    within source (.branch .ternary [condition, whenTrue, whenFalse])

/-- A lambda, or a ternary. -/
def lambda : Parser Nat := do
  match Assembler.parametersAhead? (← within source .ahead) with
  | none => ternary source text nested
  | some count =>
    let params ← parameters source text count
    let body ← nested .lambda
    within source (.branch .arrow [params, body])

/-- An assignment, which groups to the right, or a lambda. -/
def assignment : Parser Nat := do
  let target ← lambda source text nested
  match ← within source (.eat .assign) with
  | none => return target
  | some _ =>
    let value ← nested .assignment
    within source (.branch .assign [target, value])

/-- The part of the parser that reads expressions of a level. -/
def level : Level → Parser Nat
  | .assignment => assignment source text nested
  | .lambda => lambda source text nested
  | .ternary => ternary source text nested
  | .disjunction => disjunction source text nested
  | .conjunction => conjunction source text nested
  | .equality => equality source text nested
  | .relation => relation source text nested
  | .concatenation => concatenation source text nested
  | .sum => sum source text nested
  | .product => product source text nested
  | .unary => unary source text nested
  | .access => access source text nested
  | .primary => primary source text nested

end Levels

/-- Nested expressions, where so many levels can be opened at most. What would go on beyond them is
left open. -/
def nested (source : Source) (text : List Char) (beyond : Parser Nat) :
    (levels : Nat) → Entry → Parser Nat
  | 0, _ => beyond
  | levels + 1, entry => descend source (level source text (nested source text beyond levels) entry.level)

/-! ## Parts of the machine -/

section Within

variable {α β : Type} {source : Source}

theorem bind_apply (first : Parser α) (next : α → Parser β) (state : Assembly) :
    (first >>= next) state = first state >>= fun r => next r.1 r.2 := rfl

theorem within_apply (part : Assembler α) (state : Assembly) : within source part state =
    settled ((part.run source state).answer.map fun a => (a, (part.run source state).last)) := rfl

theorem within_bind (part : Assembler α) (next : α → Assembler β) :
    within source (part >>= next) = within source part >>= fun a => within source (next a) := by
  funext state
  change settled _ = settled _ >>= _
  cases answer : (part.run source state).answer with
  | error e =>
    rw [Assembler.bind_of_error answer]
    rfl
  | ok a =>
    rw [Assembler.bind_of_ok answer]
    rfl

/-- It is enough to know what follows a part. -/
theorem bind_within {part : Assembler α} {next : α → Parser β} {next' : α → Assembler β}
    (same : ∀ a, next a = within source (next' a)) :
    (within source part >>= next) = within source (part >>= next') :=
  (bind_congr same).trans (within_bind part next').symm

/-- What a part is followed by has to be known for its answers only. -/
theorem bind_within_of {part : Assembler α} {holds : α → Prop}
    (answers : ∀ state a, (part.run source state).answer = .ok a → holds a) {next : α → Parser β}
    {next' : α → Assembler β} (same : ∀ a, holds a → next a = within source (next' a)) :
    (within source part >>= next) = within source (part >>= next') := by
  rw [within_bind]
  funext state
  change settled _ >>= _ = settled _ >>= _
  cases answer : (part.run source state).answer with
  | error e => rfl
  | ok a => exact congrFun (same a (answers state a answer)) (part.run source state).last

theorem ahead_apply (next : List Token → Parser β) (state : Assembly) :
    (within source .ahead >>= next) state = next (source.ahead state) state := rfl

theorem move_apply (next : Unit → Parser β) (state : Assembly) :
    (within source .move >>= next) state = next () state.moved := rfl

theorem within_move_apply (next : Unit → Assembler β) (state : Assembly) :
    within source (.move >>= next) state = within source (next ()) state.moved := rfl

theorem within_ahead_apply (next : List Token → Assembler β) (state : Assembly) :
    within source (.ahead >>= next) state = within source (next (source.ahead state)) state := rfl

/-- A part that goes on from the tokens ahead is known from what it does in each state. -/
theorem within_ahead {next : List Token → Parser β} {next' : List Token → Assembler β}
    (same : ∀ state, next (source.ahead state) state = within source (next' (source.ahead state)) state) :
    (within source .ahead >>= next) = within source (.ahead >>= next') := by
  rw [within_bind]
  exact funext same

end Within

section Chains

variable {source : Source} {operand : Assembler Nat} {mark : Mark} {kind : Kind}
  {kind? : Mark → Option Kind}

theorem separated_within (turns : Nat) :
    separated source mark (within source operand) turns =
      within source (.separated mark operand turns) := by
  induction turns with
  | zero =>
    rw [separated, Assembler.separated, within_bind]
    rfl
  | succ turns ih =>
    rw [separated, Assembler.separated]
    refine bind_within fun first => ?_
    refine bind_within fun found => ?_
    cases found with
    | none => rfl
    | some _ =>
      rw [within_bind, ih]
      rfl

theorem flatChain_within : flatChain source kind mark (within source operand) =
    within source (.flatChain kind mark operand) := by
  rw [flatChain, Assembler.flatChain]
  refine bind_within fun tokens => ?_
  rw [separated_within]
  refine bind_within fun operands => ?_
  match operands with
  | [] | [_] | _ :: _ :: _ => rfl

theorem leftChainFrom_within (turns left : Nat) :
    leftChainFrom source kind? (within source operand) turns left =
      within source (.leftChainFrom kind? operand turns left) := by
  induction turns generalizing left with
  | zero => rfl
  | succ turns ih =>
    rw [leftChainFrom, Assembler.leftChainFrom]
    refine bind_within fun found => ?_
    cases found with
    | none => rfl
    | some op =>
      dsimp only
      refine bind_within fun right => ?_
      exact bind_within fun id => ih id

theorem leftChain_within : leftChain source kind? (within source operand) =
    within source (.leftChain kind? operand) := by
  rw [leftChain, Assembler.leftChain]
  refine bind_within fun left => ?_
  exact bind_within fun tokens => leftChainFrom_within _ left

end Chains

/-! ## Texts of tokens -/

/-- The tokens have the texts at their places. -/
structure Reads (source : Source) (text : List Char) : Prop where
  slice : ∀ token ∈ source.tokens,
    Text.slice? token.span.start token.span.stop text = some token.text.toList
  colon : ∀ token ∈ source.tokens, IsMark .colon token → token.text = ":"

section Reads

variable {source : Source} {text : List Char} (reads : Reads source text) {token : Token}
  {inner : Entry → Assembler Nat}

theorem tokenAt_apply {state : Assembly} {offset : Nat}
    (there : (source.ahead state)[offset]? = some token) :
    tokenAt source offset state = settled (.ok (token, state)) := by
  rw [Source.ahead, List.getElem?_drop] at there
  change (liftM source.tokens[state.position + offset]? : Parser Token) state = _
  rw [there]
  rfl

include reads

theorem leaf_within (member : token ∈ source.tokens) (kind : Kind) :
    leaf source text kind token.span = within source (.leaf kind token) := by
  rw [leaf, image, reads.slice token member]
  change within source (.push ⟨kind, some (String.ofList token.text.toList), token.span, []⟩) = _
  rw [String.ofList_toList]
  rfl

theorem moved_leaf_within (member : token ∈ source.tokens) (kind : Kind) :
    (within source .move >>= fun _ => leaf source text kind token.span) =
      within source (.move >>= fun _ => .leaf kind token) := by
  rw [within_bind, leaf_within reads member]

theorem parameter_within : parameter source text = within source .parameter := by
  refine within_ahead fun state => ?_
  cases here : source.ahead state with
  | nil => rfl
  | cons token rest =>
    exact congrFun (moved_leaf_within reads (Source.mem_of_ahead here) .identifier) state

theorem parameterList_within (count : Nat) :
    parameterList source text count = within source (.parameterList count) := by
  fun_induction Assembler.parameterList count with
  | case1 => rfl
  | case2 =>
    rw [parameterList, within_bind, parameter_within reads]
    rfl
  | case3 count ih =>
    rw [parameterList, parameter_within reads]
    refine bind_within fun first => ?_
    refine bind_within fun _ => ?_
    rw [within_bind, ih]
    rfl

/-- A lambda starts with a token, which is there to be looked at. -/
theorem parameters_within {state : Assembly} {rest : List Token}
    (here : source.ahead state = token :: rest) (count : Nat) :
    parameters source text count state = within source (.parameters count) state := by
  have first : tokenAt source 0 state = settled (.ok (token, state)) := tokenAt_apply (by rw [here]; rfl)
  rw [parameters, Assembler.parameters, within_ahead_apply, here, bind_apply, first, settled_ok_bind]
  dsimp only
  refine congrFun ?_ state
  refine bind_within fun opening => ?_
  rw [parameterList_within reads]
  refine bind_within fun names => ?_
  refine bind_within fun _ => ?_
  refine bind_within fun arrow => ?_
  cases names <;> rfl

end Reads

section Levels

variable {source : Source} {text : List Char} {token : Token} {inner : Entry → Assembler Nat}

theorem closedList_within (close : Mark) :
    closedList source (fun entry => within source (inner entry)) close =
      within source (.closedList inner close) := by
  rw [closedList, Assembler.closedList]
  refine bind_within fun found => ?_
  cases found with
  | some token => rfl
  | none =>
    dsimp only
    refine bind_within fun tokens => ?_
    rw [separated_within]
    refine bind_within fun items => ?_
    rw [within_bind]
    rfl

theorem arguments_within : arguments source (fun entry => within source (inner entry)) =
    within source (.arguments inner) := by
  rw [arguments, Assembler.arguments]
  refine bind_within fun opening => ?_
  rw [within_bind, closedList_within]

/-- A function is called by the name at its place. -/
theorem call_within {span : Span} {name : String}
    (sliced : Text.slice? span.start span.stop text = some name.toList) :
    call source text (fun entry => within source (inner entry)) span =
      within source (.call inner name span) := by
  rw [call, image, sliced]
  change (within source (.expect .openParen) >>= fun _ => _) = _
  rw [Assembler.call, within_bind, String.ofList_toList]
  refine bind_congr fun _ => ?_
  rw [within_bind, closedList_within]

/-- The text of three tokens without blanks between them is a slice. -/
theorem slice?_qualified (reads : Reads source text) {scope colon name : Token}
    (members : ∀ token ∈ [scope, colon, name], token ∈ source.tokens) (isColon : IsMark .colon colon)
    (first : scope.span.stop = colon.span.start) (second : colon.span.stop = name.span.start) :
    Text.slice? (scope.span.join name.span).start (scope.span.join name.span).stop text =
      some (scope.text ++ ":" ++ name.text).toList := by
  simp only [List.forall_mem_cons] at members
  obtain ⟨scopeMember, colonMember, nameMember, _⟩ := members
  have scopeText := reads.slice scope scopeMember
  have colonText := reads.slice colon colonMember
  have nameText := reads.slice name nameMember
  rw [reads.colon colon colonMember isColon, ← first] at colonText
  rw [← second] at nameText
  have whole := Text.slice?_append (Text.slice?_append scopeText colonText) nameText
  have forward := Text.le_of_slice? scopeText
  have onward := Text.le_of_slice? colonText
  have toEnd := Text.le_of_slice? nameText
  rw [Span.join, Nat.min_eq_left (by omega), Nat.max_eq_right (by omega), String.toList_append,
    String.toList_append]
  exact whole

/-- A name with a namespace is taken by its index, and the image of the call cut out around both. -/
theorem qualified_within (reads : Reads source text) {state : Assembly} {rest : List Token}
    {colon name : Token} (here : source.ahead state = token :: colon :: name :: rest)
    (isColon : IsMark .colon colon) (first : token.span.stop = colon.span.start)
    (second : colon.span.stop = name.span.start) :
    (do
        let name ← tokenAt source 2
        within source .move
        within source .move
        within source .move
        call source text (fun entry => within source (inner entry)) (token.span.join name.span)) state =
      within source (do
        Assembler.move
        Assembler.move
        Assembler.call inner (token.text ++ ":" ++ name.text) (token.span.join name.span))
        state.moved := by
  have among : ∀ next ∈ [token, colon, name], next ∈ source.tokens := by
    have all : ∀ next ∈ source.ahead state, next ∈ source.tokens :=
      fun next ahead => List.mem_of_mem_drop ahead
    rw [here] at all
    simp only [List.forall_mem_cons] at all ⊢
    exact ⟨all.1, all.2.1, all.2.2.1, List.forall_mem_nil _⟩
  have there : (source.ahead state)[2]? = some name := by
    rw [here]
    rfl
  have sliced := slice?_qualified reads among isColon first second
  rw [bind_apply, tokenAt_apply there, settled_ok_bind]
  dsimp only
  rw [call_within sliced, move_apply, move_apply, move_apply, within_move_apply, within_move_apply]

/-- What comes after a name decides where the image of its node is cut out. -/
theorem named_within (reads : Reads source text) {state : Assembly} {rest : List Token}
    (here : source.ahead state = token :: rest) :
    named source text (fun entry => within source (inner entry)) token state =
      within source (.named inner token) state := by
  have member := Source.mem_of_ahead here
  have later : source.ahead state.moved = rest := by
    rw [Source.ahead, Assembly.moved, ← List.drop_drop, ← Source.ahead, here, List.drop_one,
      List.tail_cons]
  rw [named, ahead_apply, here, Assembler.named, within_move_apply, within_ahead_apply, later]
  symm
  split
  next opening spelling rest =>
    rw [if_neg (by simp [qualifies]), if_pos (by simp [Grammar.take?]), move_apply,
      call_within (reads.slice token member)]
  next colon sign name span spelling opening spelling' rest =>
    by_cases adjacent : token.span.stop = colon.start ∧ colon.stop = span.start
    · rw [if_pos adjacent, if_pos (by simpa [qualifies] using adjacent)]
      exact (qualified_within reads here rfl adjacent.1 adjacent.2).symm
    · rw [if_neg adjacent, if_neg (by simpa [qualifies] using adjacent),
        if_neg (by simp [Grammar.take?]), move_apply, leaf_within reads member]
  next noCall noQualified =>
    have unqualified : ¬ qualifies (token :: rest) = true := by
      intro qualified
      unfold qualifies at qualified
      split at qualified
      next same =>
        cases same
        exact noQualified _ _ _ _ _ _ _ _ rfl
      next => cases qualified
    have closed : ¬ (Grammar.take? .openParen rest).isSome = true := by
      intro found
      obtain ⟨⟨⟨kind, span, spelling⟩, tail, shorter⟩, found⟩ := Option.isSome_iff_exists.mp found
      obtain ⟨split, isOpen⟩ := Grammar.take?_eq_some found
      cases isOpen
      exact noCall span spelling tail split
    rw [if_neg unqualified, List.tail_cons, if_neg closed, move_apply, leaf_within reads member]

/-- The name of a member is one of the tokens. -/
theorem mem_of_propertyName {state : Assembly}
    (answer : (Assembler.propertyName.run source state).answer = .ok token) :
    token ∈ source.tokens := by
  rw [Assembler.propertyName, Assembler.bind_of_ok (b := source.ahead state) rfl] at answer
  dsimp only at answer
  cases found : Grammar.propertyName (source.ahead state) with
  | error e =>
    rw [found] at answer
    cases answer
  | ok taken =>
    rw [found] at answer
    cases answer
    exact Source.mem_of_ahead (Grammar.propertyName_eq_ok found).1

variable (reads : Reads source text)

include reads

theorem primary_within : primary source text (fun entry => within source (inner entry)) =
    within source (.primary inner) := by
  refine within_ahead fun state => ?_
  cases here : source.ahead state with
  | nil => rfl
  | cons token rest =>
    have member := Source.mem_of_ahead here
    obtain ⟨kind, span, spelling⟩ := token
    cases kind with
    | number _ | str _ | bool _ | null => exact congrFun (moved_leaf_within reads member _) state
    | ident _ => exact named_within reads here
    | mark mark =>
      refine congrFun ?_ state
      cases mark with
      | openParen =>
        dsimp only
        refine bind_within fun _ => ?_
        refine bind_within fun inside => ?_
        rw [within_bind]
        rfl
      | openBracket =>
        dsimp only
        refine bind_within fun _ => ?_
        rw [within_bind, closedList_within]
      | _ => rfl

theorem accessNext_within (goOn : Nat → Assembler Nat) (target : Nat) :
    accessNext source text (fun entry => within source (inner entry))
        (fun target => within source (goOn target)) target =
      within source (.accessNext inner goOn target) := by
  rw [accessNext, Assembler.accessNext]
  refine bind_within fun found => ?_
  cases found with
  | some _ =>
    refine bind_within_of (fun _ _ => mem_of_propertyName) fun name member => ?_
    rw [leaf_within reads member]
    refine bind_within fun id => ?_
    refine bind_within fun ahead => ?_
    cases Grammar.take? .openParen ahead with
    | some _ =>
      dsimp only
      rw [arguments_within]
      refine bind_within fun list => ?_
      rw [within_bind]
    | none =>
      dsimp only
      rw [within_bind]
  | none =>
    dsimp only
    refine bind_within fun found => ?_
    cases found with
    | none => rfl
    | some _ =>
      dsimp only
      refine bind_within fun index => ?_
      refine bind_within fun close => ?_
      refine bind_within fun span => ?_
      rw [within_bind]

theorem accessFrom_within (turns target : Nat) :
    accessFrom source text (fun entry => within source (inner entry)) turns target =
      within source (.accessFrom inner turns target) := by
  induction turns generalizing target with
  | zero => rfl
  | succ turns ih =>
    rw [accessFrom, funext ih]
    exact accessNext_within reads _ target

theorem access_within : access source text (fun entry => within source (inner entry)) =
    within source (.access inner) := by
  rw [access, Assembler.access, primary_within reads]
  refine bind_within fun target => ?_
  exact bind_within fun tokens => accessFrom_within reads _ target

theorem unary_within : unary source text (fun entry => within source (inner entry)) =
    within source (.unary inner) := by
  rw [unary, Assembler.unary]
  refine bind_within fun found => ?_
  cases found with
  | none => exact access_within reads
  | some op =>
    dsimp only
    refine bind_within fun operand => ?_
    rw [within_bind]

theorem ternary_within : ternary source text (fun entry => within source (inner entry)) =
    within source (.ternary inner) := by
  have below : disjunction source text (fun entry => within source (inner entry)) =
      within source (.disjunction inner) := by
    simp only [disjunction, conjunction, equality, relation, concatenation, sum, product,
      unary_within reads, leftChain_within, flatChain_within]
    rfl
  rw [ternary, Assembler.ternary, below]
  refine bind_within fun condition => ?_
  refine bind_within fun found => ?_
  cases found with
  | none => rfl
  | some _ =>
    dsimp only
    refine bind_within fun whenTrue => ?_
    refine bind_within fun _ => ?_
    rw [within_bind]

theorem lambda_within : lambda source text (fun entry => within source (inner entry)) =
    within source (.lambda inner) := by
  refine within_ahead fun state => ?_
  cases found : Assembler.parametersAhead? (source.ahead state) with
  | none => exact congrFun (ternary_within reads) state
  | some count =>
    obtain ⟨token, rest, here⟩ : ∃ token rest, source.ahead state = token :: rest :=
      List.exists_cons_of_ne_nil fun none => by
        rw [none] at found
        cases found
    dsimp only
    rw [within_bind, bind_apply, parameters_within reads here]
    refine bind_congr fun ⟨params, last⟩ => ?_
    dsimp only
    rw [within_bind]

theorem assignment_within : assignment source text (fun entry => within source (inner entry)) =
    within source (.assignment inner) := by
  rw [assignment, Assembler.assignment, lambda_within reads]
  refine bind_within fun target => ?_
  refine bind_within fun found => ?_
  cases found with
  | none => rfl
  | some _ =>
    dsimp only
    rw [within_bind]

/-- Every level of the parser does what the level of the machine does. -/
theorem level_within (ℓ : Level) : level source text (fun entry => within source (inner entry)) ℓ =
    within source (ℓ.assembler inner) := by
  cases ℓ with
  | assignment => exact assignment_within reads
  | lambda => exact lambda_within reads
  | ternary => exact ternary_within reads
  | access => exact access_within reads
  | primary => exact primary_within reads
  | _ =>
    simp only [level, disjunction, conjunction, equality, relation, concatenation, sum, product,
      unary_within reads, leftChain_within, flatChain_within]
    rfl

end Levels

/-! ## Rules -/

theorem descend_apply (source : Source) (part : Parser Nat) (state : Assembly) :
    descend source part state = if Grammar.maxDepth ≤ state.nesting then
      settled (.error (.tooDeep (Grammar.position source.textEnd (source.ahead state))))
    else part state.deeper >>= fun r => settled (.ok (r.1, r.2.shallower)) := by
  rw [descend, bind_apply]
  change (if Grammar.maxDepth ≤ state.nesting then _ else _ : Parser Nat) state = _
  split <;> rfl

theorem descend_within {source : Source} (part : Assembler Nat) :
    descend source (within source part) = within source (.descend part) := by
  funext state
  rw [descend_apply, within_apply (.descend part)]
  by_cases deep : Grammar.maxDepth ≤ state.nesting
  · have stopped : (Assembler.descend part).run source state =
        ⟨.error (.tooDeep (Grammar.position source.textEnd (source.ahead state))), state, []⟩ :=
      if_pos deep
    rw [if_pos deep, stopped]
    rfl
  · have inside : (Assembler.descend part).run source state =
        ⟨(part.run source state.deeper).answer, (part.run source state.deeper).last.shallower, _⟩ :=
      if_neg deep
    rw [if_neg deep, inside, within_apply]
    cases (part.run source state.deeper).answer <;> rfl

theorem nested_within {source : Source} {text : List Char} (reads : Reads source text)
    (beyond : Assembler Nat) (levels : Nat) (entry : Entry) :
    nested source text (within source beyond) levels entry =
      within source (.nested beyond levels entry) := by
  induction levels generalizing entry with
  | zero => rfl
  | succ levels ih =>
    rw [nested, funext ih, level_within reads, descend_within]
    rfl

end Parser

/-- What a token says and where it stands, with the characters at its place. -/
def Token.located? (text : List Char) (found : TokenKind × Span) : Option Token :=
  (Text.slice? found.2.start found.2.stop text).map fun cs => ⟨found.1, found.2, String.ofList cs⟩

/-- The syntax tree of a rule, where everything is read from the text and from the tokens by position. -/
def SyntaxTree.parseByPosition (beyond : Assembler Nat) (rule : String) :
    ExceptT ParseError Option SyntaxTree := do
  let text := rule.toList
  let (start, stop) ← liftM (Text.bodyRange? text)
  let tokens ← liftM ((← Scanner.scan text start stop).mapM (Token.located? text))
  if tokens.isEmpty then throw .empty
  else
    let source : Source := ⟨tokens, Text.byteLength text⟩
    let reading := Parser.nested source text (Parser.within source beyond) (Grammar.maxDepth + 1)
    let (root, last) ← reading .assignment .initial
    match source.ahead last with
    | token :: _ => throw (.trailingInput token.kind token.span.start)
    | [] => settled ((last.builder.finish root).mapError .tree)

theorem mapM_located? {text : List Char} {tokens : List Token}
    (slices : ∀ token ∈ tokens,
      Text.slice? token.span.start token.span.stop text = some token.text.toList) :
    (tokens.map Token.bare).mapM (Token.located? text) = some tokens := by
  induction tokens with
  | nil => rfl
  | cons token tokens ih =>
    simp only [List.forall_mem_cons] at slices
    have located : Token.located? text token.bare = some token := by
      rw [Token.located?, Token.bare, slices.1, Option.map_some, String.ofList_toList]
    rw [List.map_cons, List.mapM_cons, located, ih slices.2]
    rfl

/-- Reading a rule by position has the outcome of reading it. -/
theorem SyntaxTree.parseByPosition_eq (beyond : Assembler Nat) (rule : String) :
    SyntaxTree.parseByPosition beyond rule = settled (SyntaxTree.parse rule) := by
  rw [← assemble_eq_parse beyond, parseByPosition, assemble]
  dsimp only
  rw [Text.bodyRange?_eq]
  change (Scanner.scan _ _ _ >>= _) = _
  rw [Scanner.scan_eq (Body.slice?_of _)]
  change settled ((Body.of rule.toList).tokens.map _) >>= _ = _
  cases split : (Body.of rule.toList).tokens with
  | error e => rfl
  | ok tokens =>
    have splits := Lexer.splits_of_tokens split
    have slices : ∀ token ∈ tokens,
        Text.slice? token.span.start token.span.stop rule.toList = some token.text.toList :=
      fun token member => (splits.slice (Body.slice?_of _) token member).2
    rw [Except.map, settled_ok_bind, mapM_located? slices]
    change (if tokens.isEmpty then _ else _ : ExceptT ParseError Option SyntaxTree) =
      settled (if tokens.isEmpty then _ else _)
    split
    next => rfl
    next =>
      rw [Parser.nested_within ⟨slices, splits.text_of_colon⟩, ← Assembler.expression,
        Parser.within_apply]
      generalize (Assembler.expression beyond).run _ _ = run
      obtain ⟨answer, last, passed⟩ := run
      cases answer with
      | error e => rfl
      | ok root =>
        rw [Except.map, settled_ok_bind]
        change _ = settled (match Source.ahead _ last with | token :: _ => _ | [] => _)
        cases Source.ahead _ last <;> rfl

end TargetingRules
