import TargetingRules.Syntax.Failure
import TargetingRules.Syntax.Tree

/-!
# From tokens to expressions

The grammar of rules, lowest precedence first: assignment, lambda, ternary, disjunction,
conjunction, equality, relation, concatenation, sum, product, unary operators, access to members
and elements, and primary expressions. Each level is a function of the readers one level of nesting
further in, which `nested` supplies until the allowed depth is used up. A reader that succeeds
returns the tokens that are left and the fact that they are fewer, and that is why the chains of
operators end.

Assignment, concatenation and lambdas are grammatical, so that they can be rejected by name and not
as malformed text.
-/

namespace TargetingRules.Grammar

/-- The deepest nesting of expressions, and the height of the highest tree. -/
def maxDepth : Nat := 64

/-- An expression read from the front of a token list. -/
structure Parsed (ts : List Token) where
  /-- The expression. -/
  tree : Tree
  /-- The tokens after it. -/
  rest : List Token
  /-- At least one token was read. -/
  shorter : rest.length < ts.length

/-- A way to read an expression from the front of a token list. -/
abbrev Reader := (ts : List Token) → Except ParseError (Parsed ts)

/-- One token read from the front of a token list. -/
structure Taken (ts : List Token) where
  /-- The token. -/
  token : Token
  /-- The tokens after it. -/
  rest : List Token
  /-- A token was read. -/
  shorter : rest.length < ts.length

/-- Several expressions read from the front of a token list. -/
structure Several (ts : List Token) where
  /-- The expressions in order. -/
  trees : List Tree
  /-- The tokens after them. -/
  rest : List Token
  /-- At least one token was read. -/
  shorter : rest.length < ts.length

/-- Several expressions and the closing token after them. -/
structure Closed (ts : List Token) extends Several ts where
  /-- The closing token. -/
  close : Token

/-! ## Tokens -/

/-- The failure at the next token, or at the end of the tokens. -/
def unexpected (expected : Expectation) : List Token → ParseError
  | [] => .unexpectedEnd expected
  | token :: _ => .unexpectedToken token.kind expected token.span.start

/-- Where the next token starts; `textEnd` after the last one. -/
def position (textEnd : Nat) : List Token → Nat
  | [] => textEnd
  | token :: _ => token.span.start

/-- Read a mark, if it comes next. -/
def take? (mark : Mark) : (ts : List Token) → Option (Taken ts)
  | [] => none
  | token :: rest =>
    if token.kind = .mark mark then some ⟨token, rest, Nat.lt_succ_self _⟩ else none

/-- Read a mark that has to come next. -/
def expect (mark : Mark) (ts : List Token) : Except ParseError (Taken ts) :=
  match take? mark ts with
  | some taken => .ok taken
  | none => .error (unexpected (.mark mark) ts)

/-- Read one of several operators, if it comes next. -/
def operator? (kind? : Mark → Option Kind) : (ts : List Token) → Option (Kind × Taken ts)
  | ⟨.mark mark, span, text⟩ :: rest =>
    (kind? mark).map fun kind => (kind, ⟨⟨.mark mark, span, text⟩, rest, Nat.lt_succ_self _⟩)
  | _ => none

/-- Read the name after a point. -/
def propertyName : (ts : List Token) → Except ParseError (Taken ts)
  | ⟨.ident name, span, text⟩ :: rest =>
    .ok ⟨⟨.ident name, span, text⟩, rest, Nat.lt_succ_self _⟩
  | ts => .error (unexpected .propertyName ts)

/-! ## Nodes -/

/-- A node over expressions, refused if the tree gets too high. -/
def grow (kind : Kind) (image : Option String) (span : Span) (children : List Tree) :
    Except ParseError Tree :=
  let tree := Tree.node kind image span children
  if tree.height ≤ maxDepth then .ok tree else .error (.tooDeep span.start)

/-- A node that spans exactly its children. -/
def branch (kind : Kind) (children : List Tree) : Except ParseError Tree :=
  grow kind none (Span.cover (children.map Tree.span)) children

/-- A node without children, named by its token. -/
def leaf (kind : Kind) (token : Token) : Tree :=
  .node kind (some token.text) token.span []

/-! ## Chains -/

/-- One or more operands with a mark between them. -/
def separated (mark : Mark) (operand : Reader) (ts : List Token) :
    Except ParseError (Several ts) := do
  let first ← operand ts
  match take? mark first.rest with
  | none => return ⟨[first.tree], first.rest, first.shorter⟩
  | some taken =>
    have fewer := Nat.lt_trans taken.shorter first.shorter
    let more ← separated mark operand taken.rest
    return ⟨first.tree :: more.trees, more.rest, Nat.lt_trans more.shorter fewer⟩
termination_by ts.length

/-- A chain of one operator as a single node; one operand alone stands for itself. -/
def flatChain (kind : Kind) (mark : Mark) (operand : Reader) : Reader := fun ts => do
  let operands ← separated mark operand ts
  let tree ← match operands.trees with
    | [tree] => pure tree
    | trees => branch kind trees
  return ⟨tree, operands.rest, operands.shorter⟩

/-- The operators and operands that follow a left operand, grouped to the left. -/
def leftChainFrom (kind? : Mark → Option Kind) (operand : Reader) {ts : List Token}
    (left : Parsed ts) : Except ParseError (Parsed ts) :=
  match operator? kind? left.rest with
  | none => .ok left
  | some (kind, taken) => do
    let right ← operand taken.rest
    have fewer := Nat.lt_trans right.shorter taken.shorter
    let tree ← branch kind [left.tree, right.tree]
    leftChainFrom kind? operand
      (⟨tree, right.rest, Nat.lt_trans fewer left.shorter⟩ : Parsed ts)
termination_by left.rest.length

/-- A chain of operators of one level, grouped to the left. -/
def leftChain (kind? : Mark → Option Kind) (operand : Reader) : Reader := fun ts => do
  let left ← operand ts
  leftChainFrom kind? operand left

/-! ## Operators by level -/

/-- Operators of equality. -/
def equality? : Mark → Option Kind
  | .equal => some (.compare .equal)
  | .notEqual => some (.compare .notEqual)
  | _ => none

/-- Operators of order. -/
def relation? : Mark → Option Kind
  | .less => some (.compare .less)
  | .greater => some (.compare .greater)
  | .atMost => some (.compare .atMost)
  | .atLeast => some (.compare .atLeast)
  | _ => none

/-- The operator of concatenation. -/
def concatenation? : Mark → Option Kind
  | .plusAssign => some .concatenation
  | _ => none

/-- Operators of sums. -/
def sum? : Mark → Option Kind
  | .plus => some (.arithmetic .add)
  | .minus => some (.arithmetic .sub)
  | _ => none

/-- Operators of products. -/
def product? : Mark → Option Kind
  | .star => some (.arithmetic .mul)
  | .slash => some (.arithmetic .div)
  | .percent => some (.arithmetic .mod)
  | _ => none

/-- Operators before their operand. -/
def unary? : Mark → Option Kind
  | .minus => some .negate
  | .not => some .not
  | .empty => some .empty
  | _ => none

/-! ## Levels -/

/-- The levels at which a nested expression can start. -/
inductive Entry where
  | assignment | lambda | ternary | unary
  deriving DecidableEq, Repr

/-- Expressions separated by commas up to a closing mark; there may be none. -/
def closedList (close : Mark) (nested : Entry → Reader) (ts : List Token) :
    Except ParseError (Closed ts) :=
  match take? close ts with
  | some taken => .ok ⟨⟨[], taken.rest, taken.shorter⟩, taken.token⟩
  | none => do
    let items ← separated .comma (nested .assignment) ts
    let last ← expect close items.rest
    return ⟨⟨items.trees, last.rest, Nat.lt_trans last.shorter items.shorter⟩, last.token⟩

/-- The name of a function and the parenthesis that opens its arguments. -/
structure Callee (ts : List Token) where
  /-- The name, with its namespace if it has one. -/
  image : String
  /-- Where the name stands. -/
  span : Span
  /-- The tokens after the parenthesis. -/
  rest : List Token
  /-- At least one token was read. -/
  shorter : rest.length < ts.length

/-- Whether a name starts a function call, given the tokens after it. A namespace, its colon and
the name stand without blanks, so that the alternatives of a ternary may be calls. -/
def callee? (token : Token) : (ts : List Token) → Option (Callee ts)
  | ⟨.mark .openParen, _, _⟩ :: rest =>
    some ⟨token.text, token.span, rest, Nat.lt_succ_self _⟩
  | ⟨.mark .colon, colon, _⟩ :: ⟨.ident _, span, name⟩ :: ⟨.mark .openParen, _, _⟩ :: rest =>
    if token.span.stop = colon.start ∧ colon.stop = span.start then
      some ⟨token.text ++ ":" ++ name, token.span.join span, rest,
        by simp only [List.length_cons]; omega⟩
    else none
  | _ => none

/-- A variable or a function call that starts with a name. -/
def named (nested : Entry → Reader) (token : Token) (ts : List Token) :
    Except ParseError (Parsed (token :: ts)) :=
  match callee? token ts with
  | none => .ok ⟨leaf .identifier token, ts, Nat.lt_succ_self _⟩
  | some callee => do
    let arguments ← closedList .closeParen nested callee.rest
    let tree ← grow .function (some callee.image) (callee.span.join arguments.close.span)
      arguments.trees
    return ⟨tree, arguments.rest,
      Nat.lt_trans (Nat.lt_trans arguments.shorter callee.shorter) (Nat.lt_succ_self _)⟩

/-- A literal, a variable, a function call, an expression in parentheses or a list. -/
def primary (nested : Entry → Reader) : Reader
  | [] => .error (unexpected .expression [])
  | token :: rest =>
    match token.kind with
    | .number _ => .ok ⟨leaf (.literal .number) token, rest, Nat.lt_succ_self _⟩
    | .str _ => .ok ⟨leaf (.literal .string) token, rest, Nat.lt_succ_self _⟩
    | .bool _ => .ok ⟨leaf (.literal .boolean) token, rest, Nat.lt_succ_self _⟩
    | .null => .ok ⟨leaf (.literal .null) token, rest, Nat.lt_succ_self _⟩
    | .ident _ => named nested token rest
    | .mark .openParen => do
      let inside ← nested .assignment rest
      let close ← expect .closeParen inside.rest
      return ⟨inside.tree, close.rest,
        Nat.lt_trans (Nat.lt_trans close.shorter inside.shorter) (Nat.lt_succ_self _)⟩
    | .mark .openBracket => do
      let items ← closedList .closeBracket nested rest
      let tree ← grow .list none (token.span.join items.close.span) items.trees
      return ⟨tree, items.rest, Nat.lt_trans items.shorter (Nat.lt_succ_self _)⟩
    | .mark _ => .error (unexpected .expression (token :: rest))

/-- The members and elements read from a target. -/
def accessFrom (nested : Entry → Reader) {ts : List Token} (target : Parsed ts) :
    Except ParseError (Parsed ts) :=
  match take? .dot target.rest with
  | some dot => do
    let name ← propertyName dot.rest
    have fewer := Nat.lt_trans name.shorter dot.shorter
    let member := leaf .member name.token
    match take? .openParen name.rest with
    | some opening =>
      let list ← closedList .closeParen nested opening.rest
      have fewer := Nat.lt_trans (Nat.lt_trans list.shorter opening.shorter) fewer
      let arguments ← grow .arguments none (opening.token.span.join list.close.span) list.trees
      let tree ← branch .methodCall [target.tree, member, arguments]
      accessFrom nested (⟨tree, list.rest, Nat.lt_trans fewer target.shorter⟩ : Parsed ts)
    | none =>
      let tree ← branch .property [target.tree, member]
      accessFrom nested (⟨tree, name.rest, Nat.lt_trans fewer target.shorter⟩ : Parsed ts)
  | none =>
    match take? .openBracket target.rest with
    | some opening => do
      let index ← nested .assignment opening.rest
      let close ← expect .closeBracket index.rest
      have fewer := Nat.lt_trans (Nat.lt_trans close.shorter index.shorter) opening.shorter
      let tree ← grow .index none (target.tree.span.join close.token.span)
        [target.tree, index.tree]
      accessFrom nested (⟨tree, close.rest, Nat.lt_trans fewer target.shorter⟩ : Parsed ts)
    | none => .ok target
termination_by target.rest.length

/-- A primary expression and the members and elements read from it. -/
def access (nested : Entry → Reader) : Reader := fun ts => do
  let target ← primary nested ts
  accessFrom nested target

/-- An operator before its operand, or an access. -/
def unary (nested : Entry → Reader) : Reader := fun ts =>
  match operator? unary? ts with
  | none => access nested ts
  | some (kind, taken) => do
    let operand ← nested .unary taken.rest
    let tree ← grow kind none (taken.token.span.join operand.tree.span) [operand.tree]
    return ⟨tree, operand.rest, Nat.lt_trans operand.shorter taken.shorter⟩

/-- Products. -/
def product (nested : Entry → Reader) : Reader := leftChain product? (unary nested)

/-- Sums. -/
def sum (nested : Entry → Reader) : Reader := leftChain sum? (product nested)

/-- Concatenations. -/
def concatenation (nested : Entry → Reader) : Reader := leftChain concatenation? (sum nested)

/-- Relations. -/
def relation (nested : Entry → Reader) : Reader := leftChain relation? (concatenation nested)

/-- Equalities. -/
def equality (nested : Entry → Reader) : Reader := leftChain equality? (relation nested)

/-- Conjunctions. -/
def conjunction (nested : Entry → Reader) : Reader := flatChain .and .and (equality nested)

/-- Disjunctions. -/
def disjunction (nested : Entry → Reader) : Reader := flatChain .or .or (conjunction nested)

/-- A condition with two alternatives, or a disjunction. -/
def ternary (nested : Entry → Reader) : Reader := fun ts => do
  let condition ← disjunction nested ts
  match take? .question condition.rest with
  | none => return condition
  | some question =>
    let whenTrue ← nested .ternary question.rest
    let colon ← expect .colon whenTrue.rest
    let whenFalse ← nested .ternary colon.rest
    let tree ← branch .ternary [condition.tree, whenTrue.tree, whenFalse.tree]
    return ⟨tree, whenFalse.rest,
      Nat.lt_trans whenFalse.shorter <| Nat.lt_trans colon.shorter <|
        Nat.lt_trans whenTrue.shorter <| Nat.lt_trans question.shorter condition.shorter⟩

/-- The parameters of a lambda, through its closing parenthesis and arrow. -/
structure ParameterNames (ts : List Token) where
  /-- The names in order. -/
  names : List Token
  /-- The tokens after the arrow. -/
  rest : List Token
  /-- At least one token was read. -/
  shorter : rest.length < ts.length

/-- Names separated by commas, a closing parenthesis and an arrow. -/
def parameterNames? : (ts : List Token) → Option (ParameterNames ts)
  | ⟨.ident name, span, text⟩ :: ⟨.mark .comma, _, _⟩ :: rest =>
    (parameterNames? rest).map fun more =>
      ⟨⟨.ident name, span, text⟩ :: more.names, more.rest,
        by have := more.shorter; simp only [List.length_cons]; omega⟩
  | ⟨.ident name, span, text⟩ :: ⟨.mark .closeParen, _, _⟩ :: ⟨.mark .arrow, _, _⟩ :: rest =>
    some ⟨[⟨.ident name, span, text⟩], rest, by simp only [List.length_cons]; omega⟩
  | _ => none

/-- The node over the parameters of a lambda, of which there is at least one. -/
def parameters (names : List Token) : Tree :=
  .node .lambdaParameters none (Span.cover (names.map Token.span)) (names.map (leaf .identifier))

/-- Read the parameters of a lambda and its arrow, if they come next: one name, or any number of
names in parentheses. -/
def lambdaHead? : (ts : List Token) → Option (Parsed ts)
  | ⟨.ident name, span, text⟩ :: ⟨.mark .arrow, _, _⟩ :: rest =>
    some ⟨parameters [⟨.ident name, span, text⟩], rest, by simp only [List.length_cons]; omega⟩
  | ⟨.mark .openParen, opening, _⟩ :: ⟨.mark .closeParen, _, _⟩ ::
      ⟨.mark .arrow, arrow, _⟩ :: rest =>
    some ⟨.node .lambdaParameters none ⟨opening.start, arrow.start⟩ [], rest,
      by simp only [List.length_cons]; omega⟩
  | ⟨.mark .openParen, _, _⟩ :: rest =>
    (parameterNames? rest).map fun found =>
      ⟨parameters found.names, found.rest, Nat.lt_trans found.shorter (Nat.lt_succ_self _)⟩
  | _ => none

/-- A lambda, or a ternary. -/
def lambda (nested : Entry → Reader) : Reader := fun ts =>
  match lambdaHead? ts with
  | none => ternary nested ts
  | some head => do
    let body ← nested .lambda head.rest
    let tree ← branch .arrow [head.tree, body.tree]
    return ⟨tree, body.rest, Nat.lt_trans body.shorter head.shorter⟩

/-- An assignment, which groups to the right, or a lambda. -/
def assignment (nested : Entry → Reader) : Reader := fun ts => do
  let target ← lambda nested ts
  match take? .assign target.rest with
  | none => return target
  | some taken =>
    let value ← nested .assignment taken.rest
    let tree ← branch .assign [target.tree, value.tree]
    return ⟨tree, value.rest,
      Nat.lt_trans value.shorter (Nat.lt_trans taken.shorter target.shorter)⟩

/-! ## Nesting -/

/-- The readers of expressions nested so many levels at most. -/
def nested (textEnd : Nat) : (depth : Nat) → Entry → Reader
  | 0, _ => fun ts => .error (.tooDeep (position textEnd ts))
  | depth + 1, .assignment => assignment (nested textEnd depth)
  | depth + 1, .lambda => lambda (nested textEnd depth)
  | depth + 1, .ternary => ternary (nested textEnd depth)
  | depth + 1, .unary => unary (nested textEnd depth)

/-- The expression that all tokens of a text of `textEnd` bytes make up. -/
def expression (textEnd : Nat) (ts : List Token) : Except ParseError Tree :=
  if ts.isEmpty then .error .empty
  else do
    let parsed ← nested textEnd maxDepth .assignment ts
    match parsed.rest with
    | [] => return parsed.tree
    | token :: _ => .error (.trailingInput token.kind token.span.start)

end TargetingRules.Grammar
