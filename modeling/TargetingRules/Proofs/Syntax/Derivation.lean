import TargetingRules.Syntax.Grammar

/-!
# Derivations of expressions

The grammar of rules as an inductive relation over token lists, stated apart from the readers that
decide it. `Derives n ℓ ts t rest` says that the tokens `ts` start with an expression `t` of level
`ℓ`, with `rest` after it, and that it takes at most `n` levels of nesting, itself included. The
chains of operators that group to the left are left recursive here, and nothing says how far a
reader has to look ahead, except that a name, a colon and a name without blanks between them,
before a parenthesis, are always the name of a function.

The height of the trees is not bounded by the grammar; that is a second limit of the readers.
-/

namespace TargetingRules.Grammar

/-- A token is the given mark. -/
def IsMark (mark : Mark) (token : Token) : Prop :=
  token.kind = .mark mark

/-- A token is a name. -/
def IsName (token : Token) : Prop :=
  ∃ name, token.kind = .ident name

/-- No blank stands between two tokens. -/
def Adjacent (first second : Token) : Prop :=
  first.span.stop = second.span.start

/-- The tokens after `scope` make it the namespace of a function that is called. -/
def OpensQualified (scope : Token) : List Token → Prop
  | colon :: name :: opening :: _ =>
    IsMark .colon colon ∧ IsName name ∧ IsMark .openParen opening ∧
      Adjacent scope colon ∧ Adjacent colon name
  | _ => False

/-- The precedence levels, loosest first. -/
inductive Level where
  | assignment | lambda | ternary | disjunction | conjunction | equality | relation
  | concatenation | sum | product | unary | access | primary
  deriving DecidableEq, Repr

namespace Level

/-- The next tighter level; there is none beyond the primary expressions. -/
def tighter : Level → Level
  | .assignment => .lambda
  | .lambda => .ternary
  | .ternary => .disjunction
  | .disjunction => .conjunction
  | .conjunction => .equality
  | .equality => .relation
  | .relation => .concatenation
  | .concatenation => .sum
  | .sum => .product
  | .product => .unary
  | .unary => .access
  | .access => .primary
  | .primary => .primary

/-- The operators of a level whose chains are one node over all operands. -/
def flatOperators : Level → List (Mark × Kind)
  | .disjunction => [(.or, .or)]
  | .conjunction => [(.and, .and)]
  | _ => []

/-- The operators of a level whose chains group to the left. -/
def leftOperators : Level → List (Mark × Kind)
  | .equality => [(.equal, .compare .equal), (.notEqual, .compare .notEqual)]
  | .relation => [(.less, .compare .less), (.greater, .compare .greater),
      (.atMost, .compare .atMost), (.atLeast, .compare .atLeast)]
  | .concatenation => [(.plusAssign, .concatenation)]
  | .sum => [(.plus, .arithmetic .add), (.minus, .arithmetic .sub)]
  | .product => [(.star, .arithmetic .mul), (.slash, .arithmetic .div),
      (.percent, .arithmetic .mod)]
  | _ => []

end Level

/-- The operators before their operand. -/
def prefixOperators : List (Mark × Kind) :=
  [(.minus, .negate), (.not, .not), (.empty, .empty)]

/-- The literal that a token is. -/
def literal? : TokenKind → Option LiteralKind
  | .number _ => some .number
  | .str _ => some .string
  | .bool _ => some .boolean
  | .null => some .null
  | _ => none

/-- A node that spans exactly its children. -/
def spanning (kind : Kind) (children : List Tree) : Tree :=
  .node kind none (Span.cover (children.map Tree.span)) children

/-- One or more names with commas between them. -/
inductive Names : List Token → List Token → List Token → Prop where
  | one {name rest} (isName : IsName name) : Names (name :: rest) [name] rest
  | more {name comma ts names rest} (isName : IsName name) (isComma : IsMark .comma comma)
      (others : Names ts names rest) : Names (name :: comma :: ts) (name :: names) rest

theorem Names.ne_nil {ts names rest : List Token} (listed : Names ts names rest) : names ≠ [] := by
  cases listed with
  | one => exact List.cons_ne_nil _ _
  | more => exact List.cons_ne_nil _ _

/-- The parameters of a lambda with the arrow after them: a name, or names in parentheses, of
which there may be none. -/
inductive Parameters : List Token → Tree → List Token → Prop where
  | name {name arrow rest} (isName : IsName name) (isArrow : IsMark .arrow arrow) :
      Parameters (name :: arrow :: rest) (spanning .lambdaParameters [leaf .identifier name]) rest
  | none {opening close arrow rest} (isOpen : IsMark .openParen opening)
      (isClose : IsMark .closeParen close) (isArrow : IsMark .arrow arrow) :
      Parameters (opening :: close :: arrow :: rest)
        (.node .lambdaParameters .none ⟨opening.span.start, arrow.span.start⟩ []) rest
  | names {opening ts names close arrow rest} (isOpen : IsMark .openParen opening)
      (listed : Names ts names (close :: arrow :: rest)) (isClose : IsMark .closeParen close)
      (isArrow : IsMark .arrow arrow) :
      Parameters (opening :: ts) (spanning .lambdaParameters (names.map (leaf .identifier))) rest

mutual

/-- The tokens start with an expression of a level, with the given tokens after it. -/
inductive Derives : Nat → Level → List Token → Tree → List Token → Prop where
  | tighter {n ℓ ts t rest} (inner : Derives n ℓ.tighter ts t rest) : Derives n ℓ ts t rest
  | assign {n ts target op middle value rest}
      (left : Derives (n + 1) .lambda ts target (op :: middle)) (isOp : IsMark .assign op)
      (right : Derives n .assignment middle value rest) :
      Derives (n + 1) .assignment ts (spanning .assign [target, value]) rest
  | lambda {n ts params middle body rest} (head : Parameters ts params middle)
      (inner : Derives n .lambda middle body rest) :
      Derives (n + 1) .lambda ts (spanning .arrow [params, body]) rest
  | ternary {n ts condition question middle whenTrue colon last whenFalse rest}
      (first : Derives (n + 1) .disjunction ts condition (question :: middle))
      (isQuestion : IsMark .question question)
      (second : Derives n .ternary middle whenTrue (colon :: last)) (isColon : IsMark .colon colon)
      (third : Derives n .ternary last whenFalse rest) :
      Derives (n + 1) .ternary ts (spanning .ternary [condition, whenTrue, whenFalse]) rest
  | flat {n ℓ mark kind ts trees rest} (listed : (mark, kind) ∈ ℓ.flatOperators)
      (operands : Series n ℓ.tighter mark ts trees rest) (several : 2 ≤ trees.length) :
      Derives n ℓ ts (spanning kind trees) rest
  | binary {n ℓ mark kind ts left op middle right rest} (listed : (mark, kind) ∈ ℓ.leftOperators)
      (first : Derives n ℓ ts left (op :: middle)) (isOp : IsMark mark op)
      (second : Derives n ℓ.tighter middle right rest) :
      Derives n ℓ ts (spanning kind [left, right]) rest
  | prefixed {n mark kind op ts operand rest} (listed : (mark, kind) ∈ prefixOperators)
      (isOp : IsMark mark op) (inner : Derives n .unary ts operand rest) :
      Derives (n + 1) .unary (op :: ts)
        (.node kind none (op.span.join operand.span) [operand]) rest
  | property {n ts target dot name rest} (inner : Derives n .access ts target (dot :: name :: rest))
      (isDot : IsMark .dot dot) (isName : IsName name) :
      Derives n .access ts (spanning .property [target, leaf .member name]) rest
  | method {n ts target dot name opening middle arguments close rest}
      (inner : Derives (n + 1) .access ts target (dot :: name :: opening :: middle))
      (isDot : IsMark .dot dot) (isName : IsName name) (isOpen : IsMark .openParen opening)
      (list : Items n .closeParen middle arguments close rest) :
      Derives (n + 1) .access ts (spanning .methodCall [target, leaf .member name,
        .node .arguments none (opening.span.join close.span) arguments]) rest
  | index {n ts target opening middle index close rest}
      (inner : Derives (n + 1) .access ts target (opening :: middle))
      (isOpen : IsMark .openBracket opening)
      (nested : Derives n .assignment middle index (close :: rest))
      (isClose : IsMark .closeBracket close) :
      Derives (n + 1) .access ts
        (.node .index none (target.span.join close.span) [target, index]) rest
  | literal {n token kind rest} (isLiteral : literal? token.kind = some kind) :
      Derives (n + 1) .primary (token :: rest) (leaf (.literal kind) token) rest
  | identifier {n token rest} (isName : IsName token) (unqualified : ¬ OpensQualified token rest) :
      Derives (n + 1) .primary (token :: rest) (leaf .identifier token) rest
  | call {n token opening middle arguments close rest} (isName : IsName token)
      (isOpen : IsMark .openParen opening)
      (list : Items n .closeParen middle arguments close rest) :
      Derives (n + 1) .primary (token :: opening :: middle)
        (.node .function (some token.text) (token.span.join close.span) arguments) rest
  | qualifiedCall {n scope colon name opening middle arguments close rest} (isName : IsName scope)
      (qualified : OpensQualified scope (colon :: name :: opening :: middle))
      (list : Items n .closeParen middle arguments close rest) :
      Derives (n + 1) .primary (scope :: colon :: name :: opening :: middle)
        (.node .function (some (scope.text ++ ":" ++ name.text))
          ((scope.span.join name.span).join close.span) arguments) rest
  | parentheses {n opening ts t close rest} (isOpen : IsMark .openParen opening)
      (inner : Derives n .assignment ts t (close :: rest)) (isClose : IsMark .closeParen close) :
      Derives (n + 1) .primary (opening :: ts) t rest
  | list {n opening ts items close rest} (isOpen : IsMark .openBracket opening)
      (list : Items n .closeBracket ts items close rest) :
      Derives (n + 1) .primary (opening :: ts)
        (.node .list none (opening.span.join close.span) items) rest

/-- The tokens start with one or more expressions of a level, with a mark between them. -/
inductive Series : Nat → Level → Mark → List Token → List Tree → List Token → Prop where
  | one {n ℓ mark ts t rest} (last : Derives n ℓ ts t rest) : Series n ℓ mark ts [t] rest
  | more {n ℓ mark ts t op middle trees rest} (first : Derives n ℓ ts t (op :: middle))
      (isOp : IsMark mark op) (others : Series n ℓ mark middle trees rest) :
      Series n ℓ mark ts (t :: trees) rest

/-- The tokens start with any number of expressions, with commas between them, and a closing
token after them. -/
inductive Items : Nat → Mark → List Token → List Tree → Token → List Token → Prop where
  | none {n mark close rest} (isClose : IsMark mark close) : Items n mark (close :: rest) [] close rest
  | some {n mark ts trees close rest} (listed : Series n .assignment .comma ts trees (close :: rest))
      (isClose : IsMark mark close) : Items n mark ts trees close rest

end

end TargetingRules.Grammar
