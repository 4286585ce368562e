import TargetingRules.Proofs.Syntax.Follow

/-!
# Printing expressions

An expression as a text of the grammar. An operand stands in parentheses just where its own level is
looser than the one the grammar asks for at its place, and single spaces separate the pieces of the
text. The name of a function is one piece, with its namespace.

`Formed` are the expressions of the language: those whose nodes have the children and the images that
the grammar gives them. What a name and what a literal is, is left open there.
-/

namespace TargetingRules

/-! ## Expressions of the language -/

/-- The names of functions: a name, or two of them with a colon between them. -/
def IsCallee (IsName : String → Prop) (image : String) : Prop :=
  IsName image ∨ ∃ scope name, IsName scope ∧ IsName name ∧ image = scope ++ ":" ++ name

/-- The expressions of the language, for the given names and literals. -/
inductive Formed (IsName : String → Prop) (IsLiteral : LiteralKind → String → Prop) :
    Tree → Prop where
  | identifier {name span} (isName : IsName name) :
      Formed IsName IsLiteral (.node .identifier (some name) span [])
  | literal {kind image span} (isLiteral : IsLiteral kind image) :
      Formed IsName IsLiteral (.node (.literal kind) (some image) span [])
  | function {image span arguments} (isCallee : IsCallee IsName image)
      (formed : ∀ t ∈ arguments, Formed IsName IsLiteral t) :
      Formed IsName IsLiteral (.node .function (some image) span arguments)
  | list {span items} (formed : ∀ t ∈ items, Formed IsName IsLiteral t) :
      Formed IsName IsLiteral (.node .list none span items)
  | flat {ℓ mark kind span operands} (listed : (mark, kind) ∈ Grammar.Level.flatOperators ℓ)
      (several : 2 ≤ operands.length) (formed : ∀ t ∈ operands, Formed IsName IsLiteral t) :
      Formed IsName IsLiteral (.node kind none span operands)
  | binary {ℓ mark kind span left right}
      (listed : (mark, kind) ∈ Grammar.Level.leftOperators ℓ)
      (first : Formed IsName IsLiteral left) (second : Formed IsName IsLiteral right) :
      Formed IsName IsLiteral (.node kind none span [left, right])
  | prefixed {mark kind span operand} (listed : (mark, kind) ∈ Grammar.prefixOperators)
      (inner : Formed IsName IsLiteral operand) :
      Formed IsName IsLiteral (.node kind none span [operand])
  | ternary {span condition whenTrue whenFalse} (first : Formed IsName IsLiteral condition)
      (second : Formed IsName IsLiteral whenTrue) (third : Formed IsName IsLiteral whenFalse) :
      Formed IsName IsLiteral (.node .ternary none span [condition, whenTrue, whenFalse])
  | property {span target name nameSpan} (inner : Formed IsName IsLiteral target)
      (isName : IsName name) :
      Formed IsName IsLiteral
        (.node .property none span [target, .node .member (some name) nameSpan []])
  | methodCall {span target name nameSpan listSpan arguments}
      (inner : Formed IsName IsLiteral target) (isName : IsName name)
      (formed : ∀ t ∈ arguments, Formed IsName IsLiteral t) :
      Formed IsName IsLiteral (.node .methodCall none span
        [target, .node .member (some name) nameSpan [], .node .arguments none listSpan arguments])
  | index {span target index} (first : Formed IsName IsLiteral target)
      (second : Formed IsName IsLiteral index) :
      Formed IsName IsLiteral (.node .index none span [target, index])
  | assign {span target value} (first : Formed IsName IsLiteral target)
      (second : Formed IsName IsLiteral value) :
      Formed IsName IsLiteral (.node .assign none span [target, value])
  | arrow {span listSpan params body}
      (names : ∀ param ∈ params, ∃ name span, IsName name ∧
        param = .node .identifier (some name) span [])
      (inner : Formed IsName IsLiteral body) :
      Formed IsName IsLiteral (.node .arrow none span
        [.node .lambdaParameters none listSpan params, body])

/-! ## Kinds of operators -/

theorem kind_of_mem_leftOperators {ℓ : Grammar.Level} {mark : Mark} {kind : Kind}
    (listed : (mark, kind) ∈ ℓ.leftOperators) :
    (∃ op, kind = .compare op) ∨ (∃ op, kind = .arithmetic op) ∨ kind = .concatenation := by
  have all : ∀ entry ∈ ℓ.leftOperators, (∃ op, entry.2 = .compare op) ∨
      (∃ op, entry.2 = .arithmetic op) ∨ entry.2 = .concatenation := by
    cases ℓ <;> simp [Grammar.Level.leftOperators]
  exact all _ listed

theorem kind_of_mem_flatOperators {ℓ : Grammar.Level} {mark : Mark} {kind : Kind}
    (listed : (mark, kind) ∈ ℓ.flatOperators) : kind = .and ∨ kind = .or := by
  have all : ∀ entry ∈ ℓ.flatOperators, entry.2 = .and ∨ entry.2 = .or := by
    cases ℓ <;> simp [Grammar.Level.flatOperators]
  exact all _ listed

theorem kind_of_mem_prefixOperators {mark : Mark} {kind : Kind}
    (listed : (mark, kind) ∈ Grammar.prefixOperators) :
    kind = .negate ∨ kind = .not ∨ kind = .empty := by
  simp only [Grammar.prefixOperators, List.mem_cons, Prod.mk.injEq, List.not_mem_nil,
    or_false] at listed
  rcases listed with ⟨_, same⟩ | ⟨_, same⟩ | ⟨_, same⟩
  · exact .inl same
  · exact .inr (.inl same)
  · exact .inr (.inr same)

/-! ## Outlines -/

namespace Tree

mutual

/-- An expression without its places in the text: its kinds, images and ordered children. -/
def outline : Tree → Tree
  | .node kind image _ children => .node kind image ⟨0, 0⟩ (outlineAll children)

/-- The outlines of a list of expressions. -/
def outlineAll : List Tree → List Tree
  | [] => []
  | t :: ts => outline t :: outlineAll ts

end

mutual

theorem height_outline : (t : Tree) → t.outline.height = t.height
  | .node _ _ _ children => by
    simp only [outline, height, heightAll_outlineAll children]

theorem heightAll_outlineAll : (ts : List Tree) → heightAll (outlineAll ts) = heightAll ts
  | [] => rfl
  | t :: ts => by simp only [outlineAll, heightAll, height_outline t, heightAll_outlineAll ts]

end

theorem length_outlineAll (trees : List Tree) : (outlineAll trees).length = trees.length := by
  induction trees with
  | nil => rfl
  | cons t trees ih => rw [outlineAll, List.length_cons, List.length_cons, ih]

theorem length_eq_of_outlineAll {ts us : List Tree} (same : outlineAll ts = outlineAll us) :
    ts.length = us.length := by
  rw [← length_outlineAll, same, length_outlineAll]

theorem height_eq_of_outline {t u : Tree} (same : t.outline = u.outline) : t.height = u.height := by
  rw [← height_outline, same, height_outline]

theorem heightAll_eq_of_outlineAll {ts us : List Tree} (same : outlineAll ts = outlineAll us) :
    heightAll ts = heightAll us := by
  rw [← heightAll_outlineAll, same, heightAll_outlineAll]

end Tree

/-! ## Pieces -/

/-- A piece of a printed expression. -/
inductive Piece where
  /-- A mark. -/
  | mark (m : Mark)
  /-- A name. -/
  | name (image : String)
  /-- A literal. -/
  | literal (kind : LiteralKind) (image : String)
  /-- The name of a function, with its namespace if it has one. -/
  | callee (image : String)

/-- The text of a piece. -/
def Piece.text : Piece → String
  | .mark m => m.symbol
  | .name image | .literal _ image | .callee image => image

namespace Piece

open Grammar (Level)

/-- An expression as printed for the level that its place asks for. -/
abbrev Printed := Level → List Piece

/-- Pieces between two marks. -/
def enclosed (opening close : Mark) (inside : List Piece) : List Piece :=
  .mark opening :: (inside ++ [.mark close])

/-- Operands of a level with a mark between them. -/
def separated (ℓ : Level) (mark : Mark) : List Printed → List Piece
  | [] => []
  | [operand] => operand ℓ
  | operand :: others => operand ℓ ++ .mark mark :: separated ℓ mark others

/-- Two operands with a mark between them. -/
def infixed (left : Level) (mark : Mark) (right : Level) : List Printed → List Piece
  | [first, second] => first left ++ .mark mark :: second right
  | _ => []

/-- An operand with a mark before it. -/
def prefixed (mark : Mark) : List Printed → List Piece
  | [operand] => .mark mark :: operand .unary
  | _ => []

end Piece

/-- The mark of a comparison. -/
def CompareOp.mark : CompareOp → Mark
  | .equal => .equal
  | .notEqual => .notEqual
  | .greater => .greater
  | .atLeast => .atLeast
  | .less => .less
  | .atMost => .atMost

/-- The mark of an arithmetic operation. -/
def ArithmeticOp.mark : ArithmeticOp → Mark
  | .add => .plus
  | .sub => .minus
  | .mul => .star
  | .div => .slash
  | .mod => .percent

namespace Kind

open Grammar (Level)

/-- The level at which the grammar derives expressions of a kind. -/
def level : Kind → Level
  | .assign => .assignment
  | .arrow => .lambda
  | .ternary => .ternary
  | .or => .disjunction
  | .and => .conjunction
  | .compare .equal | .compare .notEqual => .equality
  | .compare _ => .relation
  | .concatenation => .concatenation
  | .arithmetic .add | .arithmetic .sub => .sum
  | .arithmetic _ => .product
  | .not | .negate | .empty => .unary
  | .property | .index | .methodCall => .access
  | _ => .primary

/-- The pieces of a node over its printed children. -/
def pieces (kind : Kind) (image : Option String) (children : List Piece.Printed) : List Piece :=
  let listed := Piece.separated .assignment .comma children
  match kind with
  | .identifier | .member => (image.map Piece.name).toList
  | .literal kind => (image.map (Piece.literal kind)).toList
  | .function => (image.map Piece.callee).toList ++ Piece.enclosed .openParen .closeParen listed
  | .arguments => Piece.enclosed .openParen .closeParen listed
  | .list => Piece.enclosed .openBracket .closeBracket listed
  | .lambdaParameters =>
    if children.length = 1 then listed else Piece.enclosed .openParen .closeParen listed
  | .arrow => Piece.infixed .primary .arrow .lambda children
  | .assign => Piece.infixed .lambda .assign .assignment children
  | .ternary =>
    match children with
    | [first, second, third] =>
      first .disjunction ++
        .mark .question :: (second .ternary ++ .mark .colon :: third .ternary)
    | _ => []
  | .or => Piece.separated .conjunction .or children
  | .and => Piece.separated .equality .and children
  | .compare op => Piece.infixed kind.level op.mark kind.level.tighter children
  | .arithmetic op => Piece.infixed kind.level op.mark kind.level.tighter children
  | .concatenation => Piece.infixed .concatenation .plusAssign .sum children
  | .not => Piece.prefixed .not children
  | .negate => Piece.prefixed .minus children
  | .empty => Piece.prefixed .empty children
  | .property => Piece.infixed .access .dot .primary children
  | .methodCall =>
    match children with
    | [first, second, third] =>
      first .access ++ .mark .dot :: (second .primary ++ third .primary)
    | _ => []
  | .index =>
    match children with
    | [first, second] =>
      first .access ++ Piece.enclosed .openBracket .closeBracket (second .assignment)
    | _ => []

end Kind

namespace Tree

open Grammar (Level)

mutual

/-- The pieces of an expression where the grammar asks for an expression of a level. -/
def pieces : Tree → Level → List Piece
  | .node kind image _ children, ℓ =>
    let inside := kind.pieces image (piecesAll children)
    if kind.level.rank < ℓ.rank then Piece.enclosed .openParen .closeParen inside else inside

/-- The pieces of expressions. -/
def piecesAll : List Tree → List (Level → List Piece)
  | [] => []
  | t :: ts => pieces t :: piecesAll ts

end

/-- The text of an expression. -/
def print (t : Tree) : String :=
  " ".intercalate ((t.pieces .assignment).map Piece.text)

end Tree

end TargetingRules
