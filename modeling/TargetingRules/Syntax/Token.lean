import TargetingRules.Number.Text
import TargetingRules.Syntax.Span

/-!
# Tokens

The tokens of rules. Keyword operators such as `and`, `eq` and `div` are the same marks as their
symbols, so that everything after the lexer sees one spelling.
-/

namespace TargetingRules

/-- Operators and punctuation. -/
inductive Mark where
  | empty | not | and | or
  | equal | notEqual | less | greater | atMost | atLeast
  | plus | minus | star | slash | percent
  | plusAssign | assign | arrow | question | colon | comma | dot
  | openParen | closeParen | openBracket | closeBracket
  deriving DecidableEq, Repr

/-- The symbol of a mark. -/
def Mark.symbol : Mark → String
  | .empty => "empty"
  | .not => "!"
  | .and => "&&"
  | .or => "||"
  | .equal => "=="
  | .notEqual => "!="
  | .less => "<"
  | .greater => ">"
  | .atMost => "<="
  | .atLeast => ">="
  | .plus => "+"
  | .minus => "-"
  | .star => "*"
  | .slash => "/"
  | .percent => "%"
  | .plusAssign => "+="
  | .assign => "="
  | .arrow => "->"
  | .question => "?"
  | .colon => ":"
  | .comma => ","
  | .dot => "."
  | .openParen => "("
  | .closeParen => ")"
  | .openBracket => "["
  | .closeBracket => "]"

/-- What a token says. -/
inductive TokenKind where
  /-- A name. -/
  | ident (name : String)
  /-- A number. -/
  | number (x : Float)
  /-- A text, without its quotes and escapes. -/
  | str (s : String)
  /-- A truth value. -/
  | bool (b : Bool)
  /-- The absence of a value. -/
  | null
  /-- An operator or punctuation. -/
  | mark (m : Mark)
  deriving DecidableEq

/-- The text by which error messages name a token. -/
def TokenKind.describe : TokenKind → String
  | .ident name => name
  | .number x => Number.text x
  | .str s => "'" ++ s ++ "'"
  | .bool b => if b then "true" else "false"
  | .null => "null"
  | .mark m => m.symbol

/-- A token with its place and its source text. -/
structure Token where
  /-- What the token says. -/
  kind : TokenKind
  /-- Where it stands. -/
  span : Span
  /-- The characters it was read from. -/
  text : String
  deriving DecidableEq

end TargetingRules
