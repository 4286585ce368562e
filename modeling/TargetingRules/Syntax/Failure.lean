import TargetingRules.Syntax.Token

/-!
# Failures of reading a rule

Why a rule cannot be read as an expression, with the messages that say so.
-/

namespace TargetingRules

/-- Faults in the bookkeeping of a syntax tree, which no rule text can cause. -/
inductive TreeError where
  /-- A node number that no node has. -/
  | danglingNode (id : Nat)
  /-- A tree without nodes. -/
  | missingRoot
  deriving DecidableEq, Repr

/-- How messages show a node number. -/
def nodeLabel (id : Nat) : String :=
  "#" ++ toString id

/-- The message of a bookkeeping fault. -/
def TreeError.message : TreeError → String
  | .danglingNode id => "Node " ++ nodeLabel id ++ " is not part of the syntax tree"
  | .missingRoot => "Syntax tree has no root node"

/-- What the grammar could have gone on with. -/
inductive Expectation where
  /-- The start of an expression. -/
  | expression
  /-- The name of a property. -/
  | propertyName
  /-- The name of a parameter. -/
  | parameter
  /-- A certain mark. -/
  | mark (m : Mark)
  deriving DecidableEq, Repr

/-- The text of an expectation. -/
def Expectation.text : Expectation → String
  | .expression => "expression"
  | .propertyName => "property name"
  | .parameter => "parameter"
  | .mark m => "'" ++ m.symbol ++ "'"

/-- Why a text is not an expression. -/
inductive ParseError where
  /-- There are no tokens. -/
  | empty
  /-- A character that starts no token. -/
  | unexpectedChar (c : Char) (pos : Nat)
  /-- A string literal without its closing quote. -/
  | unterminatedString (pos : Nat)
  /-- A number token that spells no number. -/
  | invalidNumber (text : String) (pos : Nat)
  /-- A token that the grammar does not allow at its place. -/
  | unexpectedToken (found : TokenKind) (expected : Expectation) (pos : Nat)
  /-- The tokens end too early. -/
  | unexpectedEnd (expected : Expectation)
  /-- A token after a complete expression. -/
  | trailingInput (found : TokenKind) (pos : Nat)
  /-- Too much nesting. -/
  | tooDeep (pos : Nat)
  /-- A bookkeeping fault. -/
  | tree (fault : TreeError)
  deriving DecidableEq

/-- The message of a parse error. -/
def ParseError.message : ParseError → String
  | .empty => "Empty expression"
  | .unexpectedChar c pos =>
    "Unexpected character '" ++ String.singleton c ++ "' at " ++ toString pos
  | .unterminatedString pos => "Unterminated string literal starting at " ++ toString pos
  | .invalidNumber text pos => "Invalid number literal '" ++ text ++ "' at " ++ toString pos
  | .unexpectedToken found expected pos =>
    "Unexpected '" ++ found.describe ++ "' at " ++ toString pos ++ ", expected " ++ expected.text
  | .unexpectedEnd expected => "Unexpected end of expression, expected " ++ expected.text
  | .trailingInput found pos =>
    "Unexpected trailing input '" ++ found.describe ++ "' at " ++ toString pos
  | .tooDeep pos => "Expression nested too deeply at " ++ toString pos
  | .tree fault => "Syntax tree error: " ++ fault.message

end TargetingRules
