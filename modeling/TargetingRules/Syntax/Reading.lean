import TargetingRules.Syntax.Body
import TargetingRules.Syntax.Grammar
import TargetingRules.Syntax.Lexer
import TargetingRules.Syntax.Numbering

/-!
# Reading rules

From the text of a rule to its syntax tree: the body is cut out, split into tokens and read as one
expression, whose nodes are then numbered. Places refer to the whole text.
-/

namespace TargetingRules

/-- The tokens of the body of a rule. -/
def Body.tokens (body : Body) : Except ParseError (List Token) :=
  Lexer.tokens body.start body.chars

/-- The expression that a rule states. -/
def Tree.parse (rule : String) : Except ParseError Tree := do
  let tokens ← (Body.of rule.toList).tokens
  Grammar.expression (Text.byteLength rule.toList) tokens

/-- The syntax tree of a rule. -/
def SyntaxTree.parse (rule : String) : Except ParseError SyntaxTree :=
  (Tree.parse rule).map SyntaxTree.ofTree

end TargetingRules
