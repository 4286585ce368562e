import TargetingRules.Evaluation.Evaluator
import TargetingRules.Proofs.Syntax.Extents
import TargetingRules.Proofs.Syntax.Numerals

/-!
# Literals are decoded alike twice

The lexer decodes a literal when it reads the token, and the grammar keeps no more of it than its kind,
its characters and its place. The evaluator decodes the characters again. It comes to the same value: the
node has the characters of one token, the one at its place, and each way of decoding undoes the same
spelling. No literal that the lexer has read is refused later.
-/

namespace TargetingRules

open Grammar (literal?)

/-- The value that a token carries, if it is a literal. -/
def TokenKind.value? : TokenKind → Option Value
  | .number x => some (.number x)
  | .str s => some (.string s)
  | .bool b => some (.bool b)
  | .null => some .null
  | .ident _ | .mark _ => none

namespace Lexer

theorem wordKind_eq_bool {word : String} {b : Bool} (isBool : wordKind word = .bool b) :
    word = if b then "true" else "false" := by
  have spelled : ∀ entry ∈ keywords, ∀ b, entry.2 = .bool b → entry.1 = if b then "true" else "false" := by
    simp [keywords]
  cases found : keywords.lookup word with
  | none =>
    rw [wordKind, found] at isBool
    cases isBool
  | some kind =>
    rw [wordKind, found] at isBool
    obtain ⟨before, after, split, _⟩ := List.lookup_eq_some_iff.mp found
    have member : (word, kind) ∈ keywords := by simp [split]
    exact spelled _ member b isBool

/-- A truth value is written as its keyword. -/
theorem Lexes.eq_of_bool {text : String} {b : Bool} (lexes : Lexes text (.bool b)) :
    text = if b then "true" else "false" := by
  obtain ⟨c, cs, chars, _, isLexeme⟩ := lexes.isLexeme
  generalize isBool : TokenKind.bool b = kind at isLexeme
  generalize whole : cs.length = length at isLexeme
  cases isLexeme with
  | number => cases isBool
  | string => cases isBool
  | word =>
    rw [← whole, List.take_length, ← chars, String.ofList_toList] at isBool
    exact wordKind_eq_bool isBool.symm
  | symbol => cases isBool

/-- Tokens that stand at one place are one. -/
theorem Ordered.eq_of_span_eq {pos : Nat} {ts : List Token} (ordered : Ordered pos ts) {first second : Token}
    (member : first ∈ ts) (member' : second ∈ ts) (same : first.span = second.span) : first = second := by
  induction ts generalizing pos with
  | nil => cases member
  | cons token ts ih =>
    obtain ⟨_, nonempty, others⟩ := ordered
    rcases List.mem_cons.mp member with rfl | inside <;> rcases List.mem_cons.mp member' with rfl | inside'
    · rfl
    · have later := others.start_ge second inside'
      rw [← same] at later
      omega
    · have later := others.start_ge first inside
      rw [same] at later
      omega
    · exact ih others inside inside'

end Lexer

/-- Decoding the characters of a literal token gives the value that the token carries. -/
theorem LiteralKind.evaluate_token {token : Token} {kind : LiteralKind}
    (lexes : Lexer.Lexes token.text token.kind) (decodes : Lexer.Decodes token)
    (isLiteral : literal? token.kind = some kind) :
    ∃ v, token.kind.value? = some v ∧ kind.evaluate token.text = .ok v := by
  cases known : token.kind <;> rw [known] at isLiteral <;> cases isLiteral
  case number x =>
    refine ⟨.number x, rfl, ?_⟩
    simp only [LiteralKind.evaluate, decodes.number x known]
  case str s =>
    refine ⟨.string s, rfl, ?_⟩
    simp only [LiteralKind.evaluate, decodes.string s known, Value.ofChars, String.ofList_toList]
  case bool b =>
    rw [known] at lexes
    refine ⟨.bool b, rfl, ?_⟩
    rw [LiteralKind.evaluate, lexes.eq_of_bool]
    cases b <;> rfl
  case null => exact ⟨.null, rfl, rfl⟩

namespace SyntaxTree

/-- The value of a literal node depends on its characters alone. -/
theorem operand_value_of_literal {tree : SyntaxTree} {id : Nat} (bound : id < tree.nodes.size)
    {kind : LiteralKind} {image : String} (isLiteral : tree.nodes[id].kind = .literal kind)
    (named : tree.nodes[id].image = some image) (env : Environment) :
    (tree.operand env id bound).value () = kind.evaluate image := by
  rw [operand]
  simp only [isLiteral, named]
  rfl

/-- A literal node of a rule is the token at its place and has the value that this token carries. -/
structure DecodesToken (tree : SyntaxTree) (tokens : List Token) (id : Nat)
    (bound : id < tree.nodes.size) (kind : LiteralKind) (token : Token) : Prop where
  /-- The token is at the place of the node. -/
  here : token ∈ tokens ∧ token.span = tree.nodes[id].span
  /-- No other token is. -/
  only : ∀ other ∈ tokens, other.span = tree.nodes[id].span → other = token
  /-- The node has the kind of the token, its characters, its place, and no children. -/
  node : literal? token.kind = some kind ∧
    tree.nodes[id] = ⟨.literal kind, some token.text, token.span, []⟩
  /-- The value of the node is that of the token. -/
  value : ∃ v, token.kind.value? = some v ∧ ∀ env, (tree.operand env id bound).value () = .ok v

/-- No range of a text has a number token that is refused, and in every rule each literal has the value
that its token carries. -/
theorem decodesLiterals :
    (∀ text start stop image pos,
      Lexer.tokensBetween text start stop ≠ .error (.invalidNumber image pos)) ∧
    ∀ rule tree, SyntaxTree.parse rule = .ok tree → ∃ tokens,
      (Body.of rule.toList).tokens = .ok tokens ∧ ∀ id bound kind,
        tree.nodes[id].kind = .literal kind → ∃ token, tree.DecodesToken tokens id bound kind token := by
  refine ⟨Lexer.tokensBetween_ne_invalidNumber, fun rule tree success => ?_⟩
  obtain ⟨t, parsed, rfl⟩ := parse_eq_ok_iff.mp success
  obtain ⟨tokens, split, derived, _⟩ := Tree.parse_eq_ok_iff.mp parsed
  have splits := Lexer.splits_of_tokens split
  refine ⟨tokens, split, fun id bound kind isLiteral => ?_⟩
  have fits := fits_of_derives split derived
  have isAtom : ((ofTree t).nodes[id]).kind.isAtom = true := by rw [isLiteral]; rfl
  obtain ⟨token, among, ofToken, same⟩ :=
    exists_token_of_isAtom fits (Array.getElem_mem bound) isAtom
  rw [isLiteral] at ofToken same
  obtain ⟨same'⟩ := ofToken
  obtain ⟨v, carried, evaluated⟩ :=
    LiteralKind.evaluate_token (splits.lexes token among) (splits.decodes token among) same'
  refine ⟨token, ?here, ?only, ⟨same', same⟩, v, carried, fun env => ?value⟩
  case here => exact ⟨among, by rw [same]⟩
  case only =>
    intro other member there
    rw [same] at there
    exact splits.ordered.eq_of_span_eq member among there
  case value =>
    rw [operand_value_of_literal bound isLiteral (by rw [same]) env]
    exact evaluated

/-- The expression `['é', true]` without blanks. -/
def literals : Tree :=
  .node .list none ⟨0, 11⟩ [.node (.literal .string) (some "'é'") ⟨1, 5⟩ [],
    .node (.literal .boolean) (some "true") ⟨6, 10⟩ []]

/-- A text of one character that has two bytes, and a truth value. -/
theorem decodesLiterals_list :
    SyntaxTree.parse "['é',true]" = .ok (ofTree literals) ∧
      (∀ env, ((ofTree literals).operand env 0 (by decide)).value () = .ok (.string "é")) ∧
      ∀ env, ((ofTree literals).operand env 1 (by decide)).value () = .ok (.bool true) := by
  have tokens : (Body.of "['é',true]".toList).tokens = .ok [
      ⟨.mark .openBracket, ⟨0, 1⟩, "["⟩, ⟨.str "é", ⟨1, 5⟩, "'é'"⟩, ⟨.mark .comma, ⟨5, 6⟩, ","⟩,
      ⟨.bool true, ⟨6, 10⟩, "true"⟩, ⟨.mark .closeBracket, ⟨10, 11⟩, "]"⟩] :=
    Lexer.tokens_of_split? (n := 20) rfl
  have parsed : SyntaxTree.parse "['é',true]" = .ok (ofTree literals) :=
    parse_of_run (.fail .empty) tokens rfl rfl rfl rfl
  obtain ⟨tokens', split, decodes⟩ := decodesLiterals.2 _ _ parsed
  rw [tokens] at split
  cases split
  obtain ⟨first, text⟩ := decodes 0 (by decide) .string rfl
  obtain ⟨second, truth⟩ := decodes 1 (by decide) .boolean rfl
  obtain rfl := text.only ⟨.str "é", ⟨1, 5⟩, "'é'"⟩ (by simp) rfl
  obtain rfl := truth.only ⟨.bool true, ⟨6, 10⟩, "true"⟩ (by simp) rfl
  obtain ⟨_, ⟨⟩, values⟩ := text.value
  obtain ⟨_, ⟨⟩, values'⟩ := truth.value
  exact ⟨parsed, values, values'⟩

end SyntaxTree

end TargetingRules
