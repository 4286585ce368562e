import TargetingRules.Proofs.Evaluation.Representation
import TargetingRules.Proofs.Syntax.Locality
import TargetingRules.Proofs.Syntax.Quoting
import TargetingRules.Proofs.Syntax.RoundTrip
import TargetingRules.Proofs.Validation.Compiled

/-!
# Rules that are literals

A rule that consists of one literal, bare or between delimiters, states the literal and nothing else, and
has its value for all functions and variables. The value is decoded from the characters of the rule, a
second time after the lexer.
-/

namespace TargetingRules

/-- The text of a literal, bare or between delimiters, states the literal. -/
theorem Tree.parse_literal {kind : LiteralKind} {image rule : String}
    (isLiteral : IsLiteral kind image) (states : States image rule) :
    ∃ span, Tree.parse rule = .ok (.node (.literal kind) (some image) span []) := by
  have writable : Writable (.node (.literal kind) (some image) ⟨0, 0⟩ []) := .literal isLiteral
  have printed : (Tree.node (.literal kind) (some image) ⟨0, 0⟩ []).print = image := rfl
  rw [← printed] at states
  obtain ⟨ts, tokenized, spells⟩ := exists_tokens_of_states writable states
  have low : (Tree.node (.literal kind) (some image) ⟨0, 0⟩ []).height ≤ 32 := by
    simp only [height, heightAll]
    omega
  obtain ⟨t, derived, low, outline⟩ := exists_derives_of_spells writable low spells
  obtain ⟨kind', image', span, children⟩ := t
  simp only [Tree.outline, node.injEq, true_and] at outline
  obtain ⟨rfl, rfl, noChildren⟩ := outline
  obtain rfl : children = [] := by
    cases children with
    | nil => rfl
    | cons t children => cases noChildren
  exact ⟨span, parse_eq_ok_iff.mpr ⟨ts, tokenized, derived, low⟩⟩

/-- The rule has the value of the literal. -/
theorem Expression.exists_evaluate_literal {kind : LiteralKind} {image rule : String}
    (isLiteral : IsLiteral kind image) (states : States image rule) (functions : FunctionTable) :
    ∃ expression, (Expression.compile functions rule .any).value = .ok expression ∧
      ∀ resolve, expression.evaluate resolve = kind.evaluate image := by
  obtain ⟨span, parsed⟩ := Tree.parse_literal isLiteral states
  refine ⟨_, compile_eq_ok_iff.mpr ⟨_, parsed, ?_, rfl⟩, fun resolve => ?_⟩
  · intro name member
    cases member
  · rw [Expression.evaluate, SyntaxTree.evaluate_eq_unfold, SyntaxTree.unfold_ofTree,
      Tree.evaluate_node]
    change kind.evaluate image >>= .ok = _
    cases kind.evaluate image <;> rfl

/-- Every text has a literal between quotes of either kind: the literal is one token that says the text,
it is decoded to the text, and as a rule, bare or between delimiters, it has the text as its value, for
all functions and variables. -/
theorem evaluate_quoted {quote : Char} (isQuote : Text.isQuote quote = true) (s : String) :
    Lexer.tokenize (Text.quoted quote s) = .ok [⟨.str s,
        ⟨0, Text.byteLength (Text.quoted quote s).toList⟩, Text.quoted quote s⟩] ∧
      Text.unquote? (Text.quoted quote s).toList = some s.toList ∧
      ∀ rule, States (Text.quoted quote s) rule → ∀ functions, ∃ expression,
        (Expression.compile functions rule .any).value = .ok expression ∧
          ∀ resolve, expression.evaluate resolve = .ok (.string s) := by
  have lexes := Lexer.lexes_quoted isQuote s
  have decoded := Text.unquote?_quoted isQuote s
  refine ⟨?_, decoded, fun rule states functions => ?_⟩
  · rw [Lexer.tokenize_eq]
    exact lexes
  · obtain ⟨expression, compiled, evaluates⟩ :=
      Expression.exists_evaluate_literal ⟨.str s, lexes, rfl⟩ states functions
    refine ⟨expression, compiled, fun resolve => ?_⟩
    have value : Value.ofChars s.toList = .string s := by rw [Value.ofChars, String.ofList_toList]
    simp only [evaluates, LiteralKind.evaluate, decoded, value]

/-- A quote and a backslash at the end, between delimiters. -/
theorem evaluate_quoted_backslash :
    Text.quoted '\x27' "a'\\" = "'a\\'\\\\'" ∧
      Lexer.tokenize "'a\\'\\\\'" = .ok [⟨.str "a'\\", ⟨0, 7⟩, "'a\\'\\\\'"⟩] ∧
      ∃ expression, (Expression.compile FunctionTable.standard "$\x7b 'a\\'\\\\' \x7d" .any).value =
          .ok expression ∧
        expression.evaluate (fun _ => none) = .ok (.string "a'\\") := by
  have literal : Text.quoted '\x27' "a'\\" = "'a\\'\\\\'" := by decide +kernel
  have isQuote : Text.isQuote '\x27' = true := rfl
  obtain ⟨token, _, evaluates⟩ := evaluate_quoted isQuote "a'\\"
  rw [literal] at token evaluates
  have blank : isBlankText " " = true := rfl
  obtain ⟨expression, compiled, value⟩ :=
    evaluates _ (.delimited blank blank) FunctionTable.standard
  exact ⟨literal, token, expression, compiled, value _⟩

end TargetingRules
