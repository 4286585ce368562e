import TargetingRules.Proofs.Syntax.Completeness
import TargetingRules.Proofs.Syntax.Unfolding
import TargetingRules.Syntax.Reading

/-!
# Which rules are expressions

Reading the text of a rule succeeds just where the grammar derives an expression from the tokens of
its body, within the limits on nesting and height, and the syntax tree is then the numbering of that
expression. Spans are part of an expression here, so a rule has one expression at most.
-/

namespace TargetingRules

theorem Tree.parse_eq_ok_iff {rule : String} {t : Tree} :
    Tree.parse rule = .ok t ↔ ∃ tokens, (Body.of rule.toList).tokens = .ok tokens ∧
      Grammar.Derives Grammar.maxDepth .assignment tokens t [] ∧ t.height ≤ Grammar.maxDepth := by
  simp only [Tree.parse, Grammar.bind_eq_ok_iff, Grammar.expression_eq_ok_iff]

theorem SyntaxTree.parse_eq_ok_iff {rule : String} {tree : SyntaxTree} :
    SyntaxTree.parse rule = .ok tree ↔ ∃ t, Tree.parse rule = .ok t ∧ tree = .ofTree t := by
  rw [SyntaxTree.parse]
  cases Tree.parse rule with
  | error e => simp [Except.map]
  | ok t => simp [Except.map, eq_comm]

/-- A rule is read as a syntax tree just if its body consists of tokens from which the grammar
derives the expression that the tree stands for, with at most `maxDepth` levels of nesting and a
height of at most `maxDepth`; the nodes are those of that expression, numbered in post-order. -/
theorem SyntaxTree.parse_eq_ok_iff_derives (rule : String) (tree : SyntaxTree) :
    SyntaxTree.parse rule = .ok tree ↔ ∃ tokens, (Body.of rule.toList).tokens = .ok tokens ∧
      Grammar.Derives Grammar.maxDepth .assignment tokens tree.unfold [] ∧
      tree.unfold.height ≤ Grammar.maxDepth ∧ tree = .ofTree tree.unfold := by
  rw [SyntaxTree.parse_eq_ok_iff]
  constructor
  · rintro ⟨t, success, rfl⟩
    obtain ⟨tokens, split, derived, low⟩ := Tree.parse_eq_ok_iff.mp success
    rw [SyntaxTree.unfold_ofTree]
    exact ⟨tokens, split, derived, low, rfl⟩
  · rintro ⟨tokens, split, derived, low, numbered⟩
    exact ⟨tree.unfold, Tree.parse_eq_ok_iff.mpr ⟨tokens, split, derived, low⟩, numbered⟩

end TargetingRules
