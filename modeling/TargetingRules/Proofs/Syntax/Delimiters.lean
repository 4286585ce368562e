import TargetingRules.Proofs.Syntax.InStep
import TargetingRules.Proofs.Syntax.Joining

/-!
# Delimiters

What stands between the delimiters of a rule is its body, to the character. The body is read as it is
read on its own, only further on: the tokens of both texts are the same but for their places, although
the one text is longer at its end, and its own blanks at both ends count for nothing.
-/

namespace TargetingRules

open Grammar

/-- A text between delimiters, with the given texts around these. -/
def delimited (lead opener inner trail : String) : String :=
  lead ++ opener ++ inner ++ "\x7d" ++ trail

/-! ## Bodies -/

/-- The body of a text without delimiters has the tokens of the text. -/
theorem Body.tokens_of_bare {cs : List Char} (bare : Body.unwrap? (Text.trim cs) = none) :
    (Body.of cs).tokens = Lexer.tokens 0 cs := by
  obtain ⟨back, whole, blankBack⟩ := Text.trim_eq cs
  have blankLead : ∀ c ∈ cs.takeWhile Text.isBlank, Text.isBlank c = true :=
    List.all_eq_true.mp List.all_takeWhile
  calc
    (Body.of cs).tokens =
        Lexer.tokens (Text.byteLength (cs.takeWhile Text.isBlank)) (Text.trim cs) := by
      simp only [Body.tokens, Body.of, bare]
    _ = Lexer.tokens 0 (cs.takeWhile Text.isBlank ++ (Text.trim cs ++ back)) := by
      rw [Lexer.tokens_skip blankLead, Lexer.tokens_append_blanks blankBack, Nat.zero_add]
    _ = Lexer.tokens 0 cs := by rw [← List.append_assoc, ← whole]

section Delimited

variable {lead opener trail : String} (blankLead : isBlankText lead = true)
  (blankTrail : isBlankText trail = true) (isOpener : opener = "$\x7b" ∨ opener = "#\x7b")

include blankLead blankTrail isOpener

theorem Body.of_delimited (inner : String) :
    Body.of (delimited lead opener inner trail).toList =
      ⟨Text.byteLength lead.toList + 2, inner.toList⟩ := by
  obtain ⟨mark, isMark, chars⟩ : ∃ mark, (mark = '$' ∨ mark = '#') ∧ opener.toList = [mark, '\x7b'] := by
    rcases isOpener with rfl | rfl
    · exact ⟨'$', .inl rfl, rfl⟩
    · exact ⟨'#', .inr rfl, rfl⟩
  have split : (delimited lead opener inner trail).toList =
      lead.toList ++ (mark :: '\x7b' :: (inner.toList ++ ['\x7d'])) ++ trail.toList := by
    have close : "\x7d".toList = ['\x7d'] := rfl
    simp only [delimited, String.toList_append, chars, close, List.append_assoc, List.cons_append,
      List.nil_append]
  rw [split]
  exact Piece.body_of_delimited isMark (List.all_eq_true.mp blankLead) (List.all_eq_true.mp blankTrail) _

/-- Between delimiters a text has the tokens that it has on its own, or the same error, further on. -/
theorem Body.tokens_of_delimited {inner : String}
    (bare : Body.unwrap? (Text.trim inner.toList) = none) :
    (Body.of (delimited lead opener inner trail).toList).tokens =
      Lexer.shifted (Text.byteLength lead.toList + 2) (Body.of inner.toList).tokens := by
  rw [Body.of_delimited blankLead blankTrail isOpener, Body.tokens, Body.tokens_of_bare bare,
    ← Lexer.tokens_shift, Nat.zero_add]

end Delimited

/-! ## Places -/

theorem Span.compatible_shift (k : Nat) : Compatible (shift k) id := by
  constructor
  case join =>
    rintro s t _ _ rfl rfl
    simp only [shift, join, id_eq, mk.injEq]
    omega
  case upTo =>
    rintro s t _ _ rfl rfl
    rfl

theorem ParseError.unplaced_shift (k : Nat) (e : ParseError) : (e.shift k).unplaced = e.unplaced := by
  cases e <;> rfl

theorem corresponds_shift (k : Nat) (ts : List Token) :
    Corresponds (Span.shift k) id ts (ts.map (Token.shift k)) := by
  induction ts with
  | nil => exact .nil
  | cons token ts ih =>
    have fenced : Fenced [] := fun _ member => by cases member
    have qualified := opensQualified_shift_iff fenced k token ts
    rw [List.append_nil] at qualified
    exact .cons ⟨rfl, fun _ => rfl, rfl⟩ (fun _ => qualified) ih

namespace SyntaxTree

theorem relocate_id (tree : SyntaxTree) : tree.relocate id = tree := by
  have same : Node.relocate id = id := rfl
  simp only [relocate, same, Array.map_id]

/-- What stands between delimiters is the body of the rule, whatever blanks stand around these. If it has
no delimiters of its own, the rule and its body on its own are both refused, with one error but for its
place, or they are both read, and the syntax trees differ in places alone: those in the rule are further
on by the blanks before the delimiters and by the two bytes of the first delimiter. -/
theorem parse_delimited {lead opener trail : String} (blankLead : isBlankText lead = true)
    (blankTrail : isBlankText trail = true) (isOpener : opener = "$\x7b" ∨ opener = "#\x7b")
    (inner : String) :
    stripDelimiters (delimited lead opener inner trail) = inner ∧
      (Body.unwrap? (Text.trim inner.toList) = none →
        InStep (fun tree tree' => tree' = tree.relocate (Span.shift (Text.byteLength lead.toList + 2)))
          (SyntaxTree.parse inner) (SyntaxTree.parse (delimited lead opener inner trail))) := by
  constructor
  · rw [stripDelimiters, Body.of_delimited blankLead blankTrail isOpener, String.ofList_toList]
  · intro bare
    have moved := Body.tokens_of_delimited blankLead blankTrail isOpener bare
    generalize Text.byteLength lead.toList + 2 = k at moved ⊢
    cases tokenized : (Body.of inner.toList).tokens with
    | error e =>
      rw [tokenized] at moved
      simp only [SyntaxTree.parse, Tree.parse, tokenized, moved]
      exact .error (e.unplaced_shift k).symm
    | ok ts =>
      rw [tokenized] at moved
      refine (parse_inStep (Span.compatible_shift k) tokenized moved (corresponds_shift k ts)).mono ?_
      intro tree tree' same
      rw [same, relocate_id]

/-- A name with blanks around it, between delimiters after a no-break space, which has two bytes. -/
theorem parse_delimited_name :
    stripDelimiters (delimited "\u00a0" "#\x7b" " a " "") = " a " ∧
      SyntaxTree.parse " a " = .ok (ofTree (.node .identifier (some "a") ⟨1, 2⟩ [])) ∧
      SyntaxTree.parse (delimited "\u00a0" "#\x7b" " a " "") =
        .ok (ofTree (.node .identifier (some "a") ⟨5, 6⟩ [])) := by
  have tokenized : (Body.of " a ".toList).tokens = .ok [⟨.ident "a", ⟨1, 2⟩, "a"⟩] :=
    Lexer.tokens_of_split? (n := 3) rfl
  have parsed : SyntaxTree.parse " a " = .ok (ofTree (.node .identifier (some "a") ⟨1, 2⟩ [])) :=
    parse_of_run (.fail .empty) tokenized rfl rfl rfl rfl
  have blank : isBlankText "\u00a0" = true := rfl
  have noBlank : isBlankText "" = true := rfl
  obtain ⟨body, step⟩ := parse_delimited blank noBlank (.inr rfl) " a "
  have step := step (by decide)
  rw [parsed] at step
  obtain ⟨tree, read, rfl⟩ := step.exists_ok
  refine ⟨body, parsed, ?_⟩
  rw [read, relocate_ofTree]
  rfl

end SyntaxTree

end TargetingRules
