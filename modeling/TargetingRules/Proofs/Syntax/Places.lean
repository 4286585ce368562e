import TargetingRules.Proofs.Syntax.Lexing
import TargetingRules.Proofs.Syntax.Parsing
import TargetingRules.Proofs.Syntax.Shape

/-!
# Where expressions stand

A place is counted in bytes from the start of the whole rule. At the place of each atom of an
expression the rule has the text of the atom, and the atoms stand from left to right in pre-order.
-/

namespace TargetingRules

/-- An atom stands at its place in a text that starts at a position. -/
def Atom.StandsIn (atom : Atom) (pos : Nat) (cs : List Char) : Prop :=
  ∃ image before after, atom.image = some image ∧ cs = before ++ image.toList ++ after ∧
    atom.span.start = pos + Text.byteLength before ∧
    atom.span.stop = atom.span.start + Text.byteLength image.toList

theorem Atom.StandsIn.widen {atom : Atom} {pos : Nat} {cs : List Char} {front : List Char}
    (stands : atom.StandsIn (pos + Text.byteLength front) cs) (back : List Char) :
    atom.StandsIn pos (front ++ cs ++ back) := by
  obtain ⟨image, before, after, named, rfl, starts, stops⟩ := stands
  refine ⟨image, front ++ before, after ++ back, named, ?_, ?_, stops⟩
  · simp only [List.append_assoc]
  · rw [starts, Text.byteLength_append, Nat.add_assoc]

/-- An atom to the left of another one. -/
def Atom.Before (first second : Atom) : Prop :=
  first.span.start < second.span.start

/-! ## Tokens -/

namespace Lexer

theorem Splits.standsIn {pos : Nat} {cs : List Char} {ts : List Token} (splits : Splits pos cs ts) :
    ∀ token ∈ ts, token.atom.StandsIn pos cs := by
  induction splits with
  | nil => simp
  | @blank pos c cs ts blank rest ih =>
    intro token member
    have stands := ih token member
    have lead : c.utf8Size = Text.byteLength [c] := by simp
    rw [lead] at stands
    simpa using stands.widen []
  | @lexeme pos c cs kind length stop ts visible isLexeme isStop rest ih =>
    have cut : c :: cs = (c :: cs.take length) ++ cs.drop length := by
      rw [List.cons_append, List.take_append_drop]
    simp only [List.forall_mem_cons]
    constructor
    · refine ⟨String.ofList (c :: cs.take length), [], cs.drop length, rfl, ?_, rfl, ?_⟩
      · rw [String.toList_ofList, List.nil_append, ← cut]
      · rw [String.toList_ofList]
        exact isStop
    · intro token member
      have stands := ih token member
      rw [isStop] at stands
      rw [cut]
      simpa using stands.widen []

theorem Ordered.start_ge {pos : Nat} {ts : List Token} (ordered : Ordered pos ts) :
    ∀ token ∈ ts, pos ≤ token.span.start := by
  induction ts generalizing pos with
  | nil => simp
  | cons first ts ih =>
    obtain ⟨starts, nonempty, others⟩ := ordered
    simp only [List.forall_mem_cons]
    refine ⟨starts, fun token member => ?_⟩
    have := ih others token member
    omega

theorem Ordered.pairwise {pos : Nat} {ts : List Token} (ordered : Ordered pos ts) :
    (ts.map Token.atom).Pairwise Atom.Before := by
  induction ts generalizing pos with
  | nil => exact .nil
  | cons first ts ih =>
    obtain ⟨_, nonempty, others⟩ := ordered
    rw [List.map_cons, List.pairwise_cons]
    refine ⟨fun atom member => ?_, ih others⟩
    obtain ⟨token, inside, rfl⟩ := List.mem_map.mp member
    have later := others.start_ge token inside
    exact Nat.lt_of_lt_of_le nonempty later

end Lexer

/-! ## Bodies -/

theorem Text.trim_eq (cs : List Char) :
    ∃ back, cs = cs.takeWhile Text.isBlank ++ Text.trim cs ++ back ∧
      ∀ c ∈ back, Text.isBlank c = true := by
  have parts := List.takeWhile_append_dropWhile (p := isBlank) (l := (trimStart cs).reverse)
  have whole := congrArg List.reverse parts
  rw [List.reverse_append, List.reverse_reverse] at whole
  refine ⟨((trimStart cs).reverse.takeWhile isBlank).reverse, ?_, fun c member => ?_⟩
  · rw [List.append_assoc, trim, trimEnd, whole, trimStart, List.takeWhile_append_dropWhile]
  · exact List.all_eq_true.mp List.all_takeWhile c (List.mem_reverse.mp member)

theorem Body.unwrap?_eq_some {cs inside : List Char} (unwrapped : Body.unwrap? cs = some inside) :
    ∃ opener, Text.byteLength opener = 2 ∧ cs = opener ++ inside ++ ['\x7d'] := by
  unfold Body.unwrap? at unwrapped
  split at unwrapped
  next opener closed =>
    split at unwrapped
    next fits =>
      cases unwrapped
      obtain ⟨isOpener, last⟩ := fits
      obtain ⟨inner, rfl⟩ := List.getLast?_eq_some_iff.mp last
      refine ⟨[opener, '\x7b'], ?_, ?_⟩
      · rcases isOpener with rfl | rfl <;> decide
      · simp
    next => cases unwrapped
  next => cases unwrapped

/-- The body of a text stands where it says. -/
theorem Body.of_eq (cs : List Char) :
    ∃ front back, cs = front ++ (Body.of cs).chars ++ back ∧
      (Body.of cs).start = Text.byteLength front := by
  obtain ⟨back, split, _⟩ := Text.trim_eq cs
  unfold Body.of
  dsimp only
  split
  next inside unwrapped =>
    obtain ⟨opener, twoBytes, wrapped⟩ := Body.unwrap?_eq_some unwrapped
    refine ⟨cs.takeWhile Text.isBlank ++ opener, '\x7d' :: back, ?_, ?_⟩
    · rw [wrapped] at split
      simpa using split
    · rw [Text.byteLength_append, twoBytes]
  next => exact ⟨_, back, split, rfl⟩

/-- What stands in the body stands in the whole text. -/
theorem Atom.StandsIn.whole {atom : Atom} {cs : List Char}
    (stands : atom.StandsIn (Body.of cs).start (Body.of cs).chars) : atom.StandsIn 0 cs := by
  obtain ⟨front, back, split, start⟩ := Body.of_eq cs
  rw [start, ← Nat.zero_add (Text.byteLength front)] at stands
  rw [split]
  exact stands.widen back

/-! ## Expressions -/

namespace Tree

theorem atoms_sublist_of_parse {rule : String} {t : Tree} (parsed : Tree.parse rule = .ok t) :
    ∃ tokens, Lexer.Splits (Body.of rule.toList).start (Body.of rule.toList).chars tokens ∧
      t.atoms.Sublist (tokens.map Token.atom) := by
  obtain ⟨tokens, split, derived, low⟩ := parse_eq_ok_iff.mp parsed
  obtain ⟨front, rfl, sub⟩ := derived.consumes
  rw [List.append_nil] at split
  exact ⟨front, Lexer.splits_of_tokens split, sub⟩

/-- The rule has the text of each atom at the place of the atom. -/
theorem standsIn_of_parse {rule : String} {t : Tree} (parsed : Tree.parse rule = .ok t) :
    ∀ atom ∈ t.atoms, atom.StandsIn 0 rule.toList := by
  intro atom member
  obtain ⟨tokens, splits, sub⟩ := atoms_sublist_of_parse parsed
  obtain ⟨token, inside, rfl⟩ := List.mem_map.mp (sub.subset member)
  exact (splits.standsIn token inside).whole

/-- The atoms of an expression stand from left to right. -/
theorem pairwise_atoms_of_parse {rule : String} {t : Tree} (parsed : Tree.parse rule = .ok t) :
    t.atoms.Pairwise Atom.Before := by
  obtain ⟨tokens, splits, sub⟩ := atoms_sublist_of_parse parsed
  exact splits.ordered.pairwise.sublist sub

end Tree

end TargetingRules
