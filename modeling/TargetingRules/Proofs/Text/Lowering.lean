import Mathlib.Data.List.Basic
import TargetingRules.Proofs.Text.Occurrence
import TargetingRules.Text.Casing

/-!
# Lower-case forms of parts of texts

The lower-case form of a text is put together from the forms of its characters, and only a capital sigma
looks at its neighbours: behind a letter it is final unless another one follows. So the form of a part is
found in that of the text, with one exception. The text may have a letter next to the part that decides what
the neighbours of a sigma in the part do not, and then the part alone has the sigma that the text has not.
-/

namespace TargetingRules.Text

variable {before cs after xs ys : List Char}

/-! ## Neighbours of a sigma -/

theorem meetsCased_cons (c : Char) (cs : List Char) :
    meetsCased (c :: cs) = if isCaseIgnorable c then meetsCased cs else isCased c := by
  rw [meetsCased, List.dropWhile_cons]
  split <;> rfl

theorem meetsCased_append (xs ys : List Char) :
    meetsCased (xs ++ ys) = if xs.all isCaseIgnorable then meetsCased ys else meetsCased xs := by
  induction xs with
  | nil => rfl
  | cons c cs ih =>
    rw [List.cons_append, meetsCased_cons, meetsCased_cons, ih, List.all_cons]
    cases isCaseIgnorable c <;> rfl

theorem meetsCased_eq_false (ignorable : xs.all isCaseIgnorable) : meetsCased xs = false := by
  have whole := meetsCased_append xs []
  rwa [List.append_nil, if_pos ignorable] at whole

/-- More text around a sigma changes its form in two ways: a letter before it can make it final, and a letter
after it can make it stop being so. -/
theorem lowerSigma_append_ne_iff {p q : List Char} :
    lowerSigma (xs ++ p) (ys ++ q) ≠ lowerSigma xs ys ↔
      (xs.all isCaseIgnorable ∧ meetsCased p ∧ ¬ meetsCased (ys ++ q)) ∨
      (ys.all isCaseIgnorable ∧ meetsCased xs ∧ meetsCased q) := by
  have first : xs.all isCaseIgnorable → meetsCased xs = false := meetsCased_eq_false
  have last : ys.all isCaseIgnorable → meetsCased ys = false := meetsCased_eq_false
  simp only [lowerSigma, meetsCased_append]
  revert first last
  cases xs.all isCaseIgnorable <;> cases ys.all isCaseIgnorable <;> cases meetsCased xs <;>
    cases meetsCased ys <;> cases meetsCased p <;> cases meetsCased q <;> decide

/-! ## Parts -/

/-- Lower-case form of a part of a text, given the text before it in reverse and the text after it. -/
def lowerBetween (before : List Char) : List Char → List Char → List Char
  | [], _ => []
  | c :: cs, after =>
    (if c = 'Σ' then [lowerSigma before (cs ++ after)] else lowerChar c) ++
      lowerBetween (c :: before) cs after

theorem lowerAfter_append (before cs after : List Char) :
    lowerAfter before (cs ++ after) =
      lowerBetween before cs after ++ lowerAfter (cs.reverse ++ before) after := by
  induction cs generalizing before with
  | nil => rfl
  | cons c cs ih =>
    rw [List.cons_append, lowerAfter, lowerBetween, ih, List.append_assoc, List.reverse_cons,
      List.append_assoc]
    rfl

theorem lower_append_append (before cs after : List Char) :
    lower (before ++ cs ++ after) = lowerBetween [] before (cs ++ after) ++
      lowerBetween before.reverse cs after ++ lowerAfter (cs.reverse ++ before.reverse) after := by
  rw [lower, List.append_assoc, lowerAfter_append, lowerAfter_append, List.append_nil, List.append_assoc]

/-- A capital sigma in a part of a text has a form there that it has not in the part alone. -/
inductive TurnsSigma (before : List Char) : List Char → List Char → Prop where
  /-- The part has no letter in front of it, and in the text it ends a word. -/
  | ends {p q after : List Char} (ignorable : p.all isCaseIgnorable)
      (follows : meetsCased before.reverse) (last : ¬ meetsCased (q ++ after)) :
      TurnsSigma before (p ++ 'Σ' :: q) after
  /-- In the part it ends a word, which goes on in the text. -/
  | goesOn {p q after : List Char} (ignorable : q.all isCaseIgnorable)
      (follows : meetsCased p.reverse) (more : meetsCased after) :
      TurnsSigma before (p ++ 'Σ' :: q) after

theorem turnsSigma_iff : TurnsSigma before cs after ↔ ∃ p q, cs = p ++ 'Σ' :: q ∧
    lowerSigma (p.reverse ++ before.reverse) (q ++ after) ≠ lowerSigma p.reverse q := by
  constructor
  · intro turns
    cases turns with
    | ends ignorable follows last =>
      exact ⟨_, _, rfl, lowerSigma_append_ne_iff.mpr (.inl ⟨by simpa using ignorable, follows, last⟩)⟩
    | goesOn ignorable follows more =>
      exact ⟨_, _, rfl, lowerSigma_append_ne_iff.mpr (.inr ⟨ignorable, follows, more⟩)⟩
  · rintro ⟨p, q, rfl, differs⟩
    rcases lowerSigma_append_ne_iff.mp differs with ⟨ignorable, follows, last⟩ | ⟨ignorable, follows, more⟩
    · exact .ends (by simpa using ignorable) follows last
    · exact .goesOn ignorable follows more

/-- The form of a part is its form alone if no sigma in it has another one. The characters of the part that
come before, in reverse, are kept apart from those before the part. -/
theorem lowerBetween_eq_lowerAfter_iff (inner before cs after : List Char) :
    lowerBetween (inner ++ before) cs after = lowerAfter inner cs ↔
      ∀ p q, cs = p ++ 'Σ' :: q →
        lowerSigma (p.reverse ++ inner ++ before) (q ++ after) = lowerSigma (p.reverse ++ inner) q := by
  induction cs generalizing inner with
  | nil => simp [lowerBetween, lowerAfter]
  | cons c cs ih =>
    have later := ih (c :: inner)
    rw [lowerBetween, lowerAfter]
    constructor
    · intro same
      obtain ⟨head, rest⟩ := List.append_inj same (by split <;> rfl)
      rintro (_ | ⟨d, p⟩) q cut
      · obtain ⟨rfl, rfl⟩ := List.cons.inj cut
        simpa using head
      · obtain ⟨rfl, rfl⟩ := List.cons.inj cut
        simpa using later.mp rest p q rfl
    · intro each
      congr 1
      · split
        next sigma =>
          have first := each [] cs (by rw [sigma, List.nil_append])
          simpa using first
        next => rfl
      · refine later.mpr fun p q cut => ?_
        have here := each (c :: p) q (by rw [cut, List.cons_append])
        simpa using here

/-- The form of a part of a text is its form alone exactly if no sigma in it turns. -/
theorem lowerBetween_eq_lower_iff :
    lowerBetween before.reverse cs after = lower cs ↔ ¬ TurnsSigma before cs after := by
  have same := lowerBetween_eq_lowerAfter_iff [] before.reverse cs after
  simp only [List.nil_append, List.append_nil] at same
  rw [lower, same, turnsSigma_iff]
  grind

theorem mem_of_turnsSigma (turns : TurnsSigma before cs after) : 'Σ' ∈ cs := by
  obtain ⟨p, q, rfl, -⟩ := turnsSigma_iff.mp turns
  exact List.mem_append_right p List.mem_cons_self

/-! ## Occurrences -/

/-- A text stands in another, and a capital sigma in it turns wherever it does. -/
structure TurnsEverywhere (needle haystack : List Char) : Prop where
  /-- There is an occurrence. -/
  stands : ∃ n, StandsAt needle haystack n
  /-- A sigma turns in each of them. -/
  turns : ∀ before after, haystack = before ++ needle ++ after → TurnsSigma before needle after

/-- An occurrence in which no sigma turns is one in lower case. -/
theorem occursIn_lower {needle haystack : List Char} (occurs : occursIn needle haystack = true) :
    occursIn (lower needle) (lower haystack) = true ∨ TurnsEverywhere needle haystack := by
  by_cases turns : ∀ before after, haystack = before ++ needle ++ after → TurnsSigma before needle after
  · exact .inr ⟨occursIn_iff.mp occurs, turns⟩
  · simp only [not_forall] at turns
    obtain ⟨before, after, rfl, steady⟩ := turns
    rw [lower_append_append, lowerBetween_eq_lower_iff.mpr steady]
    exact .inl (occursIn_iff.mpr ⟨_, _, _, rfl, rfl⟩)

end TargetingRules.Text
