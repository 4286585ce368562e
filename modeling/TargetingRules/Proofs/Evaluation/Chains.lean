import TargetingRules.Proofs.Evaluation.Course

/-!
# Chains of truth values

A conjunction and a disjunction are one loop: it goes through the operands as long as they have the truth
value that says nothing, true for the one and false for the other, and ends with the first operand that
has not. The laws of such a loop hold in every monad. Two runs of operands can be one run, so grouping
does not matter; and negating the operands negates the outcome, so that a negation can be moved inside.
What an operand is coerced from, which error ends the loop and which operands are left alone need not be
asked for this.
-/

namespace TargetingRules

/-- The kind of a chain whose operands decide nothing as long as they are `b`. -/
def Kind.chaining : Bool → Kind
  | true => .and
  | false => .or

/-! ## The loop -/

namespace Part

variable {n : Type → Type} [Monad n] [LawfulMonad n]

/-- A run of parts after another one. -/
theorem chain_append (b : Bool) (xs ys : List (Part n)) :
    chain b (xs ++ ys) = (chain b xs >>= fun c => if c = b then chain b ys else return c) := by
  induction xs with
  | nil =>
    rw [List.nil_append, chain, pure_bind, if_pos rfl]
  | cons part xs ih =>
    rw [List.cons_append, chain, chain, bind_assoc]
    refine bind_congr fun c => ?_
    split
    next => exact ih
    next other => rw [pure_bind, if_neg other]

/-- A part with the truth value of a run is as good as the run. -/
theorem chain_group (b : Bool) (xs ys zs : List (Part n)) {group : Part n}
    (same : group.truth = chain b ys) : chain b (xs ++ group :: zs) = chain b (xs ++ ys ++ zs) := by
  rw [List.append_assoc, chain_append, chain_append b xs]
  refine bind_congr fun c => ?_
  rw [chain_append, chain, same]

/-- Where each part has the opposite truth value, the run has. -/
theorem chain_opposite (b : Bool) {xs ys : List (Part n)}
    (opposite : List.Forall₂ (fun x y => y.truth = not <$> x.truth) xs ys) :
    chain (!b) ys = not <$> chain b xs := by
  induction opposite with
  | nil => rw [chain, chain, map_pure]
  | @cons x y xs ys first _ ih =>
    rw [chain, chain, first, bind_map_left, map_bind]
    refine bind_congr fun c => ?_
    by_cases goesOn : c = b
    · rw [if_pos goesOn, goesOn, if_pos rfl, ih]
    · rw [if_neg goesOn, if_neg fun same => goesOn (Bool.not_inj same), map_pure]

end Part

/-! ## Connectives -/

namespace Tree

/-- An expression is the negation of another one. -/
def Negates (t' t : Tree) : Prop :=
  ∃ image span, t' = .node .not image span [t]

section Connectives

variable {n : Type → Type} [Monad n] {image : Option String} {span : Span}

theorem evaluate_chaining (s : Surroundings n) (b : Bool) (parts : List (Part n)) :
    s.evaluate (.chaining b) image parts = (Part.chain b parts >>= fun c => pure (.bool c)) := by
  cases b <;> rfl

theorem visit_chaining (s : Surroundings n) (b : Bool) (ts : List Tree) :
    s.visit (.node (.chaining b) image span ts) = pure () := by
  cases b <;> rfl

variable [LawfulMonad n]

/-- What is a truth value is its own truth value. -/
theorem truth_of_value {part : Part n} {x : ExceptT EvalError n Bool}
    (value : part.value = (x >>= fun c => pure (.bool c))) : part.truth = x := by
  rw [Part.truth, value, bind_assoc]
  simp only [pure_bind]
  exact bind_pure x

/-- The value of a chain is what the loop over its operands ends with. -/
theorem evaluateIn_chaining (s : Surroundings n) (b : Bool) (ts : List Tree) :
    (node (.chaining b) image span ts).evaluateIn s =
      (Part.chain b (partsOf s ts) >>= fun c => pure (.bool c)) := by
  rw [evaluateIn_node, visit_chaining, pure_bind, evaluate_chaining]

theorem truth_chaining (s : Surroundings n) (b : Bool) (ts : List Tree) :
    ((node (.chaining b) image span ts).part s).truth = Part.chain b (partsOf s ts) :=
  truth_of_value (evaluateIn_chaining s b ts)

/-- The value of a negation is the opposite of the truth value of its operand. -/
theorem evaluateIn_not (s : Surroundings n) (t : Tree) :
    (node .not image span [t]).evaluateIn s =
      (not <$> (t.part s).truth >>= fun c => pure (.bool c)) := by
  have visit : s.visit (node .not image span [t]) = pure () := rfl
  have operand : Part.valueAt .not [t.part s] 0 = (t.part s).value := concluded_ok_bind _ _
  have negation (v : Value) : (concluded v.negation : ExceptT EvalError n Value) =
      (concluded v.truth >>= fun c => pure (.bool (!c))) := concluded_bind _ _
  rw [evaluateIn_node, visit, pure_bind, Surroundings.evaluate]
  simp only [partsOf, operand, negation, Part.truth, map_bind, bind_assoc, bind_map_left]

theorem truth_of_negates (s : Surroundings n) {t' t : Tree} (negates : t'.Negates t) :
    (t'.part s).truth = not <$> (t.part s).truth := by
  obtain ⟨image, span, rfl⟩ := negates
  exact truth_of_value (evaluateIn_not s t)

end Connectives

/-- Some operands of a chain can be grouped, or a group dissolved. -/
theorem sameCourse_group (b : Bool) (image image' image'' : Option String) (span span' span'' : Span)
    (xs ys zs : List Tree) :
    SameCourse (.node (.chaining b) image span (xs ++ ys ++ zs))
      (.node (.chaining b) image' span' (xs ++ .node (.chaining b) image'' span'' ys :: zs)) := by
  refine .of_anywhere fun s => ?_
  rw [evaluateIn_chaining, evaluateIn_chaining]
  simp only [partsOf_eq_map, List.map_append, List.map_cons]
  rw [Part.chain_group b _ (ys.map (part s)) _ ?_]
  rw [truth_chaining, partsOf_eq_map]

/-- A negation can be moved into a chain, which becomes one of the other kind. -/
theorem sameCourse_not (b : Bool) (image image' image'' : Option String) (span span' span'' : Span)
    {ts negated : List Tree} (negate : List.Forall₂ (fun t t' => t'.Negates t) ts negated) :
    SameCourse (.node .not image span [.node (.chaining b) image' span' ts])
      (.node (.chaining (!b)) image'' span'' negated) := by
  refine .of_anywhere fun s => ?_
  have opposite : List.Forall₂ (fun x y : Part _ => y.truth = not <$> x.truth) (partsOf s ts)
      (partsOf s negated) := by
    rw [partsOf_eq_map, partsOf_eq_map, List.forall₂_map_left_iff, List.forall₂_map_right_iff]
    exact negate.imp fun _ _ => truth_of_negates s
  rw [evaluateIn_not, truth_chaining, evaluateIn_chaining, Part.chain_opposite b opposite]

end Tree

end TargetingRules
