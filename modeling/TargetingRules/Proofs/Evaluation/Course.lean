import TargetingRules.Proofs.Evaluation.Surroundings

/-!
# The course of an evaluation

An observer notes every expression that is evaluated, in the order in which this happens, except for the
connectives, whose work is done by their operands. Two expressions have the same course if they come to
the same value or error with the same notes, and more than that if nobody can tell them apart in any
surroundings.
-/

namespace TargetingRules

/-! ## Notes -/

/-- A value, and the expressions that were noted on the way to it. -/
structure Noted (α : Type) where
  /-- The notes in order. -/
  notes : List Tree
  /-- The value. -/
  value : α

namespace Noted

variable {α β : Type}

instance : Monad Noted where
  pure a := ⟨[], a⟩
  bind x next := ⟨x.notes ++ (next x.value).notes, (next x.value).value⟩

instance : LawfulMonad Noted := .mk' Noted
  (fun x => congrArg₂ Noted.mk (List.append_nil x.notes) rfl)
  (fun _ _ => rfl)
  (fun x f g => congrArg₂ Noted.mk (List.append_assoc x.notes _ _) rfl)

@[ext]
theorem ext {x y : Noted α} (notes : x.notes = y.notes) (value : x.value = y.value) : x = y := by
  cases x
  cases y
  cases notes
  cases value
  rfl

theorem value_bind (x : ExceptT EvalError Noted α) (next : α → ExceptT EvalError Noted β) :
    (x >>= next).run.value = x.run.value >>= fun a => (next a).run.value := by
  change (ExceptT.bindCont next x.run.value).value = _
  cases x.run.value <;> rfl

theorem notes_bind (x : ExceptT EvalError Noted α) (next : α → ExceptT EvalError Noted β) :
    (x >>= next).run.notes = x.run.notes ++
      match x.run.value with
      | .ok a => (next a).run.notes
      | .error _ => [] := by
  change x.run.notes ++ (ExceptT.bindCont next x.run.value).notes = _
  cases x.run.value <;> rfl

end Noted

/-- Surroundings that note what is evaluated and answer as an environment does. -/
def Environment.noting (env : Environment) : Surroundings Noted where
  enter t := ⟨[t], ()⟩
  literal kind image := concluded (kind.evaluate image)
  resolve name := pure (env.resolve name)
  call name args := concluded (env.functions.call name args)
  callMethod target name args := concluded (target.callMethod name args)

theorem Environment.reflects_noting (env : Environment) :
    env.noting.Reflects env fun _ x y => x.run.value = y where
  concluded _ := rfl
  bind := by
    intro α β x y f g first second
    rw [Noted.value_bind, first]
    exact bind_congr second
  enter _ := rfl
  literal _ _ := rfl
  resolve _ := rfl
  call _ _ := rfl
  callMethod _ _ _ := rfl

namespace Tree

/-- The expressions that are evaluated on the way to the value of an expression, in order, as they stand
without their places; connectives are left out. -/
def steps (t : Tree) (env : Environment) : List Tree :=
  (t.evaluateIn env.noting).run.notes

/-- What is noted beside the steps is the value. -/
theorem value_noting (t : Tree) (env : Environment) :
    (t.evaluateIn env.noting).run.value = t.evaluate env :=
  env.reflects_noting.evaluate t

end Tree

/-! ## One course -/

/-- Two expressions come to the same in the same way. -/
structure SameCourse (t t' : Tree) : Prop where
  /-- They have the same value, or the same error. -/
  value : ∀ env, t.evaluate env = t'.evaluate env
  /-- The same expressions are evaluated in the same order. -/
  steps : ∀ env, t.steps env = t'.steps env
  /-- They cannot be told apart by what looking up variables and calling functions does. -/
  anywhere : ∀ {n : Type → Type} [Monad n] [LawfulMonad n] (s : Surroundings n),
    t.evaluateIn s = t'.evaluateIn s

namespace SameCourse

variable {t t' t'' : Tree}

/-- What holds in all surroundings holds where the evaluation is noted. -/
theorem of_anywhere (anywhere : ∀ {n : Type → Type} [Monad n] [LawfulMonad n] (s : Surroundings n),
    t.evaluateIn s = t'.evaluateIn s) : SameCourse t t' := by
  refine ⟨fun env => ?_, fun env => ?_, anywhere⟩
  · rw [← t.value_noting, ← t'.value_noting, anywhere]
  · rw [Tree.steps, Tree.steps, anywhere]

theorem trans (first : SameCourse t t') (second : SameCourse t' t'') : SameCourse t t'' :=
  of_anywhere fun s => (first.anywhere s).trans (second.anywhere s)

/-- Where an expression stands in a text plays no part. -/
theorem of_outline_eq (same : t.outline = t'.outline) : SameCourse t t' :=
  of_anywhere (Tree.evaluateIn_eq_of_outline_eq same)

end SameCourse

end TargetingRules
