/-!
# How computations fail

A computation that may fail, with what is known of its errors. The statements follow the steps of a
computation, so that one of them is enough for each function. A computation that need not come to an
end at all has a result only if it does.
-/

namespace TargetingRules

/-- A computation fails, if at all, with an error that is allowed. -/
def FailsWith {ε α : Type} (allowed : ε → Prop) (result : Except ε α) : Prop :=
  ∀ e, result = .error e → allowed e

section FailsWith

variable {ε α β : Type} {allowed : ε → Prop}

theorem failsWith_ok (a : α) : FailsWith allowed (.ok a : Except ε α) := by
  intro e failed
  cases failed

theorem failsWith_pure (a : α) : FailsWith allowed (pure a : Except ε α) :=
  failsWith_ok a

theorem failsWith_error {e : ε} (isAllowed : allowed e) :
    FailsWith allowed (.error e : Except ε α) := by
  intro e' failed
  cases failed
  exact isAllowed

theorem FailsWith.bind {x : Except ε α} {f : α → Except ε β}
    (first : FailsWith allowed x) (second : ∀ a, FailsWith allowed (f a)) :
    FailsWith allowed (x >>= f) := by
  intro e failed
  cases x with
  | error e' => exact first e (by cases failed; rfl)
  | ok a => exact second a e failed

theorem FailsWith.map {x : Except ε α} (first : FailsWith allowed x) (f : α → β) :
    FailsWith allowed (x.map f) := by
  intro e failed
  cases x with
  | error e' => exact first e (by cases failed; rfl)
  | ok a => cases failed

theorem FailsWith.mono {other : ε → Prop} {x : Except ε α}
    (fails : FailsWith allowed x) (weaker : ∀ e, allowed e → other e) : FailsWith other x :=
  fun e failed => weaker e (fails e failed)

theorem FailsWith.ite {p : Prop} [Decidable p] {x y : Except ε α}
    (first : p → FailsWith allowed x) (second : ¬ p → FailsWith allowed y) :
    FailsWith allowed (if p then x else y) := by
  split
  next holds => exact first holds
  next fails => exact second fails

end FailsWith

/-! ## Computations that need not end -/

/-- A result, as that of a computation that need not end. -/
def settled {ε α : Type} (result : Except ε α) : ExceptT ε Option α :=
  ExceptT.mk (some result)

section Settled

variable {ε α β : Type}

theorem pure_eq_settled (a : α) : (pure a : ExceptT ε Option α) = settled (.ok a) := rfl

theorem throw_eq_settled (e : ε) : (throw e : ExceptT ε Option α) = settled (.error e) := rfl

theorem settled_bind (result : Except ε α) (next : α → Except ε β) :
    (settled result >>= fun a => settled (next a)) = settled (result >>= next) := by
  cases result <;> rfl

theorem settled_ok_bind (a : α) (next : α → ExceptT ε Option β) :
    settled (.ok a) >>= next = next a := rfl

theorem settled_eq_pure_iff {result : Except ε α} {a : α} :
    settled result = pure a ↔ result = .ok a := by
  constructor
  · exact Option.some.inj
  · rintro rfl
    rfl

theorem adapt_settled {ε' : Type} (f : ε → ε') (result : Except ε α) :
    ExceptT.adapt f (settled result) = settled (result.mapError f) := by
  cases result <;> rfl

end Settled

/-- A computation comes to an end, and it fails, if at all, with an error that is allowed. -/
def EndsWithin {ε α : Type} (allowed : ε → Prop) (part : ExceptT ε Option α) : Prop :=
  ∃ result, part = settled result ∧ FailsWith allowed result

theorem FailsWith.endsWithin {ε α : Type} {allowed : ε → Prop} {result : Except ε α}
    (fails : FailsWith allowed result) : EndsWithin allowed (settled result) :=
  ⟨result, rfl, fails⟩

end TargetingRules
