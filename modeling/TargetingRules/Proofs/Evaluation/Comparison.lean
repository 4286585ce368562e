import TargetingRules.Evaluation.Operators
import TargetingRules.Proofs.Number.Order

/-!
# Comparison of values

Equality and order are asked for by different operators, which coerce values differently: equality takes
null and truth values, order does not. Where there is an order it is the same for all operators, it is
swapped when the sides are, and its middle is equality. Where there is none, no operator that needs one has
an answer on either side.

Nothing is assumed of numbers. They are compared part by part with an ordering as the answer, or none if one
of them is not a number, and less, equal and greater are what the answer can be.
-/

namespace TargetingRules

/-- Errors of one kind, whatever they say. -/
def EvalError.SameKind (e e' : EvalError) : Prop :=
  e.ctorIdx = e'.ctorIdx

namespace Value

theorem orderNumbers?_eq_compare? (x y : Float) : orderNumbers? x y = Number.compare? x y := by
  rw [orderNumbers?, Number.beq_eq]
  simp only [Number.lt_iff, Number.compare?_swap x y]
  cases Number.compare? x y with
  | none => rfl
  | some ordering => cases ordering <;> rfl

/-! ## Equality -/

mutual

theorem equal_comm (v w : Value) : v.equal w = w.equal v := by
  cases v <;> cases w <;> try rfl
  case bool a b => exact BEq.comm
  case number x y => exact BEq.comm
  case string s t => exact BEq.comm
  case array xs ys => exact equalItems_comm xs ys
  case object xs ys => exact equalFields_comm xs ys

theorem equalItems_comm (xs ys : List Value) : equalItems xs ys = equalItems ys xs := by
  match xs, ys with
  | [], [] => rfl
  | [], _ :: _ => rfl
  | _ :: _, [] => rfl
  | x :: xs, y :: ys => rw [equalItems, equalItems, equal_comm x y, equalItems_comm xs ys]

theorem equalFields_comm (xs ys : List (String × Value)) : equalFields xs ys = equalFields ys xs := by
  match xs, ys with
  | [], [] => rfl
  | [], _ :: _ => rfl
  | _ :: _, [] => rfl
  | (name, x) :: xs, (other, y) :: ys =>
    rw [equalFields, equalFields, equal_comm x y, equalFields_comm xs ys, BEq.comm]

end


/-- Two results can be taken in either order where one of them is no failure. -/
theorem bind_comm_of_ok {ε α β γ : Type} {x : Except ε α} {y : Except ε β}
    (settled : (∃ a, x = .ok a) ∨ ∃ b, y = .ok b) (f : α → β → Except ε γ) :
    (x >>= fun a => y >>= fun b => f a b) = (y >>= fun b => x >>= fun a => f a b) := by
  rcases settled with ⟨a, rfl⟩ | ⟨b, rfl⟩
  · cases y <;> rfl
  · cases x <;> rfl

theorem exists_numeric {left right : Value} (some : left.type = .number ∨ right.type = .number) :
    (∃ x, left.numeric = .ok x) ∨ ∃ y, right.numeric = .ok y := by
  rcases some with isNumber | isNumber
  · cases left <;> first | exact .inl ⟨_, rfl⟩ | cases isNumber
  · cases right <;> first | exact .inr ⟨_, rfl⟩ | cases isNumber

theorem exists_truth {left right : Value} (some : left.type = .boolean ∨ right.type = .boolean) :
    (∃ a, left.truth = .ok a) ∨ ∃ b, right.truth = .ok b := by
  rcases some with isTruth | isTruth
  · cases left <;> first | exact .inl ⟨_, rfl⟩ | cases isTruth
  · cases right <;> first | exact .inr ⟨_, rfl⟩ | cases isTruth

theorem equals_comm (left right : Value) : left.equals right = right.equals left := by
  simp only [equals, or_comm (a := right.type = _)]
  split
  next => rw [BEq.comm]
  next =>
    split
    next number =>
      rw [bind_comm_of_ok (exists_numeric number)]
      simp only [BEq.comm (α := Float)]
    next =>
      split
      next truth =>
        rw [bind_comm_of_ok (exists_truth truth)]
        simp only [Bool.beq_comm]
      next => rw [equal_comm]

/-! ## Order -/

/-- What can come of asking for the order of two values: it is refused on either side, or it is there on
both sides and agrees with equality. -/
inductive Compared (left right : Value) : Prop where
  | refused (refuse : ∀ op op', ∃ e e', order op left right = .error e ∧
      order op' right left = .error e' ∧ e.SameKind e')
  | ordered (ordering : Ordering) (here : ∀ op, order op left right = .ok ordering)
      (there : ∀ op, order op right left = .ok ordering.swap)
      (equal : left.equals right = .ok (ordering == .eq))

theorem order_of_null {left right : Value} (null : left.type = .null ∨ right.type = .null)
    (op : CompareOp) : order op left right = .error (.nullOperand op.symbol) := by
  unfold order
  rw [if_pos null]

theorem order_of_other {left right : Value} (given : ¬ (left.type = .null ∨ right.type = .null))
    (other : ¬ (left.type = .number ∨ right.type = .number))
    (mixed : ∀ s t, left = .string s → right ≠ .string t) (op : CompareOp) :
    order op left right = .error (.typeFault (.incomparable left.type right.type op)) := by
  unfold order
  rw [if_neg given, if_neg other]
  split
  next s t => exact absurd rfl (mixed s t rfl)
  next => rfl

section Numbers

variable {left right : Value}

theorem order_of_error (given : ¬ (left.type = .null ∨ right.type = .null))
    (number : left.type = .number ∨ right.type = .number) {e : EvalError}
    (refused : left.numeric = .error e ∨ right.numeric = .error e) (op : CompareOp) :
    order op left right = .error e := by
  unfold order
  rw [if_neg given, if_pos number]
  rcases refused with refused | refused <;> rcases exists_numeric number with ⟨x, read⟩ | ⟨x, read⟩
  · rw [refused] at read
    cases read
  · rw [refused]
    rfl
  · rw [refused, read]
    rfl
  · rw [refused] at read
    cases read

theorem order_of_numbers (given : ¬ (left.type = .null ∨ right.type = .null))
    (number : left.type = .number ∨ right.type = .number) {x y : Float}
    (hx : left.numeric = .ok x) (hy : right.numeric = .ok y) (op : CompareOp) :
    order op left right =
      (Number.compare? x y).elim (.error (.typeFault (.unordered x y))) .ok := by
  unfold order
  rw [if_neg given, if_pos number, hx, hy, ← orderNumbers?_eq_compare?]
  dsimp only [bind, Except.bind]
  cases orderNumbers? x y <;> rfl

theorem equals_of_numbers (given : ¬ (left.type = .null ∨ right.type = .null))
    (number : left.type = .number ∨ right.type = .number) {x y : Float}
    (hx : left.numeric = .ok x) (hy : right.numeric = .ok y) :
    left.equals right = .ok (Number.compare? x y == some .eq) := by
  rw [equals, if_neg given, if_pos number, hx, hy]
  rfl

/-- One number that is none is enough for having no order, on either side. -/
theorem compared_numbers (given : ¬ (left.type = .null ∨ right.type = .null))
    (number : left.type = .number ∨ right.type = .number) : Compared left right := by
  by_cases refused : ∃ e, left.numeric = .error e ∨ right.numeric = .error e
  · obtain ⟨e, refused⟩ := refused
    exact .refused fun op op' => ⟨e, e, order_of_error given number refused op,
      order_of_error (given ·.symm) number.symm refused.symm op', rfl⟩
  · obtain ⟨x, hx⟩ : ∃ x, left.numeric = .ok x := by
      cases hx : left.numeric with
      | error e => exact absurd ⟨e, .inl hx⟩ refused
      | ok x => exact ⟨x, rfl⟩
    obtain ⟨y, hy⟩ : ∃ y, right.numeric = .ok y := by
      cases hy : right.numeric with
      | error e => exact absurd ⟨e, .inr hy⟩ refused
      | ok y => exact ⟨y, rfl⟩
    have here := order_of_numbers given number hx hy
    have there := order_of_numbers (given ·.symm) number.symm hy hx
    have equal := equals_of_numbers given number hx hy
    rw [Number.compare?_swap x y] at there
    cases ordered : Number.compare? x y with
    | none =>
      rw [ordered] at here there
      exact .refused fun op op' => ⟨_, _, here op, there op', rfl⟩
    | some ordering =>
      rw [ordered] at here there equal
      exact .ordered ordering here there equal

end Numbers

/-- Two texts always have an order. -/
theorem compared_strings (s t : String) : Compared (.string s) (.string t) := by
  have same : (s == t) = (compare s t == .eq) := by
    rw [Bool.eq_iff_iff, beq_iff_eq, beq_iff_eq, Std.LawfulEqCmp.compare_eq_iff_eq]
  exact .ordered (compare s t) (fun _ => rfl) (fun _ => congrArg Except.ok Std.OrientedCmp.eq_swap)
    (congrArg Except.ok same)

theorem compared (left right : Value) : Compared left right := by
  by_cases null : left.type = .null ∨ right.type = .null
  · exact .refused fun op op' => ⟨_, _, order_of_null null op, order_of_null null.symm op', rfl⟩
  by_cases number : left.type = .number ∨ right.type = .number
  · exact compared_numbers null number
  by_cases texts : ∃ s t, left = .string s ∧ right = .string t
  · obtain ⟨s, t, rfl, rfl⟩ := texts
    exact compared_strings s t
  · refine .refused fun op op' => ⟨_, _, order_of_other null number ?_ op,
      order_of_other (null ·.symm) (number ·.symm) ?_ op', rfl⟩
    · exact fun s t isText isText' => texts ⟨s, t, isText, isText'⟩
    · exact fun s t isText isText' => texts ⟨t, s, isText', isText⟩

end Value

/-! ## Operators -/

/-- Whether an operator is true of two values in a given order. -/
def CompareOp.holds (op : CompareOp) (ordering : Ordering) : Bool :=
  match op with
  | .equal => ordering == .eq
  | .notEqual => ordering != .eq
  | .greater => ordering == .gt
  | .atLeast => ordering != .lt
  | .less => ordering == .lt
  | .atMost => ordering != .gt

theorem CompareOp.apply_of_isOrdering {op : CompareOp} (needs : op.isOrdering = true)
    (left right : Value) : op.apply left right = (Value.order op left right).map op.holds := by
  cases op with
  | equal | notEqual => cases needs
  | greater | atLeast | less | atMost => rfl

/-- No operator that needs an order has an answer, on either side, and all fail with one kind of error. -/
def FailsToOrder (left right : Value) : Prop :=
  ∀ op op' : CompareOp, op.isOrdering = true → op'.isOrdering = true →
    ∃ e e', op.apply left right = .error e ∧ op'.apply right left = .error e' ∧ e.SameKind e'

/-- All operators have the answers that one ordering gives, or the ordering seen from the other side. -/
def OrdersAs (left right : Value) (ordering : Ordering) : Prop :=
  ∀ op : CompareOp, op.apply left right = .ok (op.holds ordering) ∧
    op.apply right left = .ok (op.holds ordering.swap)

theorem failsToOrder_or_ordersAs (left right : Value) :
    FailsToOrder left right ∨ ∃ ordering, OrdersAs left right ordering := by
  cases left.compared right with
  | refused refuse =>
    refine .inl fun op op' needs needs' => ?_
    obtain ⟨e, e', here, there, same⟩ := refuse op op'
    refine ⟨e, e', ?_, ?_, same⟩
    · rw [CompareOp.apply_of_isOrdering needs, here]
      rfl
    · rw [CompareOp.apply_of_isOrdering needs', there]
      rfl
  | ordered ordering here there equal =>
    have equal' : right.equals left = .ok (ordering.swap == .eq) := by
      rw [Value.equals_comm, equal]
      cases ordering <;> rfl
    refine .inr ⟨ordering, fun op => ?_⟩
    cases needs : op.isOrdering with
    | true =>
      rw [CompareOp.apply_of_isOrdering needs, CompareOp.apply_of_isOrdering needs, here, there]
      exact ⟨rfl, rfl⟩
    | false =>
      cases op with
      | equal => exact ⟨equal, equal'⟩
      | notEqual =>
        rw [CompareOp.apply, CompareOp.apply, equal, equal']
        exact ⟨rfl, rfl⟩
      | greater | atLeast | less | atMost => cases needs

open CompareOp (less equal greater atLeast atMost notEqual)

/-- The answers of the operators on two values that have an order. -/
structure OrdersCoherently (left right : Value) (isLess isEqual isGreater : Bool) : Prop where
  less_eq : less.apply left right = .ok isLess
  equal_eq : equal.apply left right = .ok isEqual
  greater_eq : greater.apply left right = .ok isGreater
  /-- Exactly one of the three is true. -/
  one : [isLess, isEqual, isGreater].count true = 1
  atMost_eq : atMost.apply left right = .ok (!isGreater)
  atLeast_eq : atLeast.apply left right = .ok (!isLess)
  /-- On the other side less and greater have changed places. -/
  swap : less.apply right left = .ok isGreater ∧ greater.apply right left = .ok isLess ∧
    atMost.apply right left = .ok (!isLess) ∧ atLeast.apply right left = .ok (!isGreater)

theorem OrdersAs.coherently {left right : Value} {ordering : Ordering}
    (orders : OrdersAs left right ordering) :
    OrdersCoherently left right (ordering == .lt) (ordering == .eq) (ordering == .gt) where
  less_eq := (orders .less).1
  equal_eq := (orders .equal).1
  greater_eq := (orders .greater).1
  one := by cases ordering <;> rfl
  atMost_eq := (orders .atMost).1
  atLeast_eq := (orders .atLeast).1
  swap := by
    refine ⟨(orders .less).2.trans ?_, (orders .greater).2.trans ?_, (orders .atMost).2.trans ?_,
      (orders .atLeast).2.trans ?_⟩ <;> cases ordering <;> rfl

/-- The six comparison operators agree about two values. -/
structure ComparesCoherently (left right : Value) : Prop where
  /-- Equality has one answer, or one error, whatever side a value is on. -/
  equal_comm : equal.apply left right = equal.apply right left
  /-- Its negation has the other answer, or the same error. -/
  notEqual_eq : notEqual.apply left right = (equal.apply left right).map not
  /-- The operators that need an order all fail, or all have answers, and these fit together. -/
  orders : FailsToOrder left right ∨
    ∃ isLess isEqual isGreater, OrdersCoherently left right isLess isEqual isGreater

/-- The comparison operators agree about all values. -/
theorem comparesCoherently (left right : Value) : ComparesCoherently left right where
  equal_comm := left.equals_comm right
  notEqual_eq := rfl
  orders := (failsToOrder_or_ordersAs left right).imp_right fun ⟨_, orders⟩ =>
    ⟨_, _, _, orders.coherently⟩

end TargetingRules
