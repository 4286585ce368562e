import TargetingRules.Proofs.Number.Order
import TargetingRules.Proofs.Number.Rounding

/-!
# Whole numbers

The whole numbers below `2 ^ 53` are all among the numbers: nothing is rounded when one is made a number,
when two are added or when a number is made whole again. Larger ones are rounded or even become infinity, but
they stay above. None is negative.
-/

namespace TargetingRules.Number

open Float.Model (Format UnpackedFloat totalExponent)
open Float.Model.UnpackedFloat

/-! ## Parts -/

/-- The parts of a whole number. -/
def whole (n : Nat) : UnpackedFloat :=
  if positive : 0 < n then
    .finite .positive (n * 2 ^ (52 - n.log2)) (n.log2 - 52) (Nat.mul_pos positive (Nat.two_pow_pos _))
  else .zero .positive

theorem whole_zero : whole 0 = .zero .positive := rfl

theorem whole_of_pos {n : Nat} (positive : 0 < n) :
    whole n = .finite .positive (n * 2 ^ (52 - n.log2)) (n.log2 - 52)
      (Nat.mul_pos positive (Nat.two_pow_pos _)) :=
  dif_pos positive

theorem log2_le {n : Nat} (small : n < 2 ^ 53) : n.log2 ≤ 52 := by
  rcases Nat.eq_zero_or_pos n with rfl | positive
  · decide
  · exact Nat.le_of_lt_succ ((Nat.log2_lt positive.ne').mpr small)

theorem isNormal_whole {n : Nat} (positive : 0 < n) (small : n < 2 ^ 53) :
    IsNormal (n * 2 ^ (52 - n.log2)) := by
  have short := log2_le small
  rw [isNormal_iff_log2 (by positivity), log2_mul_two_pow positive]
  omega

theorem unpack_pack_whole {n : Nat} (small : n < 2 ^ 53) :
    (Float.Model.pack (whole n)).unpack = whole n := by
  have short := log2_le small
  rcases Nat.eq_zero_or_pos n with rfl | positive
  · rfl
  · rw [whole_of_pos positive]
    exact unpack_pack_normal .positive (isNormal_whole positive small) (by omega) (by omega) _

theorem round_whole {n : Nat} (positive : 0 < n) (small : n < 2 ^ 53) (k : Nat) :
    round .binary64 .positive (n * 2 ^ k) (-k) = whole n := by
  have short := log2_le small
  have target : Format.binary64.targetExponent (totalExponent (n * 2 ^ k) (-k)) = n.log2 - 52 := by
    rw [targetExponent_eq, totalExponent, log2_mul_two_pow positive]
    omega
  -- The mantissa is lengthened by `a` zeros, unless it has `b` zeros too many.
  obtain ⟨a, b, ha, total⟩ : ∃ a b, (-k - (n.log2 - 52 : Int)).toNat = a ∧ k + a = 52 - n.log2 + b :=
    ⟨_, k + (-k - (n.log2 - 52 : Int)).toNat - (52 - n.log2), rfl, by omega⟩
  have mantissa : (n * 2 ^ k) <<< a = n * 2 ^ (52 - n.log2) * 2 ^ b := by
    rw [Nat.shiftLeft_eq, Nat.mul_assoc, Nat.mul_assoc, ← Nat.pow_add, ← Nat.pow_add, total]
  rw [UnpackedFloat.round, target, decreaseExponent]
  simp only [ha, mantissa]
  rw [roundWithAccuracy_exact .positive (isNormal_whole positive small) (by omega), whole_of_pos positive]
  congr 1
  omega

theorem normalize_whole {n : Nat} (small : n < 2 ^ 53) (k : Nat) :
    normalize .binary64 (n * 2 ^ k : Nat) (-k) .positive = whole n := by
  rcases Nat.eq_zero_or_pos n with rfl | positive
  · rw [Nat.zero_mul]
    rfl
  · have greater : compare ((n * 2 ^ k : Nat) : Int) 0 = .gt := by
      rw [Int.compare_eq_gt]
      positivity
    rw [UnpackedFloat.normalize, greater]
    exact round_whole positive small k

/-! ## Sums -/

theorem shiftLeft_whole {n l : Nat} (small : n < 2 ^ 53) (below : l ≤ n.log2) :
    (n * 2 ^ (52 - n.log2)) <<< ((n.log2 : Int) - 52 - (l - 52)).toNat = n * 2 ^ (52 - l) := by
  have short := log2_le small
  have digits : 52 - n.log2 + ((n.log2 : Int) - 52 - (l - 52)).toNat = 52 - l := by omega
  rw [Nat.shiftLeft_eq, Nat.mul_assoc, ← Nat.pow_add, digits]

theorem add_whole {m n : Nat} (small : m + n < 2 ^ 53) :
    add .binary64 (whole m) (whole n) = whole (m + n) := by
  rcases Nat.eq_zero_or_pos n with rfl | positive'
  · rcases Nat.eq_zero_or_pos m with rfl | positive
    · rfl
    · rw [Nat.add_zero, whole_zero, whole_of_pos positive]
      rfl
  rcases Nat.eq_zero_or_pos m with rfl | positive
  · rw [Nat.zero_add, whole_zero, whole_of_pos positive']
    rfl
  have short := log2_le (n := m) (by omega)
  have short' := log2_le (n := n) (by omega)
  have least : min ((m.log2 : Int) - 52) (n.log2 - 52) = ((min m.log2 n.log2 : Nat) : Int) - 52 := by
    omega
  have exponent : ((min m.log2 n.log2 : Nat) : Int) - 52 = -(52 - min m.log2 n.log2 : Nat) := by omega
  rw [whole_of_pos positive, whole_of_pos positive', add, least]
  simp only [decreaseExponent, shiftLeft_whole (show m < 2 ^ 53 by omega) (Nat.min_le_left _ _),
    shiftLeft_whole (show n < 2 ^ 53 by omega) (Nat.min_le_right _ _), Sign.apply]
  rw [← Nat.cast_add, ← Nat.add_mul, exponent]
  exact normalize_whole small _

/-! ## Numbers -/

theorem toModel_toFloat {n : Nat} (small : n < 2 ^ 53) :
    n.toUInt64.toFloat.toModel = .pack (whole n) := by
  have same : n.toUInt64.toNat = n := by
    exact UInt64.toNat_ofNat_of_lt' (Nat.lt_trans small (by decide))
  have normalized := normalize_whole small 0
  rw [Nat.pow_zero, Nat.mul_one, Nat.cast_zero, Int.neg_zero] at normalized
  change Float.Model.pack (normalize .binary64 n.toUInt64.toNat 0 .positive) = _
  rw [same, normalized]

/-- The number one, by which decimal numbers without an exponent are scaled. -/
theorem unpack_one :
    (Float.ofBits 0x3FF0000000000000).toModel.unpack =
      .finite .positive (1 * 2 ^ 52) (-52) (by decide) := rfl

theorem mul_one_whole {n : Nat} (small : n < 2 ^ 53) :
    mul .binary64 (whole n) (.finite .positive (1 * 2 ^ 52) (-52) (by decide)) = whole n := by
  have short := log2_le small
  rcases Nat.eq_zero_or_pos n with rfl | positive
  · rfl
  · rw [whole_of_pos positive, mul, Nat.one_mul,
      roundWithAccuracy_exact _ (isNormal_whole positive small) (by omega)]
    congr 1
    omega

theorem toModel_ofNat {n : Nat} (small : n < 2 ^ 53) : (Float.ofNat n).toModel = .pack (whole n) := by
  have scaled : Float.ofNat n = n.toUInt64.toFloat * Float.ofBits 0x3FF0000000000000 := by
    change Float.ofScientific n false 0 = _
    rw [Float.ofScientific, dif_pos ⟨small, by decide⟩]
    rfl
  rw [scaled]
  change Float.Model.pack (mul .binary64 n.toUInt64.toFloat.toModel.unpack
    (Float.ofBits 0x3FF0000000000000).toModel.unpack) = _
  rw [toModel_toFloat small, unpack_pack_whole small, unpack_one, mul_one_whole small]

theorem unpack_ofNat {n : Nat} (small : n < 2 ^ 53) : (Float.ofNat n).toModel.unpack = whole n := by
  rw [toModel_ofNat small, unpack_pack_whole small]

/-- A large whole number is rounded to one that is large still, or becomes infinity. -/
theorem unpack_ofNat_large {n : Nat} (large : 2 ^ 53 ≤ n) :
    (Float.ofNat n).toModel.unpack = .infinity .positive ∨
      ∃ m e positive, (Float.ofNat n).toModel.unpack = .finite .positive m e positive ∧
        IsNormal m ∧ 1 ≤ e := by
  have long : 53 ≤ n.log2 := (Nat.le_log2 (by omega)).mpr large
  have unscaled : Float.ofNat n = .ofModel (Float.Model.ofScientific n 0) := by
    change Float.ofScientific n false 0 = _
    rw [Float.ofScientific, dif_neg (by omega)]
    rfl
  have parts : Float.Model.UnpackedFloat.ofScientific .binary64 n 0 =
      roundWithAccuracy .binary64 .positive (n * 2 ^ 53) (-53) .exact := by
    rw [Float.Model.UnpackedFloat.ofScientific, dif_neg (by omega), if_neg (by decide),
      if_neg (by simp), if_pos (by decide), mul, Nat.shiftLeft_eq]
    change roundWithAccuracy _ _ (n * 2 ^ 53 * 1) _ _ = _
    rw [Nat.mul_one]
    rfl
  have log : (n * 2 ^ 53).log2 = 52 + (n.log2 + 1) := by
    rw [log2_mul_two_pow (by omega)]
    omega
  obtain ⟨m, e, positive, rounded, normal, grown⟩ :=
    exists_roundWithAccuracy .positive log (e := -53) (by omega)
  have unpacked : (Float.ofNat n).toModel.unpack =
      (Float.Model.pack (.finite .positive m e positive)).unpack := by
    rw [unscaled, ← rounded, ← parts]
    rfl
  rw [unpacked]
  by_cases fits : e ≤ 971
  · exact .inr ⟨m, e, positive, unpack_pack_normal .positive normal (by omega) fits positive, normal,
      by omega⟩
  · exact .inl (unpack_pack_overflow .positive (by omega) positive)

theorem unpack_ofNat_of_pos {n : Nat} (positive : 0 < n) :
    (Float.ofNat n).toModel.unpack = .infinity .positive ∨
      ∃ m e positive, (Float.ofNat n).toModel.unpack = .finite .positive m e positive := by
  rcases Nat.lt_or_ge n (2 ^ 53) with small | large
  · exact .inr ⟨_, _, _, (unpack_ofNat small).trans (whole_of_pos positive)⟩
  · rcases unpack_ofNat_large large with infinite | ⟨m, e, positive, finite, -⟩
    · exact .inl infinite
    · exact .inr ⟨m, e, positive, finite⟩

/-! ## Arithmetic and order -/

theorem ofNat_add {m n : Nat} (small : m + n < 2 ^ 53) :
    Float.ofNat m + Float.ofNat n = Float.ofNat (m + n) := by
  have sum : (Float.ofNat m + Float.ofNat n).toModel =
      .pack (add .binary64 (Float.ofNat m).toModel.unpack (Float.ofNat n).toModel.unpack) := rfl
  rw [unpack_ofNat (by omega), unpack_ofNat (by omega), add_whole small, ← toModel_ofNat small] at sum
  exact congrArg Float.ofModel sum

/-- No whole number is below zero, however large it is, and only zero is equal to it. -/
theorem compare?_ofNat_zero (n : Nat) :
    compare? (Float.ofNat n) 0 = some (if n = 0 then .eq else .gt) := by
  have zero : (0 : Float).toModel.unpack = .zero .positive := rfl
  rw [compare?, zero]
  rcases Nat.eq_zero_or_pos n with rfl | positive
  · rfl
  · rw [if_neg positive.ne']
    rcases unpack_ofNat_of_pos positive with infinite | ⟨m, e, positive, finite⟩
    · rw [infinite]
      rfl
    · rw [finite]
      rfl

theorem not_ofNat_lt_zero (n : Nat) : ¬ Float.ofNat n < 0 := by
  rw [lt_iff, compare?_ofNat_zero]
  split <;> simp

theorem ofNat_beq_zero (n : Nat) : (Float.ofNat n == 0) = (n == 0) := by
  rw [beq_eq, compare?_ofNat_zero, Bool.eq_iff_iff, beq_iff_eq, beq_iff_eq]
  split <;> simp_all

theorem ofNat_beq_negOne (n : Nat) : (Float.ofNat n == -1) = false := by
  have negative : (-1 : Float).toModel.unpack = .finite .negative (2 ^ 52) (-52) (by decide) := rfl
  rw [beq_eq, compare?, negative]
  rcases Nat.eq_zero_or_pos n with rfl | positive
  · rfl
  · rcases unpack_ofNat_of_pos positive with infinite | ⟨m, e, positive, finite⟩
    · rw [infinite]
      rfl
    · rw [finite]
      rfl

/-! ## Truncation -/

theorem toUInt64_eq (x : Float) :
    x.toUInt64.toNat = (UInt64.ofNatClamp (toInt 0 (UInt64.size - 1) x.toModel.unpack).toNat).toNat := rfl

theorem toUInt64_ofNat {n : Nat} (small : n < 2 ^ 53) : (Float.ofNat n).toUInt64.toNat = n := by
  rcases Nat.eq_zero_or_pos n with rfl | positive
  · rfl
  have short := log2_le small
  have amount : ((n.log2 : Int) - 52 - 0).toNat = 0 := by omega
  have amount' : (0 - ((n.log2 : Int) - 52 - (0 : Nat))).toNat = 52 - n.log2 := by omega
  have rounded : roundToInt .positive (n * 2 ^ (52 - n.log2)) (n.log2 - 52) = n := by
    rw [roundToInt, decreaseExponent]
    simp only [amount, Nat.shiftLeft_zero, shiftToExponent, amount',
      ExtendedMantissa.ofMantissaAndAccuracy, shiftRight_exact, Sign.apply]
  rw [toUInt64_eq, unpack_ofNat small, whole_of_pos positive, toInt, rounded, Int.toNat_natCast]
  exact UInt64.toNat_ofNatClamp_of_lt (Nat.lt_trans small (by decide))

theorem le_toUInt64_ofNat {n : Nat} (large : 2 ^ 53 ≤ n) : 2 ^ 53 ≤ (Float.ofNat n).toUInt64.toNat := by
  have clamped {k : Nat} (above : 2 ^ 53 ≤ k) : 2 ^ 53 ≤ (UInt64.ofNatClamp k).toNat := by
    rcases Nat.lt_or_ge k UInt64.size with below | beyond
    · rwa [UInt64.toNat_ofNatClamp_of_lt below]
    · rw [UInt64.toNat_ofNatClamp_of_le beyond]
      decide
  rw [toUInt64_eq]
  refine clamped ?_
  rcases unpack_ofNat_large large with infinite | ⟨m, e, positive, finite, normal, raised⟩
  · rw [infinite]
    decide
  · obtain ⟨k, rfl⟩ : ∃ k : Nat, e = (k + 1 : Nat) := ⟨(e - 1).toNat, by omega⟩
    have amount : (((k + 1 : Nat) : Int) - 0).toNat = k + 1 := by omega
    have amount' : (0 - (((k + 1 : Nat) : Int) - (k + 1 : Nat))).toNat = 0 := by omega
    have truncated : roundToInt .positive m (k + 1 : Nat) = (m * 2 ^ (k + 1) : Nat) := by
      rw [roundToInt, decreaseExponent]
      simp only [amount, shiftToExponent, amount', Nat.shiftLeft_eq]
      rfl
    rw [finite, toInt, truncated, Int.toNat_natCast]
    calc
      2 ^ 53 = 2 ^ 52 * 2 ^ 1 := rfl
      _ ≤ m * 2 ^ (k + 1) :=
        Nat.mul_le_mul normal.1 (Nat.pow_le_pow_right (by decide) (Nat.le_add_left 1 k))

end TargetingRules.Number
