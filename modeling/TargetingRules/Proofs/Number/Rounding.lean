import Mathlib
import TargetingRules.Number.Binary

/-!
# Rounding of mantissas

A positive number in its parts is a mantissa of fifty-three binary digits times a power of two. Rounding
shortens a longer mantissa to so many digits. Nothing is lost if the digits that go are zero; otherwise the
number stays at least as large as the digits that are left say. Parts that are rounded can be packed into
the bits of a number and read off again, and too large ones become infinity.
-/

namespace TargetingRules.Number

open Float.Model (Format totalExponent)
open Float.Model.UnpackedFloat

/-! ## Digits -/

theorem log2_mul_two_pow {n : Nat} (positive : 0 < n) (k : Nat) : (n * 2 ^ k).log2 = n.log2 + k := by
  rw [Nat.log2_eq_iff (by positivity)]
  constructor
  · rw [Nat.pow_add]
    exact Nat.mul_le_mul_right _ (Nat.log2_self_le (by omega))
  · rw [Nat.add_right_comm, Nat.pow_add]
    exact Nat.mul_lt_mul_of_pos_right Nat.lt_log2_self (Nat.two_pow_pos k)

/-- A mantissa of fifty-three digits. -/
def IsNormal (m : Nat) : Prop :=
  2 ^ 52 ≤ m ∧ m < 2 ^ 53

theorem isNormal_iff_log2 {m : Nat} (positive : 0 < m) : IsNormal m ↔ m.log2 = 52 :=
  (Nat.log2_eq_iff (by omega)).symm

theorem IsNormal.pos {m : Nat} (normal : IsNormal m) : 0 < m :=
  Nat.lt_of_lt_of_le (Nat.two_pow_pos 52) normal.1

theorem targetExponent_eq (total : Int) :
    Format.binary64.targetExponent total = max (total - 53) (-1074) := rfl

/-- What a mantissa with `k` digits too many is shortened by. -/
theorem targetExponent_of_log2 {m k : Nat} {e : Int} (log : m.log2 = 52 + k) (least : -1074 ≤ e + k) :
    Format.binary64.targetExponent (totalExponent m e) = e + k := by
  rw [targetExponent_eq, totalExponent, log]
  omega

/-! ## Shifting -/

theorem shiftRight_exact (m k : Nat) :
    (⟨m * 2 ^ k, false, false⟩ : ExtendedMantissa) >>> k = ⟨m, false, false⟩ := by
  change Nat.repeat ExtendedMantissa.shiftRightOne k _ = _
  induction k generalizing m with
  | zero => simp only [Nat.repeat, Nat.pow_zero, Nat.mul_one]
  | succ k ih =>
    rw [Nat.repeat, Nat.pow_succ', ← Nat.mul_assoc, ih]
    simp [ExtendedMantissa.shiftRightOne]

theorem mantissa_shiftRight (em : ExtendedMantissa) (k : Nat) :
    (em >>> k).mantissa = em.mantissa / 2 ^ k := by
  change (Nat.repeat ExtendedMantissa.shiftRightOne k em).mantissa = _
  induction k with
  | zero => rw [Nat.repeat, Nat.pow_zero, Nat.div_one]
  | succ k ih => rw [Nat.repeat, ExtendedMantissa.shiftRightOne, ih, Nat.div_div_eq_div_mul, Nat.pow_succ]

theorem roundedMantissa_between (em : ExtendedMantissa) :
    em.mantissa ≤ em.roundedMantissa ∧ em.roundedMantissa ≤ em.mantissa + 1 := by
  obtain ⟨m, half, rest⟩ := em
  cases half <;> cases rest <;>
    simp only [ExtendedMantissa.roundedMantissa, ExtendedMantissa.accuracy,
      Accuracy.roundToNearestEven] <;>
    omega

theorem shiftToTargetExponent_eq {m k : Nat} {e : Int} (log : m.log2 = 52 + k)
    (least : -1074 ≤ e + k) :
    shiftToTargetExponent .binary64 m e .exact =
      ((⟨m, false, false⟩ : ExtendedMantissa) >>> k, e + k) := by
  have amount : (e + k - e).toNat = k := by omega
  rw [shiftToTargetExponent, targetExponent_of_log2 log least, shiftToExponent]
  simp only [amount, ExtendedMantissa.ofMantissaAndAccuracy]

theorem shiftToTargetExponent_exact {m : Nat} (normal : IsNormal m) {k : Nat} {e : Int}
    (least : -1074 ≤ e + k) :
    shiftToTargetExponent .binary64 (m * 2 ^ k) e .exact = (⟨m, false, false⟩, e + k) := by
  have log : (m * 2 ^ k).log2 = 52 + k := by
    rw [log2_mul_two_pow normal.pos, (isNormal_iff_log2 normal.pos).mp normal]
  rw [shiftToTargetExponent_eq log least, shiftRight_exact]

theorem shiftToTargetExponent_normal {m : Nat} (normal : IsNormal m) {e : Int} (least : -1074 ≤ e) :
    shiftToTargetExponent .binary64 m e .exact = (⟨m, false, false⟩, e) := by
  have shifted := shiftToTargetExponent_exact normal (k := 0) (e := e) (by omega)
  rwa [Nat.pow_zero, Nat.mul_one, Nat.cast_zero, Int.add_zero] at shifted

/-! ## Rounding -/

/-- Zeros at the end of a mantissa can go. -/
theorem roundWithAccuracy_exact (s : Sign) {m : Nat} (normal : IsNormal m) {k : Nat} {e : Int}
    (least : -1074 ≤ e + k) :
    roundWithAccuracy .binary64 s (m * 2 ^ k) e .exact = .finite s m (e + k) normal.pos := by
  rw [roundWithAccuracy, shiftToTargetExponent_exact normal least]
  simp only [ExtendedMantissa.roundedMantissa, ExtendedMantissa.accuracy, Accuracy.roundToNearestEven,
    shiftToTargetExponent_normal normal least]
  rw [dif_neg normal.pos.ne']

/-- Whatever the digits are that go, there are fifty-three left, and the power of two has grown by as many
as have gone, at least. -/
theorem exists_roundWithAccuracy (s : Sign) {m k : Nat} {e : Int} (log : m.log2 = 52 + k)
    (least : -1074 ≤ e + k) :
    ∃ r e' positive, roundWithAccuracy .binary64 s m e .exact = .finite s r e' positive ∧
      IsNormal r ∧ e + k ≤ e' := by
  have first := shiftToTargetExponent_eq log least
  have digits : IsNormal (m / 2 ^ k) := by
    have positive : m ≠ 0 := by
      rintro rfl
      rw [Nat.log2_zero] at log
      omega
    have bounds := (Nat.log2_eq_iff positive).mp log
    rw [Nat.add_right_comm, Nat.pow_add, Nat.pow_add] at bounds
    exact ⟨(Nat.le_div_iff_mul_le (Nat.two_pow_pos k)).mpr bounds.1,
      (Nat.div_lt_iff_lt_mul (Nat.two_pow_pos k)).mpr bounds.2⟩
  have between := roundedMantissa_between ((⟨m, false, false⟩ : ExtendedMantissa) >>> k)
  rw [mantissa_shiftRight] at between
  rw [roundWithAccuracy, first]
  dsimp only at between ⊢
  generalize ((⟨m, false, false⟩ : ExtendedMantissa) >>> k).roundedMantissa = r at between ⊢
  rcases Nat.lt_or_ge r (2 ^ 53) with below | carried
  · have normal : IsNormal r := ⟨Nat.le_trans digits.1 between.1, below⟩
    simp only [shiftToTargetExponent_normal normal least]
    rw [dif_neg normal.pos.ne']
    exact ⟨r, e + k, normal.pos, rfl, normal, Int.le_refl _⟩
  · have normal : IsNormal (2 ^ 52) := ⟨Nat.le_refl _, by decide⟩
    obtain rfl : r = 2 ^ 52 * 2 ^ 1 := by
      have := digits.2
      omega
    simp only [shiftToTargetExponent_exact normal (k := 1) (e := e + k) (by omega)]
    rw [dif_neg normal.pos.ne']
    exact ⟨2 ^ 52, e + k + (1 : Nat), normal.pos, rfl, normal, by omega⟩

/-! ## Packing -/

theorem toNat_implicit (fraction : BitVec 52) : (1#1 ++ fraction).toNat = 2 ^ 52 + fraction.toNat := by
  rw [BitVec.toNat_append, ← Nat.shiftLeft_add_eq_or_of_lt fraction.isLt]
  rfl

theorem unpack_packComponents (s : Sign) {field fraction : Nat} (least : 0 < field) (most : field < 2047)
    (bound : fraction < 2 ^ 52) (positive : 0 < 2 ^ 52 + fraction) :
    unpack .binary64 (packComponents .binary64 s (BitVec.ofNat 11 field) (BitVec.ofNat 52 fraction)) =
      .finite s (2 ^ 52 + fraction) (field - 1075) positive := by
  have exponent : (BitVec.ofNat 11 field).toNat = field := by
    rw [BitVec.toNat_ofNat, Nat.mod_eq_of_lt (by omega)]
  have differs {n : Nat} (other : field ≠ n) (fits : n < 2 ^ 11) :
      BitVec.ofNat 11 field ≠ BitVec.ofNat 11 n := by
    intro same
    have := congrArg BitVec.toNat same
    rw [exponent, BitVec.toNat_ofNat, Nat.mod_eq_of_lt fits] at this
    exact other this
  have finite : BitVec.ofNat 11 field ≠ -1#11 := differs (n := 2047) (by omega) (by decide)
  have normal : BitVec.ofNat 11 field ≠ 0#11 := differs (n := 0) (by omega) (by decide)
  have mantissa : (1#1 ++ BitVec.ofNat 52 fraction).toNat = 2 ^ 52 + fraction := by
    rw [toNat_implicit, BitVec.toNat_ofNat, Nat.mod_eq_of_lt bound]
  unfold unpack
  simp only [unpackMantissa_packComponents, unpackExponent_packComponents, unpackSign_packComponents,
    Sign.ofBitVec_toBitVec, if_neg finite, if_neg normal, exponent, mantissa]
  rfl

/-- Rounded parts are not changed by packing. -/
theorem unpack_pack_normal (s : Sign) {m : Nat} (normal : IsNormal m) {e : Int} (least : -1074 ≤ e)
    (most : e ≤ 971) (positive : 0 < m) :
    (Float.Model.pack (.finite s m e positive)).unpack = .finite s m e positive := by
  obtain ⟨field, rfl⟩ : ∃ field : Nat, e = field - 1075 := ⟨(e + 1075).toNat, by omega⟩
  obtain ⟨fraction, rfl⟩ : ∃ fraction, m = 2 ^ 52 + fraction := ⟨m - 2 ^ 52, by have := normal.1; omega⟩
  have bound : fraction < 2 ^ 52 := by
    have := normal.2
    omega
  have biased : ((field : Int) - 1075 + Format.binary64.exponentBias +
      Format.binary64.mantissaBitsWithoutImplicit).toNat = field := by
    change ((field : Int) - 1075 + 1023 + 52).toNat = field
    omega
  have fits : ¬ 2 ^ Format.binary64.exponentBits ≤ field + 1 := by
    change ¬ 2 ^ 11 ≤ field + 1
    omega
  have hidden : BitVec.ofNat 52 (2 ^ 52 + fraction) = BitVec.ofNat 52 fraction := by
    apply BitVec.eq_of_toNat_eq
    rw [BitVec.toNat_ofNat, BitVec.toNat_ofNat, Nat.add_mod_left]
  have packed : pack .binary64 (.finite s (2 ^ 52 + fraction) (field - 1075) positive) =
      packComponents .binary64 s (BitVec.ofNat 11 field) (BitVec.ofNat 52 fraction) := by
    rw [← hidden, pack]
    simp only [biased, (isNormal_iff_log2 positive).mp normal]
    rw [if_neg fits, if_pos (show 52 + 1 = Format.binary64.mantissaBits from rfl)]
  change unpack .binary64 (pack .binary64 (.finite s (2 ^ 52 + fraction) (field - 1075) positive)) = _
  rw [packed]
  exact unpack_packComponents s (by omega) (by omega) bound positive

theorem unpack_pack_overflow (s : Sign) {m : Nat} {e : Int} (large : 971 < e) (positive : 0 < m) :
    (Float.Model.pack (.finite s m e positive)).unpack = .infinity s := by
  have full : 2 ^ Format.binary64.exponentBits ≤ (e + Format.binary64.exponentBias +
      Format.binary64.mantissaBitsWithoutImplicit).toNat + 1 := by
    change 2 ^ 11 ≤ (e + 1023 + 52).toNat + 1
    omega
  change unpack .binary64 (pack .binary64 (.finite s m e positive)) = _
  rw [pack]
  dsimp only
  rw [if_pos full]
  cases s <;> rfl

end TargetingRules.Number
