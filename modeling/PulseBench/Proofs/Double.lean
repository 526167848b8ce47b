import Mathlib
import PulseBench.Proofs.Lawful
import PulseBench.Scalar.Double

/-!
# Laws of doubles

Doubles obey the laws of `Scalar.Lawful`. A double is an unpacked sign, mantissa and
exponent; operations calculate with these, round them and pack them again.

Results:
1. `Double.mul_one`: a product with one has trailing zeros only, and nothing is rounded.
2. `Double.ofInt_lt_one`: packing keeps the sign, and negative numbers are below one.
-/

namespace PulseBench

open Float.Model (Format totalExponent UnpackedFloat)
open Float.Model.UnpackedFloat

namespace Double

/-! ## 1. Products with one -/

/-- The mantissa is as long as it can be for its exponent. -/
def Canonical (m : Nat) (e : Int) : Prop :=
  Format.binary64.targetExponent (totalExponent m e) = e

theorem targetExponent_eq (t : Int) : Format.binary64.targetExponent t = max (t - 53) (-1074) := rfl

theorem canonical_unpack {b : BitVec Format.binary64.numBits} {s : Sign} {m : Nat} {e : Int}
    {pos : 0 < m} (h : unpack Format.binary64 b = .finite s m e pos) : Canonical m e := by
  unfold Canonical
  rw [targetExponent_eq, totalExponent]
  revert h
  have bias : (Format.binary64.exponentBias : Int) = 1023 := rfl
  fun_cases unpack with
  | case1 => exact nofun
  | case2 => exact nofun
  | case3 => exact nofun
  | case4 mantissa field exponent _ _ _ empty _ =>
    -- A subnormal number has the least exponent, and a mantissa of any length.
    rw [UnpackedFloat.finite.injEq]
    rintro ⟨-, rfl, rfl⟩
    have short : mantissa.toNat.log2 < 52 := (Nat.log2_lt pos.ne').mpr mantissa.isLt
    have zero : field.toNat = 0 := by rw [empty]; rfl
    simp only [exponent, zero, bias]
    omega
  | case5 mantissa field exponent _ _ _ nonempty =>
    -- A normal number has a mantissa of full length.
    rw [UnpackedFloat.finite.injEq]
    rintro ⟨-, rfl, rfl⟩
    have leading : (1#1 ++ mantissa).toNat = 2 ^ 52 + mantissa.toNat := by
      rw [BitVec.toNat_append, ← Nat.shiftLeft_add_eq_or_of_lt mantissa.isLt]
      rfl
    have full : (1#1 ++ mantissa).toNat.log2 = 52 := by
      rw [leading, Nat.log2_eq_iff (by omega)]
      have below : mantissa.toNat < 2 ^ 52 := mantissa.isLt
      exact ⟨by omega, by omega⟩
    have positive : field.toNat ≠ 0 := fun zero => nonempty (BitVec.eq_of_toNat_eq zero)
    rw [full]
    simp only [exponent, bias]
    omega

/-- Zeros that are shifted out leave no trace. -/
theorem shiftRight_shifted (m k : Nat) :
    (⟨m * 2 ^ k, false, false⟩ : ExtendedMantissa) >>> k = ⟨m, false, false⟩ := by
  change k.repeat ExtendedMantissa.shiftRightOne _ = _
  induction k generalizing m with
  | zero => simp [Nat.repeat]
  | succ k ih =>
    rw [Nat.repeat, pow_succ', ← mul_assoc, ih]
    simp [ExtendedMantissa.shiftRightOne]

theorem totalExponent_shifted {m : Nat} (pos : 0 < m) (e : Int) (k : Nat) :
    totalExponent (m * 2 ^ k) (e - k) = totalExponent m e := by
  have longer : (m * 2 ^ k).log2 = m.log2 + k := by
    have atLeast := Nat.log2_self_le pos.ne'
    have below := @Nat.lt_log2_self m
    rw [Nat.log2_eq_iff (by positivity)]
    constructor
    · rw [pow_add]
      gcongr
    · rw [add_right_comm, pow_add]
      gcongr
  rw [totalExponent, totalExponent, longer]
  omega

theorem shiftToTargetExponent_shifted {m : Nat} {e : Int} (canonical : Canonical m e)
    (pos : 0 < m) (k : Nat) :
    shiftToTargetExponent Format.binary64 (m * 2 ^ k) (e - k) .exact = (⟨m, false, false⟩, e) := by
  have amount : (e - (e - k)).toNat = k := by omega
  rw [shiftToTargetExponent, totalExponent_shifted pos, canonical, shiftToExponent, amount,
    ExtendedMantissa.ofMantissaAndAccuracy, shiftRight_shifted, sub_add_cancel]

/-- Nothing is rounded if only zeros have to go. -/
theorem roundWithAccuracy_shifted (s : Sign) {m : Nat} {e : Int} (canonical : Canonical m e)
    (pos : 0 < m) (k : Nat) :
    roundWithAccuracy Format.binary64 s (m * 2 ^ k) (e - k) .exact = .finite s m e pos := by
  have again : shiftToTargetExponent Format.binary64 m e .exact = (⟨m, false, false⟩, e) := by
    have unshifted := shiftToTargetExponent_shifted canonical pos 0
    rwa [pow_zero, Nat.mul_one, Nat.cast_zero, sub_zero] at unshifted
  have kept : (⟨m, false, false⟩ : ExtendedMantissa).roundedMantissa = m := rfl
  simp only [roundWithAccuracy, shiftToTargetExponent_shifted canonical pos k, kept, again]
  exact dif_neg pos.ne'

/-- One, as rules write it. -/
def one : Float := @OfScientific.ofScientific Float Scalar.toOfScientific 10 true 1

theorem unpack_of_oneBits (x : Float) (bits : x.toModel.toBits = 0x3ff0000000000000) :
    x.toModel.unpack = .finite .positive (2 ^ 52) (-52) (by decide) := by
  rw [Float.Model.unpack, bits]
  rfl

theorem mul_one (x : Float) : x * one = x := by
  have unit := unpack_of_oneBits one (by decide +kernel)
  have kept : UnpackedFloat.mul Format.binary64 x.toModel.unpack one.toModel.unpack =
      x.toModel.unpack := by
    have positive (s : Sign) : s * Sign.positive = s := by cases s <;> rfl
    rw [unit]
    cases parts : x.toModel.unpack with
    | notANumber => rfl
    | infinity s => exact congrArg UnpackedFloat.infinity (positive s)
    | zero s => exact congrArg UnpackedFloat.zero (positive s)
    | finite s m e pos =>
      refine Eq.trans ?_ (roundWithAccuracy_shifted s (canonical_unpack parts) pos 52)
      rw [UnpackedFloat.mul, positive]
      rfl
  rw [← Float.toBits_inj, ← UInt64.toBitVec_inj]
  change pack Format.binary64
    (UnpackedFloat.mul Format.binary64 x.toModel.unpack one.toModel.unpack) = x.toModel.toBits.toBitVec
  rw [kept]
  exact pack_unpack_of_valid x.toModel.valid

/-! ## 2. Signs -/

/-- The sign of what is a number. -/
def sign? : UnpackedFloat → Option Sign
  | .notANumber => none
  | .infinity s | .zero s | .finite s .. => some s

theorem sign?_neg (u : UnpackedFloat) : sign? u.neg = (sign? u).map (-·) := by
  cases u <;> rfl

/-- Bits stand for a number unless their exponent is the greatest and there is a mantissa. -/
theorem sign?_unpack {b : BitVec Format.binary64.numBits}
    (number : unpackExponent b = -1#_ → unpackMantissa b = 0#_) :
    sign? (unpack Format.binary64 b) = some (Sign.ofBitVec (unpackSign b)) := by
  unfold unpack
  dsimp only
  split
  · rename_i full
    rw [if_pos (number full)]
    rfl
  · split
    · split <;> rfl
    · rfl

theorem exists_components {u : UnpackedFloat} {s : Sign} (signed : sign? u = some s) :
    ∃ e m, (e = -1#_ → m = 0#_) ∧
      pack Format.binary64 u = packComponents Format.binary64 s e m := by
  cases u with
  | notANumber => cases signed
  | infinity _ =>
    cases signed
    exact ⟨-1#_, 0#_, fun _ => rfl, rfl⟩
  | zero _ =>
    cases signed
    exact ⟨0#_, 0#_, fun _ => rfl, rfl⟩
  | finite _ m e pos =>
    cases signed
    unfold pack
    dsimp only
    split
    · exact ⟨-1#_, 0#_, fun _ => rfl, rfl⟩
    · rename_i fits
      split
      · refine ⟨_, _, fun full => ?_, rfl⟩
        have same := congrArg BitVec.toNat full
        change _ % 2 ^ 11 = 2047 at same
        change ¬ 2 ^ 11 ≤ _ at fits
        omega
      · exact ⟨_, _, fun full => absurd full (by decide), rfl⟩

theorem sign?_unpack_pack {u : UnpackedFloat} {s : Sign} (signed : sign? u = some s) :
    sign? (unpack Format.binary64 (pack Format.binary64 u)) = some s := by
  obtain ⟨e, m, number, packed⟩ := exists_components signed
  rw [packed, sign?_unpack, unpackSign_packComponents, Sign.ofBitVec_toBitVec]
  rwa [unpackExponent_packComponents, unpackMantissa_packComponents]

theorem sign?_round (s : Sign) (m : Nat) (e : Int) :
    sign? (UnpackedFloat.round Format.binary64 s m e) = some s := by
  unfold UnpackedFloat.round roundWithAccuracy
  dsimp only
  split <;> rfl

theorem sign?_toFloat (n : UInt64) : sign? n.toFloat.toModel.unpack = some .positive := by
  refine sign?_unpack_pack ?_
  change sign? (UnpackedFloat.normalize Format.binary64 (n.toNat : Int) 0 .positive) = _
  unfold UnpackedFloat.normalize
  split
  · rename_i below
    rw [compare_lt_iff_lt] at below
    omega
  · rfl
  · exact sign?_round _ _ _

theorem sign?_toDouble {d : Decimal.Dyadic} (notNegative : d.negative = false) :
    sign? d.toDouble.toModel.unpack = some .positive := by
  refine sign?_unpack_pack ?_
  rw [notNegative]
  obtain ⟨n, least, same⟩ : ∃ n ≤ 2047 * 2 ^ 52,
      min ((d.exponent - Decimal.Dyadic.leastExponent).toNat * Decimal.Dyadic.leadingBit + d.mantissa)
        Decimal.infinityBits = n := ⟨_, Nat.min_le_right _ _, rfl⟩
  simp only [same, Bool.false_eq_true, if_false]
  have value : n.toUInt64.toBitVec.toNat = n := by
    change n % 2 ^ 64 = n
    omega
  rw [sign?_unpack]
  · have sign : @unpackSign Format.binary64 n.toUInt64.toBitVec = 0#1 := by
      refine BitVec.eq_of_toNat_eq ?_
      rw [unpackSign_def, BitVec.extractLsb'_toNat]
      change n.toUInt64.toBitVec.toNat >>> 63 % 2 ^ 1 = 0
      rw [value, Nat.shiftRight_eq_div_pow]
      omega
    rw [sign]
    rfl
  · intro full
    have exponent := congrArg BitVec.toNat full
    rw [unpackExponent_def, BitVec.extractLsb'_toNat] at exponent
    change n.toUInt64.toBitVec.toNat >>> 52 % 2 ^ 11 = 2047 at exponent
    refine BitVec.eq_of_toNat_eq ?_
    rw [unpackMantissa_def, BitVec.extractLsb'_toNat]
    change n.toUInt64.toBitVec.toNat >>> 0 % 2 ^ 52 = 0
    rw [value, Nat.shiftRight_eq_div_pow] at *
    omega

theorem sign?_ofNat (n : Nat) : sign? (ofNat n).toModel.unpack = some .positive := by
  unfold ofNat
  split
  · exact sign?_toFloat _
  · unfold Decimal.double
    dsimp only
    split
    · exact eq_of_beq (by decide +kernel)
    · split
      · exact eq_of_beq (by decide +kernel)
      · exact sign?_toDouble rfl

theorem lt_one {x : Float} (negative : sign? x.toModel.unpack = some .negative) :
    x < ofInt 1 := by
  change decide (Float.Model.UnpackedFloat.lt x.toModel.unpack (ofInt 1).toModel.unpack = true) = true
  rw [unpack_of_oneBits (ofInt 1) (by decide +kernel), decide_eq_true_iff]
  cases parts : x.toModel.unpack with
  | notANumber => rw [parts] at negative; cases negative
  | infinity s => rw [parts] at negative; cases negative; rfl
  | zero s => rw [parts] at negative; cases negative; rfl
  | finite s m e pos => rw [parts] at negative; cases negative; rfl

theorem ofInt_lt_one (n : Int) (notPositive : n ≤ 0) : ofInt n < ofInt 1 := by
  cases n with
  | ofNat n =>
    obtain rfl : n = 0 := Nat.le_zero.mp (Int.ofNat_le.mp notPositive)
    decide +kernel
  | negSucc n =>
    refine lt_one (sign?_unpack_pack ?_)
    rw [sign?_neg]
    exact congrArg (Option.map (-·)) (sign?_ofNat (n + 1))

end Double

instance : Scalar.Lawful Float where
  mul_one := Double.mul_one
  ofInt_lt_one := Double.ofInt_lt_one

end PulseBench
