import ParenCalc.Proofs.Decimal.Double

/-! # Sums of doubles and the negative zero

A sum is computed exactly and then rounded. The exact sum of two finite doubles is a whole number of
units, so rounding makes a zero of it only where it is zero already, and then a positive one. So only
two negative zeros have the negative zero for sum, and adding to zero changes no other double.
-/

namespace ParenCalc.Decimal

open Float.Model (Format UnpackedFloat totalExponent)
open Float.Model.UnpackedFloat

/-! ## Rounding -/

theorem shiftRight_mantissa (extended : ExtendedMantissa) (count : Nat) :
    (extended >>> count).mantissa = extended.mantissa / 2 ^ count := by
  change (count.repeat ExtendedMantissa.shiftRightOne extended).mantissa = _
  induction count with
  | zero => exact (Nat.div_one _).symm
  | succ count ih =>
    rw [Nat.repeat, ExtendedMantissa.shiftRightOne, ih, Nat.div_div_eq_div_mul, Nat.pow_succ]

/-- A mantissa in units or coarser is shifted until it has no more than 53 bits. -/
theorem target_shift (mantissa : Nat) {exponent : Int} (least : -1074 ≤ exponent) :
    (Format.binary64.targetExponent (totalExponent mantissa exponent) - exponent).toNat =
      mantissa.log2 - 52 := by
  change (max ((mantissa.log2 : Int) + 1 + exponent - 53) (-1074) - exponent).toNat = _
  omega

theorem shifted_mantissa (mantissa : Nat) {exponent : Int} (least : -1074 ≤ exponent)
    (accuracy : Accuracy) :
    (shiftToTargetExponent .binary64 mantissa exponent accuracy).1.mantissa =
      mantissa / 2 ^ (mantissa.log2 - 52) := by
  have whole : (ExtendedMantissa.ofMantissaAndAccuracy mantissa accuracy).mantissa = mantissa := by
    cases accuracy with
    | exact => rfl
    | inexact order => cases order <;> rfl
  rw [shiftToTargetExponent, shiftToExponent, target_shift mantissa least, shiftRight_mantissa, whole]

theorem le_shifted_exponent (mantissa : Nat) (exponent : Int) (accuracy : Accuracy) :
    exponent ≤ (shiftToTargetExponent .binary64 mantissa exponent accuracy).2 := by
  rw [shiftToTargetExponent, shiftToExponent]
  omega

theorem leading_bits_pos {mantissa : Nat} (positive : 0 < mantissa) :
    0 < mantissa / 2 ^ (mantissa.log2 - 52) := by
  apply Nat.div_pos _ (Nat.two_pow_pos _)
  calc
    2 ^ (mantissa.log2 - 52) ≤ 2 ^ mantissa.log2 := Nat.pow_le_pow_right Nat.two_pos (Nat.sub_le ..)
    _ ≤ mantissa := Nat.log2_self_le (Nat.ne_of_gt positive)

theorem leading_bits_lt (mantissa : Nat) : mantissa / 2 ^ (mantissa.log2 - 52) < 2 ^ 53 := by
  rw [Nat.div_lt_iff_lt_mul (Nat.two_pow_pos _), ← Nat.pow_add]
  calc
    mantissa < 2 ^ (mantissa.log2 + 1) := Nat.lt_log2_self
    _ ≤ 2 ^ (53 + (mantissa.log2 - 52)) := Nat.pow_le_pow_right Nat.two_pos (by omega)

/-- Rounding to the nearest mantissa never goes below the bits that are kept. -/
theorem le_roundedMantissa (extended : ExtendedMantissa) :
    extended.mantissa ≤ extended.roundedMantissa := by
  unfold ExtendedMantissa.roundedMantissa
  cases extended.accuracy with
  | exact => exact Nat.le_refl _
  | inexact order =>
    cases order with
    | lt => exact Nat.le_refl _
    | eq => exact Nat.le_add_right ..
    | gt => exact Nat.le_succ _

/-- What doubles are unpacked to: mantissas of at most 53 bits, in units or coarser. -/
def Fits : UnpackedFloat → Prop
  | .finite _ mantissa exponent _ => mantissa < 2 ^ 53 ∧ -1074 ≤ exponent
  | _ => True

/-- A mantissa that is not zero is rounded to one that is not zero, and fits. -/
theorem exists_roundWithAccuracy (sign : Sign) {mantissa : Nat} (positive : 0 < mantissa)
    {exponent : Int} (least : -1074 ≤ exponent) (accuracy : Accuracy) :
    ∃ rounded final, ∃ kept : 0 < rounded,
      roundWithAccuracy .binary64 sign mantissa exponent accuracy = .finite sign rounded final kept ∧
        Fits (.finite sign rounded final kept) := by
  unfold roundWithAccuracy
  have first := shifted_mantissa mantissa least accuracy
  have higher := le_shifted_exponent mantissa exponent accuracy
  generalize shiftToTargetExponent .binary64 mantissa exponent accuracy = shifted at first higher
  obtain ⟨extended, above⟩ := shifted
  have bound : -1074 ≤ above := Int.le_trans least higher
  have inhabited : 0 < extended.roundedMantissa := by
    apply Nat.lt_of_lt_of_le _ (le_roundedMantissa extended)
    rw [first]
    exact leading_bits_pos positive
  -- rounding may have made a bit too much, so there is a second shift
  have second := shifted_mantissa extended.roundedMantissa bound .exact
  have highest := le_shifted_exponent extended.roundedMantissa above .exact
  dsimp only
  generalize shiftToTargetExponent .binary64 extended.roundedMantissa above .exact = final
    at second highest
  have kept : 0 < final.1.mantissa := by
    rw [second]
    exact leading_bits_pos inhabited
  refine ⟨final.1.mantissa, final.2, kept, dif_neg (Nat.ne_of_gt kept), ?_, ?_⟩
  · rw [second]
    exact leading_bits_lt _
  · exact Int.le_trans bound highest

theorem exists_round (sign : Sign) {mantissa : Nat} (positive : 0 < mantissa) {exponent : Int}
    (least : -1074 ≤ exponent) :
    ∃ rounded final, ∃ kept : 0 < rounded,
      UnpackedFloat.round .binary64 sign mantissa exponent = .finite sign rounded final kept ∧
        Fits (.finite sign rounded final kept) := by
  unfold UnpackedFloat.round decreaseExponent
  dsimp only
  apply exists_roundWithAccuracy
  · rw [Nat.shiftLeft_eq]
    exact Nat.mul_pos positive (Nat.two_pow_pos _)
  · change _ ≤ exponent - (exponent - max (totalExponent mantissa exponent - 53) (-1074)).toNat
    omega

/-- A sum in units or coarser is rounded to what fits, and a zero that comes out is not negative. -/
theorem fits_normalize (mantissa : Int) {exponent : Int} (least : -1074 ≤ exponent) :
    Fits (UnpackedFloat.normalize .binary64 mantissa exponent .positive) ∧
      UnpackedFloat.normalize .binary64 mantissa exponent .positive ≠ .zero .negative := by
  unfold UnpackedFloat.normalize
  split
  · next below =>
    have negative := Int.compare_eq_lt.mp below
    have size : 0 < (-mantissa).toNat := by omega
    obtain ⟨rounded, final, kept, result, fits⟩ := exists_round .negative size least
    rw [result]
    exact ⟨fits, nofun⟩
  · exact ⟨trivial, nofun⟩
  · next above =>
    have positive := Int.compare_eq_gt.mp above
    have size : 0 < mantissa.toNat := by omega
    obtain ⟨rounded, final, kept, result, fits⟩ := exists_round .positive size least
    rw [result]
    exact ⟨fits, nofun⟩

/-! ## Sums -/

theorem fits_unpack (bits : Pattern) : Fits (unpack .binary64 bits) := by
  obtain ⟨-, -, infinite⟩ | ⟨-, -, undefined⟩ | ⟨-, -, nothing⟩ | ⟨-, positive, subnormal⟩ |
    ⟨first, -, positive, normal⟩ := unpack_cases bits
  · exact infinite ▸ trivial
  · exact undefined ▸ trivial
  · exact nothing ▸ trivial
  · have fraction := (unpackMantissa bits).isLt
    change (unpackMantissa bits).toNat < 2 ^ 52 at fraction
    rw [subnormal]
    exact ⟨by omega, Int.le_refl _⟩
  · rw [normal]
    exact ⟨(1#1 ++ unpackMantissa bits).isLt, by omega⟩

/-- A number that fits is packed with an exponent field or a fraction that is not zero. -/
theorem pack_finite_ne_packedZero {sign other : Sign} {mantissa : Nat} {exponent : Int}
    {positive : 0 < mantissa} (fits : Fits (.finite sign mantissa exponent positive)) :
    UnpackedFloat.pack .binary64 (.finite sign mantissa exponent positive) ≠
      packedZero .binary64 other := by
  obtain ⟨small, least⟩ := fits
  intro zero
  have field := congrArg unpackExponent zero
  have fraction := congrArg unpackMantissa zero
  rw [packedZero, unpackExponent_packComponents] at field
  rw [packedZero, unpackMantissa_packComponents] at fraction
  rw [pack_finite] at field fraction
  split at field
  · rw [packedInfinity, unpackExponent_packComponents] at field
    exact absurd field (by decide)
  · next finite =>
    split at field
    · -- the exponent field counts from the least exponent, which has the field one
      rw [unpackExponent_packComponents] at field
      have value := congrArg BitVec.toNat field
      change (exponent + 1023 + 52).toNat % 2048 = 0 at value
      omega
    · next short =>
      rw [if_neg finite, if_neg short, unpackMantissa_packComponents] at fraction
      have value := congrArg BitVec.toNat fraction
      change mantissa % 2 ^ 52 = 0 at value
      have size : mantissa.log2 < 53 := (Nat.log2_lt (Nat.ne_of_gt positive)).mpr small
      have bits : mantissa < 2 ^ 52 := (Nat.log2_lt (Nat.ne_of_gt positive)).mp (by omega)
      omega

/-- Only a zero is packed as a zero. -/
theorem eq_zero_of_pack {parts : UnpackedFloat} (fits : Fits parts) {sign : Sign}
    (zero : UnpackedFloat.pack .binary64 parts = packedZero .binary64 sign) : parts = .zero sign := by
  cases parts with
  | notANumber => cases sign <;> exact absurd zero (by decide)
  | infinity other => cases other <;> cases sign <;> exact absurd zero (by decide)
  | zero other =>
    cases other <;> cases sign
    · rfl
    · exact absurd zero (by decide)
    · exact absurd zero (by decide)
    · rfl
  | finite other mantissa exponent positive => exact absurd zero (pack_finite_ne_packedZero fits)

/-- A sum of what fits does fit, and only two negative zeros have a negative zero for sum. -/
theorem fits_add {first second : UnpackedFloat} (left : Fits first) (right : Fits second) :
    Fits (.add .binary64 first second) ∧
      (UnpackedFloat.add .binary64 first second = .zero .negative →
        first = .zero .negative ∧ second = .zero .negative) := by
  fun_cases UnpackedFloat.add .binary64 first second with
  | case1 | case2 | case3 | case4 | case5 | case6 | case8 => exact ⟨trivial, nofun⟩
  | case7 sign other equal =>
    refine ⟨trivial, ?_⟩
    rintro ⟨⟩
    cases other with
    | negative => exact ⟨rfl, rfl⟩
    | positive => cases equal
  | case9 _ _ _ _ notZero => exact ⟨right, fun same => absurd same (notZero _)⟩
  | case10 _ _ _ _ notZero => exact ⟨left, fun same => absurd same (notZero _)⟩
  | case11 sign mantissa exponent _ other mantissa' exponent' _ least =>
    have units : -1074 ≤ least := Int.le_min.mpr ⟨left.2, right.2⟩
    obtain ⟨fits, notNegative⟩ := fits_normalize _ units
    exact ⟨fits, fun same => absurd same notNegative⟩

/-- The double with the given sign, mantissa and exponent. -/
def packed (parts : UnpackedFloat) : Float := ⟨Float.Model.pack parts⟩

theorem packed_unpacked (x : Float) : packed (unpacked x) = x := ofBits_toBits x

/-- The zero with a minus sign. -/
def negativeZero : Float := ofMagnitude true 0

theorem packed_zero_negative : packed (.zero .negative) = negativeZero := by decide

theorem eq_negativeZero_of_unpacked {x : Float} (zero : unpacked x = .zero .negative) :
    x = negativeZero := by
  rw [← packed_unpacked x, zero, packed_zero_negative]

/-- Only two negative zeros have the negative zero for sum. -/
theorem add_eq_negativeZero {x y : Float} (sum : x + y = negativeZero) :
    x = negativeZero ∧ y = negativeZero := by
  obtain ⟨fits, both⟩ := fits_add (fits_unpack x.toBits.toBitVec) (fits_unpack y.toBits.toBitVec)
  have bits := congrArg (fun z : Float => z.toBits.toBitVec) sum
  obtain ⟨left, right⟩ := both (eq_zero_of_pack fits bits)
  exact ⟨eq_negativeZero_of_unpacked left, eq_negativeZero_of_unpacked right⟩

/-- Adding to zero changes no double but the negative zero. -/
theorem zero_add_of_ne {x : Float} (other : x ≠ negativeZero) : 0 + x = x := by
  have sum : 0 + x = packed (.add .binary64 (.zero .positive) (unpacked x)) := rfl
  rw [sum]
  conv =>
    rhs
    rw [← packed_unpacked x]
  congr 1
  cases parts : unpacked x with
  | notANumber => rfl
  | infinity sign => rfl
  | finite sign mantissa exponent positive => rfl
  | zero sign =>
    cases sign with
    | positive => rfl
    | negative => exact absurd (eq_negativeZero_of_unpacked parts) other

end ParenCalc.Decimal
