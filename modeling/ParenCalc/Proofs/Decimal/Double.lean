import Mathlib.Algebra.Group.Nat.Defs
import ParenCalc.Decimal.Nearest

/-! # Doubles and their bit patterns

A double is its bit pattern, except that all patterns of a NaN stand for one double. The three
fields of a pattern are quotients and remainders of it, so a double is recovered from its pattern,
and a double that is not a NaN from its sign and the pattern of its magnitude. Equality of doubles
looks at everything but the sign of a zero, and holds of no NaN.
-/

namespace ParenCalc.Decimal

open Float.Model (Format UnpackedFloat)
open Float.Model.UnpackedFloat

/-- The bit patterns of doubles. -/
abbrev Pattern := BitVec Format.binary64.numBits

theorem unpackMantissa_toNat (bits : Pattern) : (unpackMantissa bits).toNat = bits.toNat % 2 ^ 52 := by
  simp [unpackMantissa, BitVec.extractLsb, BitVec.extractLsb']

theorem unpackExponent_toNat (bits : Pattern) :
    (unpackExponent bits).toNat = bits.toNat / 2 ^ 52 % 2 ^ 11 := by
  simp [unpackExponent, BitVec.extractLsb, BitVec.extractLsb', Nat.shiftRight_eq_div_pow]

theorem unpackSign_toNat (bits : Pattern) : (unpackSign bits).toNat = bits.toNat / 2 ^ 63 % 2 := by
  unfold unpackSign
  simp [BitVec.extractLsb, BitVec.extractLsb', Nat.shiftRight_eq_div_pow]

theorem append_toNat {high low : Nat} (left : BitVec high) (right : BitVec low) :
    (left ++ right).toNat = left.toNat * 2 ^ low + right.toNat := by
  rw [BitVec.toNat_append, ← Nat.shiftLeft_add_eq_or_of_lt right.isLt, Nat.shiftLeft_eq]

theorem toBitVec_ofBitVec (bit : BitVec 1) : (Sign.ofBitVec bit).toBitVec = bit := by
  revert bit
  decide

/-- A pattern is put together from its three fields. -/
theorem packComponents_fields (bits : Pattern) :
    packComponents .binary64 (Sign.ofBitVec (unpackSign bits)) (unpackExponent bits)
      (unpackMantissa bits) = bits := by
  apply BitVec.eq_of_toNat_eq
  rw [packComponents, toBitVec_ofBitVec, append_toNat, append_toNat, unpackSign_toNat,
    unpackExponent_toNat, unpackMantissa_toNat]
  have bound := bits.isLt
  change bits.toNat < 2 ^ 64 at bound
  change (bits.toNat / 2 ^ 63 % 2 * 2 ^ 11 + bits.toNat / 2 ^ 52 % 2 ^ 11) * 2 ^ 52
    + bits.toNat % 2 ^ 52 = bits.toNat
  omega

/-- What a pattern stands for, by its exponent field and its fraction. -/
theorem unpack_cases (bits : Pattern) :
    (unpackExponent bits = -1#11 ∧ unpackMantissa bits = 0#52 ∧
      UnpackedFloat.unpack .binary64 bits = .infinity (.ofBitVec (unpackSign bits))) ∨
    (unpackExponent bits = -1#11 ∧ unpackMantissa bits ≠ 0#52 ∧
      UnpackedFloat.unpack .binary64 bits = .notANumber) ∨
    (unpackExponent bits = 0#11 ∧ unpackMantissa bits = 0#52 ∧
      UnpackedFloat.unpack .binary64 bits = .zero (.ofBitVec (unpackSign bits))) ∨
    (unpackExponent bits = 0#11 ∧ ∃ positive, UnpackedFloat.unpack .binary64 bits =
      .finite (.ofBitVec (unpackSign bits)) (unpackMantissa bits).toNat (-1074) positive) ∨
    (0 < (unpackExponent bits).toNat ∧ (unpackExponent bits).toNat < 2047 ∧
      ∃ positive, UnpackedFloat.unpack .binary64 bits =
        .finite (.ofBitVec (unpackSign bits)) (1#1 ++ unpackMantissa bits).toNat
          ((unpackExponent bits).toNat - 1075) positive) := by
  by_cases ones : unpackExponent bits = -1#11
  · by_cases none : unpackMantissa bits = 0#52
    · exact .inl ⟨ones, none, (if_pos ones).trans (if_pos none)⟩
    · exact .inr (.inl ⟨ones, none, (if_pos ones).trans (if_neg none)⟩)
  · by_cases zero : unpackExponent bits = 0#11
    · by_cases none : unpackMantissa bits = 0#52
      · have nothing : UnpackedFloat.unpack .binary64 bits = .zero (.ofBitVec (unpackSign bits)) :=
          (if_neg ones).trans ((if_pos zero).trans (dif_pos none))
        exact .inr (.inr (.inl ⟨zero, none, nothing⟩))
      · have least : (-1074 : Int) = (unpackExponent bits).toNat - 1075 + 1 := by
          rw [zero]
          rfl
        have positive : 0 < (unpackMantissa bits).toNat :=
          Nat.pos_of_ne_zero fun value => none (BitVec.eq_of_toNat_eq value)
        have subnormal : UnpackedFloat.unpack .binary64 bits = .finite (.ofBitVec (unpackSign bits))
            (unpackMantissa bits).toNat ((unpackExponent bits).toNat - 1075 + 1) positive :=
          (if_neg ones).trans ((if_pos zero).trans (dif_neg none))
        rw [← least] at subnormal
        exact .inr (.inr (.inr (.inl ⟨zero, positive, subnormal⟩)))
    · have first : (unpackExponent bits).toNat ≠ 0 := fun value => zero (BitVec.eq_of_toNat_eq value)
      have last : (unpackExponent bits).toNat ≠ 2047 := fun value => ones (BitVec.eq_of_toNat_eq value)
      have bound := (unpackExponent bits).isLt
      change (unpackExponent bits).toNat < 2048 at bound
      have positive : 0 < (1#1 ++ unpackMantissa bits).toNat := by
        rw [append_toNat]
        exact Nat.add_pos_left (by decide) _
      have normal : UnpackedFloat.unpack .binary64 bits = .finite (.ofBitVec (unpackSign bits))
          (1#1 ++ unpackMantissa bits).toNat ((unpackExponent bits).toNat - 1075) positive :=
        (if_neg ones).trans (if_neg zero)
      exact .inr (.inr (.inr (.inr ⟨by omega, by omega, positive, normal⟩)))

theorem pack_finite (sign : Sign) (mantissa : Nat) (exponent : Int) (positive : 0 < mantissa) :
    UnpackedFloat.pack .binary64 (.finite sign mantissa exponent positive) =
      if 2048 ≤ (exponent + 1023 + 52).toNat + 1 then packedInfinity .binary64 sign
      else if mantissa.log2 + 1 = 53 then
        packComponents .binary64 sign (BitVec.ofNat 11 (exponent + 1023 + 52).toNat)
          (BitVec.ofNat 52 mantissa)
      else packComponents .binary64 sign 0#11 (BitVec.ofNat 52 mantissa) := rfl

/-- A number below the normal ones is packed as its fraction. -/
theorem pack_subnormal (sign : Sign) (fraction : BitVec 52) (positive : 0 < fraction.toNat) :
    UnpackedFloat.pack .binary64 (.finite sign fraction.toNat (-1074) positive) =
      packComponents .binary64 sign 0#11 fraction := by
  have small : fraction.toNat.log2 < 52 := (Nat.log2_lt (by omega)).mpr fraction.isLt
  have notNormal : ¬fraction.toNat.log2 + 1 = 53 := by omega
  rw [pack_finite, if_neg (by decide), if_neg notNormal]
  exact congrArg _ (BitVec.eq_of_toNat_eq (Nat.mod_eq_of_lt fraction.isLt))

/-- A normal number is packed as its exponent field and its fraction. -/
theorem pack_normal (sign : Sign) {field : BitVec 11} (fraction : BitVec 52)
    (finite : field.toNat < 2047) (positive : 0 < (1#1 ++ fraction).toNat) :
    UnpackedFloat.pack .binary64
        (.finite sign (1#1 ++ fraction).toNat ((field.toNat : Int) - 1075) positive) =
      packComponents .binary64 sign field fraction := by
  have fractionBound := fraction.isLt
  have whole : (1#1 ++ fraction).toNat = 2 ^ 52 + fraction.toNat := append_toNat 1#1 fraction
  have size : (1#1 ++ fraction).toNat.log2 + 1 = 53 := by
    have lower := (Nat.le_log2 (k := 52) (Nat.ne_of_gt positive)).mpr (by omega)
    have upper := (Nat.log2_lt (k := 53) (Nat.ne_of_gt positive)).mpr (by omega)
    omega
  have biased : ((field.toNat : Int) - 1075 + 1023 + 52).toNat = field.toNat := by omega
  have fields : BitVec.ofNat 52 (1#1 ++ fraction).toNat = fraction := by
    apply BitVec.eq_of_toNat_eq
    rw [BitVec.toNat_ofNat, whole]
    omega
  rw [pack_finite, biased, if_neg (by omega), if_pos size, fields, BitVec.ofNat_toNat, BitVec.setWidth_eq]

/-- Packing undoes unpacking. -/
theorem pack_unpack {bits : Pattern} (valid : Format.binary64.Valid bits) :
    UnpackedFloat.pack .binary64 (UnpackedFloat.unpack .binary64 bits) = bits := by
  have fields := packComponents_fields bits
  obtain ⟨ones, none, infinite⟩ | ⟨ones, some, undefined⟩ | ⟨zero, none, nothing⟩ |
    ⟨zero, positive, subnormal⟩ | ⟨-, finite, positive, normal⟩ := unpack_cases bits
  · rw [ones, none] at fields
    rw [infinite]
    exact fields
  · rw [undefined]
    exact (valid.eq_packedNaN ones some).symm
  · rw [zero, none] at fields
    rw [nothing]
    exact fields
  · rw [zero] at fields
    rw [subnormal]
    exact (pack_subnormal _ _ positive).trans fields
  · rw [normal]
    exact (pack_normal _ _ finite positive).trans fields

theorem model_ext : ∀ {left right : Float.Model}, left.toBits = right.toBits → left = right
  | ⟨_, _⟩, ⟨_, _⟩, rfl => rfl

/-- A double is recovered from its pattern. -/
theorem ofBits_toBits (x : Float) : Float.ofBits x.toBits = x := by
  obtain ⟨⟨bits, valid⟩⟩ := x
  have same : (Float.Model.ofBits bits).toBits = bits := congrArg UInt64.ofBitVec (pack_unpack valid)
  exact congrArg Float.ofModel (model_ext same)

/-- A double is recovered from its sign and the pattern of its magnitude. -/
theorem ofMagnitude_toBits (x : Float) :
    ofMagnitude (decide (signBit ≤ x.toBits.toNat)) (x.toBits.toNat % signBit) = x := by
  have whole : (if decide (signBit ≤ x.toBits.toNat) = true then signBit + x.toBits.toNat % signBit
      else x.toBits.toNat % signBit) = x.toBits.toNat := by
    have bound := x.toBits.toNat_lt
    unfold signBit
    split
    · next negative =>
      simp only [decide_eq_true_eq] at negative
      omega
    · next positive =>
      simp only [decide_eq_true_eq] at positive
      omega
  rw [ofMagnitude, whole, UInt64.ofNat_toNat, ofBits_toBits]

/-- The pattern that all NaNs share. -/
def nanBits : UInt64 := 0x7FF8000000000000

/-- A double beyond infinity is the NaN. -/
theorem eq_nan_of_lt (x : Float) (beyond : infinityBits < x.toBits.toNat % signBit) :
    x = Float.ofBits nanBits := by
  have recovered := ofBits_toBits x
  obtain ⟨⟨bits, valid⟩⟩ := x
  change infinityBits < bits.toNat % signBit at beyond
  have bound := bits.toNat_lt
  unfold infinityBits fieldSize signBit at beyond
  have ones : @unpackExponent Format.binary64 bits.toBitVec = -1#11 := by
    apply BitVec.eq_of_toNat_eq
    rw [unpackExponent_toNat]
    change bits.toNat / 2 ^ 52 % 2 ^ 11 = 2047
    omega
  have some : @unpackMantissa Format.binary64 bits.toBitVec ≠ 0#52 := by
    intro none
    have zero := congrArg BitVec.toNat none
    rw [unpackMantissa_toNat] at zero
    change bits.toNat % 2 ^ 52 = 0 at zero
    omega
  have canonical : bits = nanBits := UInt64.toBitVec_inj.mp (valid.eq_packedNaN ones some)
  rw [← recovered]
  exact congrArg Float.ofBits canonical

/-! ## Equality -/

/-- What equality looks at: nothing of a NaN, and not the sign of a zero. -/
def comparand : UnpackedFloat → Option (Option (Sign × Option (Int × Nat)))
  | .notANumber => none
  | .zero _ => some none
  | .infinity sign => some (some (sign, none))
  | .finite sign mantissa exponent _ => some (some (sign, some (exponent, mantissa)))

theorem compare_sign_eq_iff (first second : Sign) : compare first second = .eq ↔ first = second := by
  cases first <;> cases second <;> simp only [reduceCtorEq, iff_true] <;> decide

theorem unpacked_beq_iff (left right : UnpackedFloat) :
    left.beq right = true ↔ comparand left = comparand right ∧ comparand left ≠ none := by
  unfold UnpackedFloat.beq
  -- where the two are of different kinds, the sign of one of them tells them apart
  cases left with
  | notANumber => cases right <;> dsimp only [UnpackedFloat.compare, comparand] <;> simp
  | zero =>
    cases right with
    | infinity second | finite second =>
      cases second <;> dsimp only [UnpackedFloat.compare, comparand] <;> simp
    | _ => dsimp only [UnpackedFloat.compare, comparand]; simp
  | infinity first =>
    cases right with
    | infinity second =>
      dsimp only [UnpackedFloat.compare, comparand]
      simp [compare_sign_eq_iff]
    | _ => cases first <;> dsimp only [UnpackedFloat.compare, comparand] <;> simp
  | finite first =>
    cases right with
    | infinity second => cases second <;> dsimp only [UnpackedFloat.compare, comparand] <;> simp
    | finite second =>
      cases first <;> cases second <;> dsimp only [UnpackedFloat.compare, comparand] <;>
        simp [Ordering.then_eq_eq]
    | _ => cases first <;> dsimp only [UnpackedFloat.compare, comparand] <;> simp

/-- A double by its sign, mantissa and exponent. -/
def unpacked (x : Float) : UnpackedFloat := x.toModel.unpack

theorem beq_iff (x y : Float) :
    (x == y) = true ↔
      comparand (unpacked x) = comparand (unpacked y) ∧ comparand (unpacked x) ≠ none :=
  unpacked_beq_iff (unpacked x) (unpacked y)

theorem beq_comm (x y : Float) : (x == y) = (y == x) := by
  have symm : ∀ x y : Float, (x == y) = true → (y == x) = true := by
    intro x y equal
    rw [beq_iff] at equal ⊢
    exact ⟨equal.1.symm, equal.1 ▸ equal.2⟩
  exact Bool.eq_iff_iff.mpr ⟨symm x y, symm y x⟩

theorem beq_trans {x y z : Float} (first : (x == y) = true) (second : (y == z) = true) :
    (x == z) = true := by
  rw [beq_iff] at first second ⊢
  exact ⟨first.1.trans second.1, first.2⟩

/-- Only a NaN is not equal to itself. -/
theorem beq_self (x : Float) : (x == x) = !x.isNaN := by
  have undefined : x.isNaN = true ↔ comparand (unpacked x) = none := by
    change (unpacked x).isNaN = true ↔ _
    cases unpacked x with
    | notANumber => exact iff_of_true rfl rfl
    | _ => exact iff_of_false nofun nofun
  rw [Bool.eq_iff_iff, beq_iff, Bool.not_eq_true', ← Bool.not_eq_true, undefined]
  exact and_iff_right rfl

end ParenCalc.Decimal
