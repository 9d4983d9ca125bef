import Mathlib.Data.List.Induction
import Mathlib.Data.List.TakeWhile
import Mathlib.Tactic.Ring
import ParenCalc.Decimal.Scaled

/-! # Decimals of the same value

The double nearest to a decimal does not change when zeros are put in front of its digits, or
behind them with a smaller power of ten. The shortest decimal of a double reads back as that
double: either a candidate has been tested for that, or the exact decimal is taken.
-/

namespace ParenCalc

namespace Text

theorem valueOfDigits_append (first second : List Nat) :
    valueOfDigits (first ++ second) =
      valueOfDigits first * 10 ^ second.length + valueOfDigits second := by
  induction second using List.reverseRecOn with
  | nil => simp [valueOfDigits]
  | append_singleton second digit ih =>
    rw [← List.append_assoc, valueOfDigits_concat, valueOfDigits_concat, ih, List.length_append,
      List.length_singleton, Nat.pow_succ]
    ring

/-- Digits stand for less than the power of ten after them. -/
theorem valueOfDigits_lt (digits : List Nat) (decimal : ∀ digit ∈ digits, digit < 10) :
    valueOfDigits digits < 10 ^ digits.length := by
  induction digits using List.reverseRecOn with
  | nil => simp [valueOfDigits]
  | append_singleton digits digit ih =>
    have earlier := ih fun other member => decimal other (List.mem_append_left _ member)
    have last := decimal digit (List.mem_append_right _ (List.mem_singleton_self _))
    rw [valueOfDigits_concat, List.length_append, List.length_singleton, Nat.pow_succ]
    omega

theorem valueOfDigits_zeros (count : Nat) : valueOfDigits (List.replicate count 0) = 0 := by
  induction count with
  | zero => rfl
  | succ count ih => rw [List.replicate_succ', valueOfDigits_concat, ih]

/-- Zeros in front of digits are worth nothing. -/
theorem valueOfDigits_dropWhile (digits : List Nat) :
    valueOfDigits (digits.dropWhile (· == 0)) = valueOfDigits digits := by
  induction digits with
  | nil => rfl
  | cons digit rest ih =>
    rw [List.dropWhile_cons]
    split
    · next zero =>
      rw [ih, beq_iff_eq.mp zero, ← List.singleton_append, valueOfDigits_append]
      simp [valueOfDigits]
    · rfl

end Text

namespace Decimal

namespace Scaled

/-- The nearest double of the fraction that a decimal is, without regard to its magnitude. -/
def rounded (scaled : Scaled) : Nat :=
  nearestBits (Text.valueOfDigits scaled.digits * 10 ^ scaled.exponent.toNat)
    (10 ^ (-scaled.exponent).toNat)

theorem bits_eq_rounded (scaled : Scaled) :
    scaled.bits =
      if scaled.digits.all (· == 0) || scaled.magnitude < -400 then 0
      else if 400 < scaled.magnitude then infinityBits
      else scaled.rounded := rfl

/-- Zeros in front of the digits do not matter. -/
theorem bits_zeros_append (count : Nat) (digits : List Nat) (exponent : Int) :
    bits ⟨List.replicate count 0 ++ digits, exponent⟩ = bits ⟨digits, exponent⟩ := by
  have zero : (List.replicate count 0 ++ digits).all (· == 0) = digits.all (· == 0) := by simp
  have dropped : (List.replicate count 0 ++ digits).dropWhile (· == 0) =
      digits.dropWhile (· == 0) := by
    apply List.dropWhile_append_of_pos
    simp
  have size : magnitude ⟨List.replicate count 0 ++ digits, exponent⟩ = magnitude ⟨digits, exponent⟩ := by
    rw [magnitude, magnitude, dropped]
  have value : rounded ⟨List.replicate count 0 ++ digits, exponent⟩ = rounded ⟨digits, exponent⟩ := by
    simp only [rounded, Text.valueOfDigits_append, Text.valueOfDigits_zeros, Nat.zero_mul, Nat.zero_add]
  simp only [bits_eq_rounded, zero, size, value]

/-- Rounding does not depend on how a power of ten is divided between the two sides of a fraction. -/
theorem nearestBits_shift (coefficient count : Nat) (exponent : Int) :
    nearestBits (coefficient * 10 ^ count * 10 ^ exponent.toNat) (10 ^ (-exponent).toNat) =
      nearestBits (coefficient * 10 ^ (exponent + count).toNat) (10 ^ (-(exponent + count)).toNat) := by
  obtain ⟨common, numerator, denominator⟩ : ∃ common : Nat,
      count + exponent.toNat = common + (exponent + count).toNat ∧
        (-exponent).toNat = common + (-(exponent + count)).toNat :=
    ⟨(-exponent).toNat - (-(exponent + count)).toNat, by omega, by omega⟩
  have dividend : coefficient * 10 ^ count * 10 ^ exponent.toNat =
      10 ^ common * (coefficient * 10 ^ (exponent + count).toNat) := by
    rw [Nat.mul_assoc, ← Nat.pow_add, numerator, Nat.pow_add]
    ring
  rw [dividend, denominator, Nat.pow_add]
  exact nearestBits_scale _ _ _ (Nat.pow_pos (by decide))

/-- A zero behind the digits is worth a power of ten. -/
theorem bits_append_zeros (digits : List Nat) (count : Nat) (exponent : Int) :
    bits ⟨digits ++ List.replicate count 0, exponent⟩ = bits ⟨digits, exponent + count⟩ := by
  have zero : (digits ++ List.replicate count 0).all (· == 0) = digits.all (· == 0) := by simp
  by_cases none : digits.all (· == 0) = true
  · simp only [bits_eq_rounded, zero, none, Bool.true_or, if_true]
  · have inhabited : digits.dropWhile (· == 0) ≠ [] := by
      intro dropped
      exact none (List.all_eq_true.mpr (List.dropWhile_eq_nil_iff.mp dropped))
    have kept : (digits ++ List.replicate count 0).dropWhile (· == 0) =
        digits.dropWhile (· == 0) ++ List.replicate count 0 := by
      rw [List.dropWhile_append, if_neg (by simpa using inhabited)]
    have size : magnitude ⟨digits ++ List.replicate count 0, exponent⟩ =
        magnitude ⟨digits, exponent + count⟩ := by
      simp only [magnitude, kept, List.length_append, List.length_replicate]
      omega
    have value : rounded ⟨digits ++ List.replicate count 0, exponent⟩ =
        rounded ⟨digits, exponent + count⟩ := by
      simp only [rounded, Text.valueOfDigits_append, Text.valueOfDigits_zeros,
        List.length_replicate, Nat.add_zero]
      exact nearestBits_shift _ count exponent
    simp only [bits_eq_rounded, zero, size, value]

end Scaled

/-! ## The digits of natural numbers -/

theorem valueOfDigits_digitsOf (n : Nat) : Text.valueOfDigits (digitsOf n) = n := by
  have read := Nat.ofDigitChars_toDigits (b := 10) (n := n) (by decide) (by decide)
  rw [Nat.ofDigitChars_eq_foldl] at read
  rw [digitsOf, Text.valueOfDigits, List.foldl_map]
  simpa only [Nat.mul_comm] using read

theorem digitsOf_lt (n : Nat) : ∀ digit ∈ digitsOf n, digit < 10 := by
  intro digit member
  obtain ⟨c, present, rfl⟩ := List.mem_map.mp member
  have bounds : 48 ≤ c.toNat ∧ c.toNat ≤ 57 :=
    Char.isDigit_iff_toNat.mp (Nat.isDigit_of_mem_toDigits (by decide) (by decide) present)
  change c.toNat - 48 < 10
  omega

/-- The digits of a number from its first digit that is not zero bound it from both sides. -/
theorem length_dropWhile_digitsOf {n low high : Nat} (above : 10 ^ low ≤ n) (below : n < 10 ^ high)
    (some : 0 < high) :
    low < ((digitsOf n).dropWhile (· == 0)).length ∧
      ((digitsOf n).dropWhile (· == 0)).length ≤ high := by
  constructor
  · have bound := Text.valueOfDigits_lt ((digitsOf n).dropWhile (· == 0)) fun digit member =>
      digitsOf_lt n digit ((List.dropWhile_suffix _).mem member)
    rw [Text.valueOfDigits_dropWhile, valueOfDigits_digitsOf] at bound
    exact (Nat.pow_lt_pow_iff_right (by decide)).mp (Nat.lt_of_le_of_lt above bound)
  · have whole : (digitsOf n).length ≤ high := by
      rw [digitsOf, List.length_map]
      exact (Nat.length_toDigits_le_iff (by decide) some).mpr below
    exact Nat.le_trans (List.dropWhile_suffix _).length_le whole

/-! ## Decimals of doubles -/

theorem units_pos {bits : Nat} (positive : 0 < bits) : 0 < units bits := by
  apply shiftLeft_pos
  unfold fieldSize
  omega

theorem mul_two_pow_lt {mantissa shift width most : Nat} (small : mantissa < 2 ^ width)
    (bounded : shift ≤ most) : mantissa * 2 ^ shift < 2 ^ (width + most) :=
  calc mantissa * 2 ^ shift < 2 ^ width * 2 ^ shift :=
        Nat.mul_lt_mul_of_pos_right small (Nat.two_pow_pos _)
    _ ≤ 2 ^ width * 2 ^ most := Nat.mul_le_mul_left _ (Nat.pow_le_pow_right (by decide) bounded)
    _ = 2 ^ (width + most) := (Nat.pow_add ..).symm

theorem units_lt {bits : Nat} (finite : bits < infinityBits) : units bits < 2 ^ (53 + 2045) := by
  simp only [units, Nat.shiftLeft_eq]
  unfold infinityBits fieldSize at *
  exact mul_two_pow_lt (by omega) (by omega)

/-- Fives are worth at least two thirds as many tens. -/
theorem ten_pow_le_mul_five_pow {amount : Nat} (positive : 0 < amount) (count : Nat) :
    10 ^ (2 * count) ≤ amount * 5 ^ (3 * count) :=
  calc 10 ^ (2 * count) = (10 ^ 2) ^ count := Nat.pow_mul ..
    _ ≤ (5 ^ 3) ^ count := Nat.pow_le_pow_left (by decide) _
    _ = 5 ^ (3 * count) := (Nat.pow_mul ..).symm
    _ ≤ amount * 5 ^ (3 * count) := Nat.le_mul_of_pos_left _ positive

/-- Twos and fives make tens, and the twos that are left are worth a third as many tens at most. -/
theorem mul_five_pow_lt {amount fives twos tens : Nat} (small : amount < 2 ^ (twos + fives))
    (few : twos ≤ 3 * tens) : amount * 5 ^ fives < 10 ^ (tens + fives) :=
  calc amount * 5 ^ fives < 2 ^ (twos + fives) * 5 ^ fives :=
        Nat.mul_lt_mul_of_pos_right small (Nat.pow_pos (by decide))
    _ = 2 ^ twos * (2 * 5) ^ fives := by rw [Nat.pow_add, Nat.mul_pow, Nat.mul_assoc]
    _ ≤ 2 ^ (3 * tens) * (2 * 5) ^ fives :=
        Nat.mul_le_mul_right _ (Nat.pow_le_pow_right (by decide) few)
    _ = (2 ^ 3) ^ tens * (2 * 5) ^ fives := by rw [Nat.pow_mul]
    _ ≤ 10 ^ tens * 10 ^ fives := Nat.mul_le_mul_right _ (Nat.pow_le_pow_left (by decide) _)
    _ = 10 ^ (tens + fives) := (Nat.pow_add ..).symm

theorem exactCoefficient_eq (bits : Nat) :
    exactCoefficient bits = units bits * 5 ^ unitExponent := by
  unfold exactCoefficient
  -- the power is too large to be computed
  generalize unitExponent = exponent
  rfl

/-- The exact decimal of a double is neither too large nor too small to be rounded. -/
theorem exact_magnitude {bits : Nat} (positive : 0 < bits) (finite : bits < infinityBits) :
    -400 ≤ (exact bits).magnitude ∧ (exact bits).magnitude ≤ 400 := by
  have thirds : unitExponent = 3 * 358 := rfl
  have above : 10 ^ (2 * 358) ≤ exactCoefficient bits := by
    rw [exactCoefficient_eq, thirds]
    exact ten_pow_le_mul_five_pow (units_pos positive) 358
  have below : exactCoefficient bits < 10 ^ (400 + unitExponent) := by
    have total : 53 + 2045 = 1024 + unitExponent := rfl
    have small := units_lt finite
    rw [total] at small
    rw [exactCoefficient_eq]
    exact mul_five_pow_lt small (by decide)
  obtain ⟨low, high⟩ := length_dropWhile_digitsOf above below (Nat.zero_lt_succ _)
  clear above below
  simp only [Scaled.magnitude, exact]
  unfold unitExponent at *
  omega

theorem ten_pow_unitExponent : 10 ^ unitExponent = 5 ^ unitExponent * unitsInOne := by
  unfold unitsInOne
  generalize unitExponent = exponent
  rw [Nat.shiftLeft_eq, Nat.one_mul, ← Nat.mul_pow]

theorem exact_rounded {bits : Nat} (finite : bits < infinityBits) : (exact bits).rounded = bits := by
  have denominator : (- -(unitExponent : Int)).toNat = unitExponent := by omega
  have numerator : (-(unitExponent : Int)).toNat = 0 := by omega
  simp only [Scaled.rounded, exact, valueOfDigits_digitsOf, denominator, numerator, Nat.pow_zero,
    Nat.mul_one]
  rw [ten_pow_unitExponent, exactCoefficient_eq, Nat.mul_comm (units bits)]
  have fives : 0 < 5 ^ unitExponent := Nat.pow_pos (by decide)
  rw [nearestBits_scale _ _ _ fives, nearestBits_units bits finite]

/-- Digits of a number that is not zero are not all zeros. -/
theorem digitsOf_all_zero {n : Nat} (positive : 0 < n) : (digitsOf n).all (· == 0) = false := by
  rw [Bool.eq_false_iff]
  intro zeros
  have none : (digitsOf n).dropWhile (· == 0) = [] :=
    List.dropWhile_eq_nil_iff.mpr (List.all_eq_true.mp zeros)
  have value := Text.valueOfDigits_dropWhile (digitsOf n)
  rw [none, valueOfDigits_digitsOf] at value
  exact Nat.ne_of_gt positive value.symm

/-- The exact decimal of a double reads back. -/
theorem exact_bits {bits : Nat} (positive : 0 < bits) (finite : bits < infinityBits) :
    (exact bits).bits = bits := by
  obtain ⟨low, high⟩ := exact_magnitude positive finite
  have coefficient : 0 < exactCoefficient bits := by
    rw [exactCoefficient_eq]
    exact Nat.mul_pos (units_pos positive) (Nat.pow_pos (by decide))
  have notZero : (exact bits).digits.all (· == 0) = false := digitsOf_all_zero coefficient
  rw [Scaled.bits_eq_rounded, notZero, if_neg, if_neg, exact_rounded finite]
  · omega
  · simp only [Bool.false_or, decide_eq_true_eq]
    omega

/-- The shortest decimal of a double reads back. -/
theorem shortest_bits {bits : Nat} (positive : 0 < bits) (finite : bits < infinityBits) :
    (shortest bits).bits = bits := by
  unfold shortest
  cases found : (candidates bits).find? fun scaled => scaled.bits == bits with
  | none => exact exact_bits positive finite
  | some scaled =>
    have tested := List.find?_some found
    exact beq_iff_eq.mp tested

/-- The shortest decimal of a double has the digits of a natural number. -/
theorem shortest_digits (bits : Nat) : ∃ n, (shortest bits).digits = digitsOf n := by
  unfold shortest
  cases found : (candidates bits).find? fun scaled => scaled.bits == bits with
  | none => exact ⟨exactCoefficient bits, rfl⟩
  | some scaled =>
    have member := List.mem_of_find?_eq_some found
    simp only [candidates, List.mem_flatMap, List.mem_map] at member
    obtain ⟨place, -, n, -, rfl⟩ := member
    exact ⟨n, rfl⟩

end Decimal

end ParenCalc
