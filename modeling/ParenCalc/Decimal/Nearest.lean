/-! # The double nearest to a fraction

The magnitude of a finite double is a whole number of units, a unit being `2 ^ -1074`. Among the
bit patterns without a sign, larger patterns stand for larger magnitudes, and a pattern of
exponent field `k + 1` and fraction `f` stands for `(2 ^ 52 + f) * 2 ^ k` units. Rounding a
fraction is therefore one division: the shift is chosen so that the quotient has at most 53 bits.
`nearestBits_scale` says that rounding depends on the value of the fraction only, and
`nearestBits_units` that every finite magnitude is its own nearest double.
-/

namespace ParenCalc.Decimal

/-- The quotient rounded to the nearest whole number, a half going to the even neighbour. -/
def roundQuotient (dividend divisor : Nat) : Nat :=
  let quotient := dividend / divisor
  let remainder := dividend % divisor
  if divisor < 2 * remainder then quotient + 1
  else if 2 * remainder = divisor then quotient + quotient % 2
  else quotient

/-- A division without remainder is exact. -/
theorem roundQuotient_mul_left (quotient divisor : Nat) (positive : 0 < divisor) :
    roundQuotient (quotient * divisor) divisor = quotient := by
  simp [roundQuotient, Nat.mul_div_cancel _ positive]
  omega

/-- A common factor does not matter. -/
theorem roundQuotient_scale (factor dividend divisor : Nat) (positive : 0 < factor) :
    roundQuotient (factor * dividend) (factor * divisor) = roundQuotient dividend divisor := by
  have half : (factor * divisor < 2 * (factor * (dividend % divisor))) ↔
      divisor < 2 * (dividend % divisor) := by
    rw [Nat.mul_left_comm]
    exact Nat.mul_lt_mul_left positive
  have tie : (2 * (factor * (dividend % divisor)) = factor * divisor) ↔
      2 * (dividend % divisor) = divisor := by
    rw [Nat.mul_left_comm]
    exact Nat.mul_right_inj (by omega)
  simp only [roundQuotient, Nat.mul_div_mul_left _ _ positive, Nat.mul_mod_mul_left, half, tie]

/-- A unit is two to the power of minus this. -/
def unitExponent : Nat := 1074

/-- The number of units in one. -/
def unitsInOne : Nat := 1 <<< unitExponent

theorem shiftLeft_pos (value shift : Nat) (positive : 0 < value) : 0 < value <<< shift := by
  rw [Nat.shiftLeft_eq]
  exact Nat.mul_pos positive (Nat.two_pow_pos shift)

theorem unitsInOne_pos : 0 < unitsInOne := shiftLeft_pos 1 unitExponent Nat.one_pos

/-- The number of bit patterns that share an exponent field, `2 ^ 52`. -/
def fieldSize : Nat := 0x10000000000000

/-- The bit pattern of infinity; the patterns below it are those of the finite magnitudes. -/
def infinityBits : Nat := 0x7FF * fieldSize

/-- The bit that marks a negative double. -/
def signBit : Nat := 0x8000000000000000

/-- The magnitude, in units, of the double with the given bit pattern. -/
def units (bits : Nat) : Nat :=
  let shift := bits / fieldSize - 1
  (bits - shift * fieldSize) <<< shift

/-- The bit pattern of the double nearest to a fraction, a tie going to the even pattern. -/
def nearestBits (numerator denominator : Nat) : Nat :=
  let scaled := numerator * unitsInOne
  let shift := (scaled / denominator).log2 - 52
  min (shift * fieldSize + roundQuotient scaled (denominator <<< shift)) infinityBits

/-- The nearest double depends on the value of a fraction only. -/
theorem nearestBits_scale (factor numerator denominator : Nat) (positive : 0 < factor) :
    nearestBits (factor * numerator) (factor * denominator) = nearestBits numerator denominator := by
  simp only [nearestBits, Nat.shiftLeft_eq, Nat.mul_assoc, Nat.mul_div_mul_left _ _ positive,
    roundQuotient_scale _ _ _ positive]

/-- The shift of a magnitude can be read off its size. -/
theorem log2_units (bits : Nat) : (units bits).log2 - 52 = bits / fieldSize - 1 := by
  by_cases small : bits / fieldSize - 1 = 0
  · simp only [units, small, Nat.zero_mul, Nat.sub_zero, Nat.shiftLeft_zero]
    by_cases none : bits = 0
    · subst none
      decide
    · have bound := (Nat.log2_lt (k := 53) none).mpr (by unfold fieldSize at small; omega)
      omega
  · simp only [units]
    generalize shifted : bits / fieldSize - 1 = shift at small
    have low : fieldSize ≤ bits - shift * fieldSize := by unfold fieldSize at shifted ⊢; omega
    have high : bits - shift * fieldSize < 2 * fieldSize := by
      unfold fieldSize at shifted ⊢; omega
    have nonzero : (bits - shift * fieldSize) <<< shift ≠ 0 :=
      Nat.ne_of_gt (shiftLeft_pos _ _ (Nat.lt_of_lt_of_le (by decide) low))
    have lower : 52 + shift ≤ ((bits - shift * fieldSize) <<< shift).log2 := by
      rw [Nat.le_log2 nonzero, Nat.shiftLeft_eq, Nat.pow_add]
      exact Nat.mul_le_mul_right _ low
    have upper : ((bits - shift * fieldSize) <<< shift).log2 < 53 + shift := by
      rw [Nat.log2_lt nonzero, Nat.shiftLeft_eq, Nat.pow_add]
      exact Nat.mul_lt_mul_of_pos_right high (Nat.two_pow_pos shift)
    omega

/-- A magnitude is its own nearest double. -/
theorem nearestBits_units (bits : Nat) (finite : bits < infinityBits) :
    nearestBits (units bits) unitsInOne = bits := by
  have one := unitsInOne_pos
  simp only [nearestBits, Nat.mul_div_cancel _ one, log2_units bits, Nat.shiftLeft_eq unitsInOne]
  rw [Nat.mul_comm (units bits), roundQuotient_scale _ _ _ one]
  simp only [units, Nat.shiftLeft_eq]
  rw [roundQuotient_mul_left _ _ (Nat.two_pow_pos _)]
  unfold infinityBits fieldSize at *
  omega

/-- The double with the given sign and magnitude. -/
def ofMagnitude (negative : Bool) (bits : Nat) : Float :=
  .ofBits (UInt64.ofNat (if negative then signBit + bits else bits))

end ParenCalc.Decimal
