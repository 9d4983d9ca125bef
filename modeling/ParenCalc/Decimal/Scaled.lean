import ParenCalc.Decimal.Nearest
import ParenCalc.Text.Characters

/-! # Decimal digits with a power of ten

A scaled decimal is a digit string together with the power of ten of its last digit. `bits` is the
double nearest to it. Values beyond every finite double and values below half of the least one
are decided by their order of magnitude alone, so that no exponent, however long, is ever raised.

The decimal of a finite double is the one with the fewest digits whose nearest double it is, and
of two such the closer one. A double of `n` units is exactly `n * 5 ^ 1074` times `10 ^ -1074`, so
the decimals of a given length next to it are quotients of that one natural number. The exact
decimal stands at the end of the search.
-/

namespace ParenCalc.Decimal

/-- Digits, most significant first, and the power of ten of the last one. -/
structure Scaled where
  digits : List Nat
  exponent : Int
deriving DecidableEq, Repr

namespace Scaled

/-- The number of places before the decimal point, counted from the first digit that is not zero:
a value that is not zero is below `10 ^ magnitude` and not below `10 ^ (magnitude - 1)`. -/
def magnitude (scaled : Scaled) : Int :=
  (scaled.digits.dropWhile (· == 0)).length + scaled.exponent

/-- The bit pattern of the nearest double. -/
def bits (scaled : Scaled) : Nat :=
  if scaled.digits.all (· == 0) || scaled.magnitude < -400 then 0
  else if 400 < scaled.magnitude then infinityBits
  else
    nearestBits (Text.valueOfDigits scaled.digits * Nat.pow 10 scaled.exponent.toNat)
      (Nat.pow 10 (-scaled.exponent).toNat)

end Scaled

/-! ## The fewest digits that read back -/

/-- The digits of a natural number, most significant first. -/
def digitsOf (n : Nat) : List Nat := (Nat.toDigits 10 n).map fun c => c.toNat - '0'.toNat

/-- The coefficient of the exact decimal of a double, whose exponent is that of the unit. -/
def exactCoefficient (bits : Nat) : Nat := units bits * Nat.pow 5 unitExponent

/-- The two multiples of `10 ^ dropped` around a number, in that unit, the closer one first. -/
def neighbours (n dropped : Nat) : List Nat :=
  let step := Nat.pow 10 dropped
  let lower := n / step
  let rest := n % step
  if 2 * rest < step ∨ 2 * rest = step ∧ lower % 2 = 0 then [lower, lower + 1]
  else [lower + 1, lower]

/-- The decimals of one to seventeen digits next to a double, shorter ones first. -/
def candidates (bits : Nat) : List Scaled :=
  let coefficient := exactCoefficient bits
  let length := (Nat.toDigits 10 coefficient).length
  (List.range 17).flatMap fun place =>
    let dropped := length - (place + 1)
    (neighbours coefficient dropped).map fun n => ⟨digitsOf n, dropped - unitExponent⟩

/-- The exact decimal of a double. -/
def exact (bits : Nat) : Scaled := ⟨digitsOf (exactCoefficient bits), -unitExponent⟩

/-- The decimal with the fewest digits that reads back as the double. -/
def shortest (bits : Nat) : Scaled :=
  ((candidates bits).find? fun scaled => scaled.bits == bits).getD (exact bits)

end ParenCalc.Decimal
