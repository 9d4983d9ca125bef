import ParenCalc.Decimal.Numeral

/-! # Numbers as text

Numbers are doubles. They are written with the fewest digits that read back: positionally, with
at least one place after the point, while the first digit stands between `10 ^ -4` and `10 ^ 15`,
and with an exponent of at least two digits otherwise.
-/

namespace ParenCalc.Number

open Decimal

/-- The number a text stands for, with blanks around it and underscores between digits allowed. -/
def ofText? (text : Text) : Option Float := do
  let plain ← Numeral.unseparated? false (text.trimWith Numeral.isPadding)
  let (negative, numeral) ← Numeral.parse? plain
  return numeral.toFloat negative

/-- The number nearest to an integer, unless it is beyond every finite double. -/
def ofInt? (n : Int) : Option Float :=
  let bits := nearestBits n.natAbs 1
  if bits = infinityBits then none else some (ofMagnitude (n < 0) bits)

/-- Digits as characters. -/
def digitChars (digits : List Nat) : Text := digits.map Nat.digitChar

def zeros (count : Nat) : Text := List.replicate count '0'

/-- Positional writing of `0.digits * 10 ^ point`. -/
def positional (digits : Text) (point : Int) : Text :=
  if point ≤ 0 then '0' :: '.' :: zeros (-point).toNat ++ digits
  else if digits.length ≤ point.toNat then
    digits ++ zeros (point.toNat - digits.length) ++ ['.', '0']
  else digits.take point.toNat ++ '.' :: digits.drop point.toNat

/-- An exponent with its sign and at least two digits. -/
def exponentText (exponent : Int) : Text :=
  let size := Text.ofNat exponent.natAbs
  (if exponent < 0 then '-' else '+') :: zeros (2 - size.length) ++ size

/-- Writing of `0.digits * 10 ^ point` with one digit before the point and an exponent. -/
def scientific (digits : Text) (point : Int) : Text :=
  let tail := match digits.drop 1 with
    | [] => []
    | places => '.' :: places
  digits.take 1 ++ tail ++ 'e' :: exponentText (point - 1)

/-- The magnitude of the finite double with the given bit pattern, as text. -/
def magnitudeText (bits : Nat) : Text :=
  if bits = 0 then "0.0".toList
  else
    let decimal := shortest bits
    let digits := digitChars (decimal.digits.reverse.dropWhile (· == 0)).reverse
    let point := decimal.digits.length + decimal.exponent
    if -4 < point ∧ point ≤ 16 then positional digits point else scientific digits point

/-- The text of a number; a NaN has one text, whatever its sign. -/
def text (x : Float) : Text :=
  let bits := x.toBits.toNat
  let magnitude := bits % signBit
  let sign := if signBit ≤ bits then ['-'] else []
  if infinityBits < magnitude then "nan".toList
  else if magnitude = infinityBits then sign ++ "inf".toList
  else sign ++ magnitudeText magnitude

end ParenCalc.Number
