import ParenCalc.Decimal.Scaled
import ParenCalc.Text.Basic

/-! # Numerals

A numeral is an optional sign followed by a word for infinity, the word for a NaN, or decimal
digits with an optional point and an optional exponent. Digits of every script count. `parse?`
accepts the numerals and nothing else; `unseparated?` removes the underscores that stand between
two digits, for the readers that allow them.
-/

namespace ParenCalc.Decimal

/-- What an unsigned numeral stands for. -/
inductive Numeral where
  | infinity
  | nan
  | decimal (value : Scaled)
deriving DecidableEq, Repr

namespace Numeral

/-- Whether a sign in front is a minus, and the text after the sign. -/
def splitSign : Text → Bool × Text
  | '-' :: rest => (true, rest)
  | '+' :: rest => (false, rest)
  | text => (false, text)

/-- The digits in front, and the text after them. -/
def splitDigits : Text → List Nat × Text
  | [] => ([], [])
  | c :: rest =>
    match Text.digitValue? c with
    | some digit =>
      let split := splitDigits rest
      (digit :: split.1, split.2)
    | none => ([], c :: rest)

/-- The digits after a point in front, and the text after them. -/
def splitFraction : Text → List Nat × Text
  | '.' :: rest => splitDigits rest
  | text => ([], text)

/-- The exponent that fills the whole text; no text means none. -/
def exponent? : Text → Option Int
  | [] => some 0
  | mark :: rest =>
    if mark = 'e' ∨ mark = 'E' then
      let (negative, digits) := splitSign rest
      match splitDigits digits with
      | (first :: others, []) =>
        let size : Int := Text.valueOfDigits (first :: others)
        some (if negative then -size else size)
      | _ => none
    else none

/-- Digits with at least one on either side of the optional point, then the exponent. -/
def decimal? (text : Text) : Option Scaled :=
  let (whole, afterWhole) := splitDigits text
  let (fraction, afterFraction) := splitFraction afterWhole
  if whole.isEmpty && fraction.isEmpty then none
  else (exponent? afterFraction).map fun exponent =>
    ⟨whole ++ fraction, exponent - fraction.length⟩

/-- A numeral without a sign. Words are read in any mixture of cases. -/
def unsigned? (text : Text) : Option Numeral :=
  let word := text.map Char.toLower
  if word = "inf".toList ∨ word = "infinity".toList then some infinity
  else if word = "nan".toList then some nan
  else (decimal? text).map decimal

/-- The sign and the unsigned part of a numeral. -/
def parse? (text : Text) : Option (Bool × Numeral) :=
  let (negative, rest) := splitSign text
  (unsigned? rest).map (negative, ·)

/-- The double a signed numeral stands for. -/
def toFloat (negative : Bool) : Numeral → Float
  | infinity => ofMagnitude negative infinityBits
  | nan => .ofBits 0x7FF8000000000000
  | decimal value => ofMagnitude negative value.bits

/-- Text without the underscores that stand between two digits; any other underscore is refused.
The flag says whether the character before the text is a digit. -/
def unseparated? (afterDigit : Bool) : Text → Option Text
  | [] => some []
  | c :: rest =>
    if c = '_' then
      if afterDigit && (rest.head?.map Text.isDigit).getD false then unseparated? false rest
      else none
    else (unseparated? (Text.isDigit c) rest).map (c :: ·)

/-- Blanks that may surround a numeral: all but the four that separate records. -/
def isPadding (c : Char) : Bool :=
  Text.isBlank c && !(0x1C ≤ c.toNat && c.toNat ≤ 0x1F)

end Numeral

end ParenCalc.Decimal
