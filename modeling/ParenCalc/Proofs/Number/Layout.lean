import ParenCalc.Number
import ParenCalc.Proofs.Decimal.Spelling
import ParenCalc.Proofs.Decimal.Value

/-! # Layouts of decimals

A decimal is written as a layout: digits, a point with digits behind it or neither, and an exponent
or none. The reader of decimals recovers the parts of every layout. A layout holds characters of a
small alphabet only, and begins with a digit, so it is neither a word nor signed.
-/

namespace ParenCalc.Number

open Decimal Decimal.Numeral

/-! ## Digits as characters -/

theorem digitValue?_digitChar : ∀ digit < 10, Text.digitValue? (Nat.digitChar digit) = some digit := by
  decide

theorem digitChars_append (first second : List Nat) :
    digitChars (first ++ second) = digitChars first ++ digitChars second :=
  List.map_append

theorem zeros_eq_digitChars (count : Nat) : zeros count = digitChars (List.replicate count 0) := by
  rw [digitChars, List.map_replicate]
  rfl

theorem digitChar_sub_zero {c : Char} (digit : c.isDigit = true) :
    Nat.digitChar (c.toNat - '0'.toNat) = c := by
  have bounds : 48 ≤ c.toNat ∧ c.toNat ≤ 57 := Char.isDigit_iff_toNat.mp digit
  have table : ∀ value < 10, Nat.digitChar value = Char.ofNat (48 + value) := by decide
  have small : c.toNat - '0'.toNat < 10 := by
    change c.toNat - 48 < 10
    omega
  have whole : 48 + (c.toNat - '0'.toNat) = c.toNat := by
    change 48 + (c.toNat - 48) = c.toNat
    omega
  rw [table _ small, whole, Char.ofNat_toNat]

theorem ofNat_eq_digitChars (n : Nat) : Text.ofNat n = digitChars (digitsOf n) := by
  have same : ∀ c ∈ Nat.toDigits 10 n, (Nat.digitChar ∘ fun c : Char => c.toNat - '0'.toNat) c = id c := by
    intro c member
    exact digitChar_sub_zero (Nat.isDigit_of_mem_toDigits (by decide) (by decide) member)
  rw [digitChars, digitsOf, List.map_map, List.map_congr_left same, List.map_id]
  rfl

/-- Digits as characters have their values. -/
theorem digits_digitChars (digits : List Nat) (decimal : ∀ digit ∈ digits, digit < 10) :
    Digits (digitChars digits) digits := by
  induction digits with
  | nil => exact .nil
  | cons digit others ih =>
    obtain ⟨first, rest⟩ := List.forall_mem_cons.mp decimal
    exact .cons (digitValue?_digitChar digit first) (ih rest)

theorem splitDigits_digitChars (digits : List Nat) (decimal : ∀ digit ∈ digits, digit < 10) (rest : Text)
    (stop : ∀ c ∈ rest.head?, Text.digitValue? c = none) :
    splitDigits (digitChars digits ++ rest) = (digits, rest) :=
  splitDigits_append (digits_digitChars digits decimal) stop

/-! ## Exponents -/

theorem exponentText_eq (exponent : Int) :
    ∃ count, exponentText exponent =
      (if exponent < 0 then '-' else '+') ::
        digitChars (List.replicate count 0 ++ digitsOf exponent.natAbs) := by
  refine ⟨2 - (Text.ofNat exponent.natAbs).length, ?_⟩
  rw [digitChars_append, ← zeros_eq_digitChars, ← ofNat_eq_digitChars]
  rfl

theorem splitSign_sign (exponent : Int) (text : Text) :
    splitSign ((if exponent < 0 then '-' else '+') :: text) = (decide (exponent < 0), text) := by
  by_cases negative : exponent < 0
  · rw [if_pos negative, decide_eq_true negative]
    rfl
  · rw [if_neg negative, decide_eq_false negative]
    rfl

theorem digitsOf_ne_nil (n : Nat) : digitsOf n ≠ [] := by
  intro none
  exact Nat.toDigits_ne_nil (List.map_eq_nil_iff.mp none)

theorem zeros_lt (count : Nat) : ∀ digit ∈ List.replicate count 0, digit < 10 := by
  intro digit member
  rw [List.eq_of_mem_replicate member]
  decide

theorem padded_lt (count n : Nat) : ∀ digit ∈ List.replicate count 0 ++ digitsOf n, digit < 10 :=
  List.forall_mem_append.mpr ⟨zeros_lt count, digitsOf_lt n⟩

/-- A written exponent is read back. -/
theorem exponent?_exponentText (exponent : Int) :
    exponent? ('e' :: exponentText exponent) = some exponent := by
  obtain ⟨count, written⟩ := exponentText_eq exponent
  have read := splitDigits_digitChars _ (padded_lt count exponent.natAbs) [] (by simp)
  have value : Text.valueOfDigits (List.replicate count 0 ++ digitsOf exponent.natAbs) =
      exponent.natAbs := by
    rw [Text.valueOfDigits_append, Text.valueOfDigits_zeros, valueOfDigits_digitsOf]
    omega
  have inhabited : List.replicate count 0 ++ digitsOf exponent.natAbs ≠ [] :=
    List.append_ne_nil_of_right_ne_nil _ (digitsOf_ne_nil _)
  rw [List.append_nil] at read
  rw [written]
  simp only [exponent?, true_or, if_true, splitSign_sign, read]
  obtain ⟨first, others, shape⟩ := List.exists_cons_of_ne_nil inhabited
  rw [shape] at value ⊢
  simp only [value, decide_eq_true_eq, Option.some.injEq]
  split <;> omega

/-! ## Layouts -/

/-- Digits, the digits behind a point, and an exponent. -/
structure Layout where
  whole : List Nat
  fraction : List Nat
  exponent : Option Int
  begins : whole ≠ []
  decimal : ∀ digit ∈ whole ++ fraction, digit < 10

/-- A point with the digits behind it, or neither. -/
def pointed : List Nat → Text
  | [] => []
  | digits => '.' :: digitChars digits

/-- An exponent with its mark, or neither. -/
def marked : Option Int → Text
  | none => []
  | some exponent => 'e' :: exponentText exponent

namespace Layout

def text (layout : Layout) : Text :=
  digitChars layout.whole ++ pointed layout.fraction ++ marked layout.exponent

/-- The decimal that a layout writes. -/
def scaled (layout : Layout) : Scaled :=
  ⟨layout.whole ++ layout.fraction, layout.exponent.getD 0 - layout.fraction.length⟩

end Layout

theorem exponent?_marked (exponent : Option Int) : exponent? (marked exponent) = some (exponent.getD 0) := by
  cases exponent with
  | none => rfl
  | some exponent => exact exponent?_exponentText exponent

theorem marked_head {exponent : Option Int} {c : Char} (first : c ∈ (marked exponent).head?) :
    c = 'e' := by
  cases exponent with
  | none => cases first
  | some exponent => exact (Option.mem_some.mp first).symm

theorem splitDigits_marked (digits : List Nat) (decimal : ∀ digit ∈ digits, digit < 10)
    (exponent : Option Int) :
    splitDigits (digitChars digits ++ marked exponent) = (digits, marked exponent) := by
  apply splitDigits_digitChars digits decimal
  intro c first
  rw [marked_head first]
  decide

/-- The digits behind a point are split off in front of an exponent. -/
theorem splitFraction_pointed (digits : List Nat) (decimal : ∀ digit ∈ digits, digit < 10)
    (exponent : Option Int) :
    splitFraction (pointed digits ++ marked exponent) = (digits, marked exponent) := by
  cases digits with
  | nil => cases exponent <;> rfl
  | cons digit others => exact splitDigits_marked _ decimal exponent

theorem splitDigits_pointed (digits fraction : List Nat) (decimal : ∀ digit ∈ digits, digit < 10)
    (exponent : Option Int) :
    splitDigits (digitChars digits ++ (pointed fraction ++ marked exponent)) =
      (digits, pointed fraction ++ marked exponent) := by
  cases fraction with
  | nil => exact splitDigits_marked digits decimal exponent
  | cons digit others =>
    apply splitDigits_digitChars digits decimal
    rintro c ⟨⟩
    decide

namespace Layout

/-- The parts of a layout are read back. -/
theorem decimal?_text (layout : Layout) : decimal? layout.text = some layout.scaled := by
  obtain ⟨whole, fraction, exponent, begins, decimal⟩ := layout
  obtain ⟨wholeSmall, fractionSmall⟩ := List.forall_mem_append.mp decimal
  have before := splitDigits_pointed whole fraction wholeSmall exponent
  have behind := splitFraction_pointed fraction fractionSmall exponent
  have inhabited : whole.isEmpty = false := List.isEmpty_eq_false_iff.mpr begins
  simp only [text, List.append_assoc, decimal?, before, behind, inhabited, Bool.false_and,
    Bool.false_eq_true, if_false, exponent?_marked, Option.map_some]
  rfl

theorem text_head (layout : Layout) :
    ∃ digit rest, digit < 10 ∧ layout.text = Nat.digitChar digit :: rest := by
  obtain ⟨whole, fraction, exponent, begins, decimal⟩ := layout
  obtain ⟨digit, others, rfl⟩ := List.exists_cons_of_ne_nil begins
  exact ⟨digit, _, decimal digit List.mem_cons_self, rfl⟩

/-- A layout is read as a decimal, and not as a word. -/
theorem unsigned?_text (layout : Layout) :
    unsigned? layout.text = some (Numeral.decimal layout.scaled) := by
  have read := layout.decimal?_text
  obtain ⟨digit, rest, small, shape⟩ := layout.text_head
  have letter : ∀ digit < 10, (Nat.digitChar digit).toLower ≠ 'i' ∧
      (Nat.digitChar digit).toLower ≠ 'n' := by decide
  obtain ⟨notI, notN⟩ := letter digit small
  have infinite : layout.text.map Char.toLower ≠ "inf".toList ∧
      layout.text.map Char.toLower ≠ "infinity".toList := by
    rw [shape]
    constructor
    all_goals
      intro word
      exact notI (List.cons.inj word).1
  have undefined : layout.text.map Char.toLower ≠ "nan".toList := by
    rw [shape]
    intro word
    exact notN (List.cons.inj word).1
  simp only [unsigned?, infinite, undefined, or_self, if_false, read, Option.map_some]

/-- A layout has no sign. -/
theorem splitSign_text (layout : Layout) : splitSign layout.text = (false, layout.text) := by
  obtain ⟨digit, rest, small, shape⟩ := layout.text_head
  have unsigned : ∀ digit < 10, Nat.digitChar digit ≠ '-' ∧ Nat.digitChar digit ≠ '+' := by decide
  apply splitSign_of_head
  rw [shape]
  rintro c ⟨⟩
  exact unsigned digit small

end Layout

/-! ## The alphabet of numbers -/

/-- The characters that numbers are written with. -/
def alphabet : Text := "0123456789.e+-infa".toList

theorem digitChars_alphabet (digits : List Nat) (decimal : ∀ digit ∈ digits, digit < 10) :
    ∀ c ∈ digitChars digits, c ∈ alphabet := by
  have table : ∀ digit < 10, Nat.digitChar digit ∈ alphabet := by decide
  intro c member
  obtain ⟨digit, present, rfl⟩ := List.mem_map.mp member
  exact table digit (decimal digit present)

theorem pointed_alphabet (digits : List Nat) (decimal : ∀ digit ∈ digits, digit < 10) :
    ∀ c ∈ pointed digits, c ∈ alphabet := by
  intro c member
  cases digits with
  | nil => cases member
  | cons digit others =>
    rcases List.mem_cons.mp member with rfl | behind
    · decide
    · exact digitChars_alphabet _ decimal c behind

theorem marked_alphabet (exponent : Option Int) : ∀ c ∈ marked exponent, c ∈ alphabet := by
  intro c member
  cases exponent with
  | none => cases member
  | some exponent =>
    obtain ⟨count, written⟩ := exponentText_eq exponent
    rw [marked, written] at member
    rcases List.mem_cons.mp member with rfl | signed
    · decide
    · rcases List.mem_cons.mp signed with rfl | digit
      · split <;> decide
      · exact digitChars_alphabet _ (padded_lt count exponent.natAbs) c digit

theorem Layout.text_alphabet (layout : Layout) : ∀ c ∈ layout.text, c ∈ alphabet := by
  obtain ⟨wholeSmall, fractionSmall⟩ := List.forall_mem_append.mp layout.decimal
  intro c member
  rcases List.mem_append.mp member with before | behind
  · rcases List.mem_append.mp before with digit | point
    · exact digitChars_alphabet _ wholeSmall c digit
    · exact pointed_alphabet _ fractionSmall c point
  · exact marked_alphabet _ c behind

end ParenCalc.Number
