import ParenCalc.Proofs.Decimal.Double
import ParenCalc.Proofs.Number.Layout

/-! # Numbers are read back

The text of a finite magnitude is a layout of a decimal whose nearest double is that magnitude:
the shortest decimal, less the zeros at its end. Both writings shift the point by the digits they
put behind it, so they do not change the value. With the sign and the two words, the text of every
double reads as that double.
-/

namespace ParenCalc.Number

open Decimal Decimal.Numeral

/-! ## The two writings of a magnitude -/

theorem pointed_of_ne_nil {digits : List Nat} (inhabited : digits ≠ []) :
    pointed digits = '.' :: digitChars digits := by
  obtain ⟨first, others, rfl⟩ := List.exists_cons_of_ne_nil inhabited
  rfl

section Writings

variable {digits : List Nat} (begins : digits ≠ []) (decimal : ∀ digit ∈ digits, digit < 10)
include begins decimal

/-- Zeros between the point and the digits. -/
theorem exists_layout_below (count : Nat) :
    ∃ layout : Layout, layout.text = '0' :: '.' :: zeros count ++ digitChars digits ∧
      layout.scaled.bits = Scaled.bits ⟨digits, -count - digits.length⟩ := by
  have inhabited : List.replicate count 0 ++ digits ≠ [] := List.append_ne_nil_of_right_ne_nil _ begins
  have small : ∀ digit ∈ [0] ++ (List.replicate count 0 ++ digits), digit < 10 :=
    List.forall_mem_append.mpr ⟨zeros_lt 1, List.forall_mem_append.mpr ⟨zeros_lt count, decimal⟩⟩
  refine ⟨⟨[0], List.replicate count 0 ++ digits, none, by simp, small⟩, ?_, ?_⟩
  · simp only [Layout.text, pointed_of_ne_nil inhabited, digitChars_append, zeros_eq_digitChars]
    simp [marked, digitChars, Nat.digitChar]
  · have front : [0] ++ (List.replicate count 0 ++ digits) = List.replicate (count + 1) 0 ++ digits := rfl
    have exponent : (0 : Int) - (List.replicate count 0 ++ digits).length = -count - digits.length := by
      rw [List.length_append, List.length_replicate]
      omega
    simp only [Layout.scaled, Option.getD_none, front, exponent, Scaled.bits_zeros_append]

/-- Zeros between the digits and the point. -/
theorem exists_layout_above (count : Nat) :
    ∃ layout : Layout, layout.text = digitChars digits ++ zeros count ++ ['.', '0'] ∧
      layout.scaled.bits = Scaled.bits ⟨digits, count⟩ := by
  have small : ∀ digit ∈ digits ++ List.replicate count 0 ++ [0], digit < 10 :=
    List.forall_mem_append.mpr ⟨List.forall_mem_append.mpr ⟨decimal, zeros_lt count⟩, zeros_lt 1⟩
  refine ⟨⟨digits ++ List.replicate count 0, [0], none, List.append_ne_nil_of_left_ne_nil begins _, small⟩,
    ?_, ?_⟩
  · simp only [Layout.text, digitChars_append, zeros_eq_digitChars]
    simp [marked, pointed, digitChars, Nat.digitChar]
  · have back : digits ++ List.replicate count 0 ++ [0] = digits ++ List.replicate (count + 1) 0 := by
      rw [List.replicate_succ', List.append_assoc]
    have exponent : (0 : Int) - [0].length + (count + 1 : Nat) = count := by
      rw [List.length_singleton]
      omega
    simp only [Layout.scaled, Option.getD_none, back, Scaled.bits_append_zeros, exponent]

/-- The point between two digits. -/
theorem exists_layout_between {count : Nat} (positive : 0 < count) (short : count < digits.length) :
    ∃ layout : Layout,
      layout.text = (digitChars digits).take count ++ '.' :: (digitChars digits).drop count ∧
        layout.scaled.bits = Scaled.bits ⟨digits, count - digits.length⟩ := by
  have behind : digits.drop count ≠ [] := by
    intro none
    exact absurd (List.drop_eq_nil_iff.mp none) (by omega)
  have before : digits.take count ≠ [] := by
    intro none
    rcases List.take_eq_nil_iff.mp none with zero | empty
    · omega
    · exact begins empty
  refine ⟨⟨digits.take count, digits.drop count, none, before, ?_⟩, ?_, ?_⟩
  · rwa [List.take_append_drop]
  · simp only [Layout.text, pointed_of_ne_nil behind]
    simp [marked, digitChars]
  · have exponent : (0 : Int) - (digits.drop count).length = count - digits.length := by
      rw [List.length_drop]
      omega
    simp only [Layout.scaled, Option.getD_none, List.take_append_drop, exponent]

/-- Positional writing is a layout of the same value. -/
theorem exists_layout_positional (point : Int) :
    ∃ layout : Layout, layout.text = positional (digitChars digits) point ∧
      layout.scaled.bits = Scaled.bits ⟨digits, point - digits.length⟩ := by
  have size : (digitChars digits).length = digits.length := List.length_map _
  unfold positional
  rw [size]
  split
  · next low =>
    have shift : -((-point).toNat : Int) = point := by omega
    have layout := exists_layout_below begins decimal (-point).toNat
    rwa [shift] at layout
  · split
    · next high =>
      have shift : ((point.toNat - digits.length : Nat) : Int) = point - digits.length := by omega
      have layout := exists_layout_above begins decimal (point.toNat - digits.length)
      rwa [shift] at layout
    · next inside =>
      have shift : (point.toNat : Int) = point := by omega
      have positive : 0 < point.toNat := by omega
      have layout := exists_layout_between begins decimal positive (Nat.lt_of_not_le inside)
      rwa [shift] at layout

/-- Writing with an exponent is a layout of the same value. -/
theorem exists_layout_scientific (point : Int) :
    ∃ layout : Layout, layout.text = scientific (digitChars digits) point ∧
      layout.scaled.bits = Scaled.bits ⟨digits, point - digits.length⟩ := by
  obtain ⟨first, others, rfl⟩ := List.exists_cons_of_ne_nil begins
  refine ⟨⟨[first], others, some (point - 1), by simp, decimal⟩, ?_, ?_⟩
  · cases others <;> rfl
  · have exponent : point - 1 - (others.length : Int) = point - (first :: others).length := by
      rw [List.length_cons]
      omega
    simp only [Layout.scaled, Option.getD_some, List.singleton_append, exponent]

end Writings

/-! ## Finite magnitudes -/

/-- The digits of a decimal without the zeros at their end. -/
def kept (digits : List Nat) : List Nat := (digits.reverse.dropWhile (· == 0)).reverse

theorem eq_kept_append_zeros (digits : List Nat) :
    ∃ count, digits = kept digits ++ List.replicate count 0 := by
  have zeros : ∀ digit ∈ digits.reverse.takeWhile (· == 0), digit = 0 := by
    intro digit member
    have satisfied : (digit == 0) = true := List.mem_takeWhile_imp (p := (· == 0)) member
    exact beq_iff_eq.mp satisfied
  refine ⟨(digits.reverse.takeWhile (· == 0)).length, ?_⟩
  have whole := congrArg List.reverse
    (List.takeWhile_append_dropWhile (p := (· == 0)) (l := digits.reverse))
  rw [List.reverse_append, List.reverse_reverse, List.eq_replicate_of_mem zeros,
    List.reverse_replicate] at whole
  exact whole.symm

/-- The way a decimal is written, by the place of its point. -/
def written (decimal : Scaled) : Text :=
  let digits := digitChars (kept decimal.digits)
  let point := decimal.digits.length + decimal.exponent
  if -4 < point ∧ point ≤ 16 then positional digits point else scientific digits point

theorem magnitudeText_eq_written {bits : Nat} (nonzero : bits ≠ 0) :
    magnitudeText bits = written (shortest bits) := by
  unfold magnitudeText
  rw [if_neg nonzero]
  -- the search for the decimal must not be unfolded
  generalize shortest bits = decimal
  rfl

/-- A decimal that is not zero is written as a layout of the same value. -/
theorem exists_layout_written {decimal : Scaled} (small : ∀ digit ∈ decimal.digits, digit < 10)
    (nonzero : decimal.bits ≠ 0) :
    ∃ layout : Layout, layout.text = written decimal ∧ layout.scaled.bits = decimal.bits := by
  obtain ⟨digits, exponent⟩ := decimal
  obtain ⟨count, shape⟩ := eq_kept_append_zeros digits
  have keptSmall : ∀ digit ∈ kept digits, digit < 10 := by
    intro digit member
    apply small digit
    rw [shape]
    exact List.mem_append_left _ member
  have begins : kept digits ≠ [] := by
    intro none
    rw [none, List.nil_append] at shape
    apply nonzero
    simp [shape, Scaled.bits]
  have value : Scaled.bits ⟨kept digits, digits.length + exponent - (kept digits).length⟩ =
      Scaled.bits ⟨digits, exponent⟩ := by
    have size := congrArg List.length shape
    rw [List.length_append, List.length_replicate] at size
    have shifted : digits.length + exponent - (kept digits).length = exponent + count := by omega
    rw [shifted, ← Scaled.bits_append_zeros, ← shape]
  unfold written
  dsimp only
  split
  · obtain ⟨layout, text, same⟩ := exists_layout_positional begins keptSmall (digits.length + exponent)
    exact ⟨layout, text, same.trans value⟩
  · obtain ⟨layout, text, same⟩ := exists_layout_scientific begins keptSmall (digits.length + exponent)
    exact ⟨layout, text, same.trans value⟩

/-- The text of a finite magnitude is a layout that reads as that magnitude. -/
theorem exists_layout_magnitudeText {bits : Nat} (finite : bits < infinityBits) :
    ∃ layout : Layout, layout.text = magnitudeText bits ∧ layout.scaled.bits = bits := by
  by_cases zero : bits = 0
  · subst zero
    exact ⟨⟨[0], [0], none, by simp, by decide⟩, rfl, rfl⟩
  · have read := shortest_bits (Nat.pos_of_ne_zero zero) finite
    obtain ⟨n, digits⟩ := shortest_digits bits
    have small : ∀ digit ∈ (shortest bits).digits, digit < 10 := by
      rw [digits]
      exact digitsOf_lt n
    obtain ⟨layout, text, same⟩ := exists_layout_written small (by rwa [read])
    exact ⟨layout, text.trans (magnitudeText_eq_written zero).symm, same.trans read⟩

/-! ## Signs and words -/

/-- A sign is a minus or nothing. -/
def signed (negative : Bool) (text : Text) : Text := if negative then '-' :: text else text

theorem signed_alphabet {text : Text} (plain : ∀ c ∈ text, c ∈ alphabet) (negative : Bool) :
    ∀ c ∈ signed negative text, c ∈ alphabet := by
  cases negative with
  | false => exact plain
  | true =>
    intro c member
    rcases List.mem_cons.mp member with rfl | behind
    · decide
    · exact plain c behind

theorem signed_ne_nil {text : Text} (inhabited : text ≠ []) (negative : Bool) :
    signed negative text ≠ [] := by
  cases negative with
  | false => exact inhabited
  | true => exact List.cons_ne_nil _ _

theorem parse?_signed {text : Text} (bare : splitSign text = (false, text)) (negative : Bool) :
    parse? (signed negative text) = (unsigned? text).map (negative, ·) := by
  cases negative with
  | false => simp only [signed, Bool.false_eq_true, if_false, parse?, bare]
  | true => rfl

/-- What a double is written as: the word for a NaN, or a word or a layout behind a sign. -/
theorem text_cases (x : Float) :
    (infinityBits < x.toBits.toNat % signBit ∧ text x = "nan".toList) ∨
      (x.toBits.toNat % signBit = infinityBits ∧
        text x = signed (decide (signBit ≤ x.toBits.toNat)) "inf".toList) ∨
      ∃ layout : Layout, layout.scaled.bits = x.toBits.toNat % signBit ∧
        text x = signed (decide (signBit ≤ x.toBits.toNat)) layout.text := by
  have sign (rest : Text) : (if signBit ≤ x.toBits.toNat then ['-'] else []) ++ rest =
      signed (decide (signBit ≤ x.toBits.toNat)) rest := by
    by_cases negative : signBit ≤ x.toBits.toNat <;> simp [signed, negative]
  simp only [text, sign]
  split
  · next beyond => exact .inl ⟨beyond, rfl⟩
  · next within =>
    split
    · next infinite => exact .inr (.inl ⟨infinite, rfl⟩)
    · next other =>
      have finite : x.toBits.toNat % signBit < infinityBits := by omega
      obtain ⟨layout, written, value⟩ := exists_layout_magnitudeText finite
      exact .inr (.inr ⟨layout, value, by rw [written]⟩)

theorem text_alphabet (x : Float) : ∀ c ∈ text x, c ∈ alphabet := by
  have words : "nan".toList ⊆ alphabet ∧ "inf".toList ⊆ alphabet := by decide
  rcases text_cases x with ⟨-, shape⟩ | ⟨-, shape⟩ | ⟨layout, -, shape⟩
  · rw [shape]
    exact words.1
  · rw [shape]
    exact signed_alphabet words.2 _
  · rw [shape]
    exact signed_alphabet layout.text_alphabet _

theorem not_mem_text {c : Char} (outside : c ∉ alphabet) (x : Float) : c ∉ text x :=
  fun member => outside (text_alphabet x c member)

theorem text_ne_nil (x : Float) : text x ≠ [] := by
  rcases text_cases x with ⟨-, shape⟩ | ⟨-, shape⟩ | ⟨layout, -, shape⟩
  · rw [shape]
    decide
  · rw [shape]
    exact signed_ne_nil (by decide) _
  · obtain ⟨digit, rest, -, begins⟩ := layout.text_head
    rw [shape, begins]
    exact signed_ne_nil (List.cons_ne_nil _ _) _

/-! ## Reading -/

theorem unseparated?_of_not_mem {text : Text} (plain : '_' ∉ text) (afterDigit : Bool) :
    unseparated? afterDigit text = some text := by
  induction text generalizing afterDigit with
  | nil => rfl
  | cons c rest ih =>
    obtain ⟨letter, others⟩ : '_' ≠ c ∧ '_' ∉ rest := by simpa using plain
    have tail := ih others (Text.isDigit c)
    simp only [unseparated?, Ne.symm letter, if_false, tail, Option.map_some]

theorem dropWhile_isPadding {text : Text} (solid : ∀ c ∈ text, isPadding c = false) :
    text.dropWhile isPadding = text := by
  cases text with
  | nil => rfl
  | cons c rest =>
    rw [List.dropWhile_cons_of_neg]
    simp [solid c List.mem_cons_self]

/-- A text without blanks and underscores is read as it stands. -/
theorem ofText?_eq_parse? {text : Text} (plain : '_' ∉ text) (solid : ∀ c ∈ text, isPadding c = false) :
    ofText? text = (parse? text).map fun numeral => numeral.2.toFloat numeral.1 := by
  have trimmed : text.trimWith isPadding = text := by
    rw [Text.trimWith, dropWhile_isPadding solid, dropWhile_isPadding, List.reverse_reverse]
    intro c member
    exact solid c (List.mem_reverse.mp member)
  rw [ofText?, trimmed, unseparated?_of_not_mem plain]
  change (parse? text).bind _ = _
  cases parse? text <;> rfl

/-- A text in the alphabet of numbers is read as it stands. -/
theorem ofText?_of_alphabet {text : Text} (plain : ∀ c ∈ text, c ∈ alphabet) :
    ofText? text = (parse? text).map fun numeral => numeral.2.toFloat numeral.1 := by
  have solid : alphabet.any isPadding = false := by decide
  apply ofText?_eq_parse?
  · intro member
    exact absurd (plain '_' member) (by decide)
  · intro c member
    simpa using List.any_eq_false.mp solid c (plain c member)

/-- The text of every double reads as that double. -/
theorem ofText?_text (x : Float) : ofText? (text x) = some x := by
  rw [ofText?_of_alphabet (text_alphabet x)]
  rcases text_cases x with ⟨beyond, shape⟩ | ⟨infinite, shape⟩ | ⟨layout, value, shape⟩
  · rw [shape]
    exact congrArg some (eq_nan_of_lt x beyond).symm
  · have read : unsigned? "inf".toList = some infinity := by decide
    rw [shape, parse?_signed (by decide), read, Option.map_some, Option.map_some, toFloat, ← infinite,
      ofMagnitude_toBits]
  · rw [shape, parse?_signed layout.splitSign_text, layout.unsigned?_text, Option.map_some,
      Option.map_some, toFloat, value, ofMagnitude_toBits]

/-- Doubles with one text are the same. -/
theorem text_injective : Function.Injective text := by
  intro x y same
  have read := congrArg ofText? same
  rw [ofText?_text, ofText?_text] at read
  exact Option.some.inj read

end ParenCalc.Number
