import Mathlib.Algebra.Group.Nat.Defs
import Mathlib.Tactic.SplitIfs
import ParenCalc.Text.Quoted

/-! # Quoted text is read back

Every escaped character can be read from the front of a text, and no character is escaped to a text
that begins with the quote in use. So quoted text shows where it ends, whatever follows it, and two
texts that are quoted alike are the same. No line ends inside quoted text.
-/

namespace ParenCalc.Text

/-! ## Hexadecimal digits -/

/-- The hexadecimal digits, in the order of their values. -/
def hexDigits : Text := "0123456789abcdef".toList

/-- The value of a text of hexadecimal digits. -/
def valueOfHex (digits : Text) : Nat :=
  digits.foldl (fun value digit => 16 * value + hexDigits.idxOf digit) 0

theorem idxOf_digitChar : ∀ value < 16, hexDigits.idxOf (Nat.digitChar value) = value := by
  decide

/-- Digits of a sufficient width have the value they were written for. -/
theorem valueOfHex_ofHex {width n : Nat} (fits : n < 16 ^ width) : valueOfHex (ofHex width n) = n := by
  induction width generalizing n with
  | zero =>
    have zero : n = 0 := by simpa using fits
    rw [zero]
    rfl
  | succ width ih =>
    have front : valueOfHex (ofHex width (n / 16)) = n / 16 := by
      apply ih
      rw [Nat.pow_succ] at fits
      exact Nat.div_lt_of_lt_mul (by omega)
    have last : hexDigits.idxOf (Nat.digitChar (n % 16)) = n % 16 :=
      idxOf_digitChar _ (Nat.mod_lt _ (by decide))
    unfold valueOfHex at front ⊢
    rw [ofHex, List.foldl_append, front, List.foldl_cons, List.foldl_nil, last]
    exact Nat.div_add_mod n 16

theorem mem_hexDigits_of_mem_ofHex {width n : Nat} {c : Char} (member : c ∈ ofHex width n) :
    c ∈ hexDigits := by
  have table : ∀ value < 16, Nat.digitChar value ∈ hexDigits := by decide
  induction width generalizing n with
  | zero => cases member
  | succ width ih =>
    rcases List.mem_append.mp member with front | last
    · exact ih front
    · rw [List.mem_singleton.mp last]
      exact table _ (Nat.mod_lt _ (by decide))

/-! ## Escapes -/

/-- How many hexadecimal digits follow a mark. -/
def hexWidth? : Char → Option Nat
  | 'x' => some 2
  | 'u' => some 4
  | 'U' => some 8
  | _ => none

/-- The character that an escape with the given mark stands for, and what follows the escape. -/
def readMark (mark : Char) (rest : Text) : Char × Text :=
  match hexWidth? mark with
  | some width => (Char.ofNat (valueOfHex (rest.take width)), rest.drop width)
  | none =>
    if mark = 'n' then ('\n', rest)
    else if mark = 'r' then ('\r', rest)
    else if mark = 't' then ('\t', rest)
    else (mark, rest)

/-- The character at the front of a text, as it stands or escaped, and what follows it. -/
def readEscaped : Text → Option (Char × Text)
  | [] => none
  | c :: rest =>
    if c = backslash then rest.head?.map fun mark => readMark mark rest.tail
    else some (c, rest)

theorem readEscaped_plain {c : Char} (plain : c ≠ backslash) (rest : Text) :
    readEscaped (c :: rest) = some (c, rest) := if_neg plain

/-- A hexadecimal escape that is wide enough for a character stands for it. -/
theorem readMark_ofHex (mark : Char) {width : Nat} (marked : hexWidth? mark = some width) {c : Char}
    (fits : c.toNat < 16 ^ width) (rest : Text) :
    readMark mark (ofHex width c.toNat ++ rest) = (c, rest) := by
  have size := ofHex_length width c.toNat
  simp only [readMark, marked, List.take_left' size, List.drop_left' size, valueOfHex_ofHex fits,
    Char.ofNat_toNat]

theorem readEscaped_hexEscape (c : Char) (rest : Text) :
    readEscaped (hexEscape c ++ rest) = some (c, rest) := by
  have bound : c.toNat < 16 ^ 8 := c.val.toNat_lt
  unfold hexEscape
  split_ifs with byte pair
  · exact congrArg some (readMark_ofHex 'x' rfl byte rest)
  · exact congrArg some (readMark_ofHex 'u' rfl pair rest)
  · exact congrArg some (readMark_ofHex 'U' rfl bound rest)

/-- The characters that text is quoted with. -/
def IsQuote (quote : Char) : Prop := quote = apostrophe ∨ quote = doubleQuote

theorem isQuote_quoteFor (text : Text) : IsQuote (quoteFor text) := by
  unfold quoteFor
  split
  · exact .inr rfl
  · exact .inl rfl

theorem IsQuote.ne_backslash {quote : Char} (isQuote : IsQuote quote) : quote ≠ backslash := by
  rcases isQuote with rfl | rfl <;> decide

/-- An escaped character is read back, whatever follows it. -/
theorem readEscaped_escaped {quote : Char} (isQuote : IsQuote quote) (c : Char) (rest : Text) :
    readEscaped (escaped quote c ++ rest) = some (c, rest) := by
  unfold escaped
  split_ifs with special newline back tab printable
  · rcases special with rfl | rfl
    · rcases isQuote with rfl | rfl <;> rfl
    · rfl
  · rw [newline]
    rfl
  · rw [back]
    rfl
  · rw [tab]
    rfl
  · exact readEscaped_plain (fun same => special (.inr same)) rest
  · exact readEscaped_hexEscape c rest

/-! ## Quoted text -/

/-- Between quotes, text ends at the first quote that is not part of an escape. -/
theorem flatMap_escaped_append_inj {quote : Char} (isQuote : IsQuote quote) {left right : Text}
    {before after : Text}
    (same : left.flatMap (escaped quote) ++ quote :: before =
      right.flatMap (escaped quote) ++ quote :: after) :
    left = right ∧ before = after := by
  -- a text that is used up leaves the quote, which no escaped character begins with
  have ended (c : Char) (rest others : Text) : quote :: rest ≠ escaped quote c ++ others := by
    intro equal
    have read := congrArg readEscaped equal
    rw [readEscaped_escaped isQuote, readEscaped_plain isQuote.ne_backslash] at read
    obtain ⟨rfl, -⟩ := Prod.mk.inj (Option.some.inj read)
    rw [escaped, if_pos (.inl rfl)] at equal
    exact isQuote.ne_backslash (List.cons.inj equal).1
  induction left generalizing right with
  | nil =>
    cases right with
    | nil => exact ⟨rfl, (List.cons.inj same).2⟩
    | cons c others =>
      rw [List.flatMap_cons, List.append_assoc] at same
      exact absurd same (ended c _ _)
  | cons c rest ih =>
    rw [List.flatMap_cons, List.append_assoc] at same
    cases right with
    | nil => exact absurd same.symm (ended c _ _)
    | cons d others =>
      rw [List.flatMap_cons, List.append_assoc] at same
      have read := congrArg readEscaped same
      rw [readEscaped_escaped isQuote, readEscaped_escaped isQuote] at read
      obtain ⟨rfl, rests⟩ := Prod.mk.inj (Option.some.inj read)
      obtain ⟨rfl, behind⟩ := ih rests
      exact ⟨rfl, behind⟩

/-- Quoted text shows where it ends and what was quoted. -/
theorem quoted_append_inj {left right before after : Text}
    (same : quoted left ++ before = quoted right ++ after) : left = right ∧ before = after := by
  simp only [quoted, List.cons_append, List.append_assoc] at same
  obtain ⟨quote, behind⟩ := List.cons.inj same
  rw [quote] at behind
  exact flatMap_escaped_append_inj (isQuote_quoteFor right) behind

/-- No line ends inside an escaped character. -/
theorem newline_not_mem_escaped {quote : Char} (isQuote : IsQuote quote) (c : Char) :
    '\n' ∉ escaped quote c := by
  have digits (width : Nat) : '\n' ∉ ofHex width c.toNat := by
    intro member
    exact absurd (mem_hexDigits_of_mem_ofHex member) (by decide)
  unfold escaped
  split_ifs with special newline back tab printable
  · rcases special with rfl | rfl
    · rcases isQuote with rfl | rfl <;> decide
    · decide
  · decide
  · decide
  · decide
  · exact fun member => newline (List.mem_singleton.mp member).symm
  · unfold hexEscape
    split_ifs <;> simp [digits, backslash]

/-- Quoted text stands on one line. -/
theorem newline_not_mem_quoted (text : Text) : '\n' ∉ quoted text := by
  have isQuote := isQuote_quoteFor text
  have quote : '\n' ≠ quoteFor text := by
    rcases isQuote with shape | shape <;> rw [shape] <;> decide
  have inside : '\n' ∉ text.flatMap (escaped (quoteFor text)) := by
    intro member
    obtain ⟨c, -, escape⟩ := List.mem_flatMap.mp member
    exact newline_not_mem_escaped isQuote c escape
  simp [quoted, quote, inside]

end ParenCalc.Text
