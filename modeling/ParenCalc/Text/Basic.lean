import ParenCalc.Text.Characters

/-! # Text, words and lines

Text is a list of characters, so that lengths and columns count code points. A blank is any
character that separates words; trimming and splitting both use that one class. Everything about
`words` follows from `words_append_blank`: a blank divides the words before it from those after it.

A line ends at a line feed, at a carriage return, or at the two together. No other character
ends a line. A file that ends with the end of a line has no further, empty line.
-/

namespace ParenCalc

/-- Text is a sequence of characters. -/
abbrev Text := List Char

namespace Text

/-! ## Blanks and words -/

/-- The characters that separate words: controls that move the cursor and every kind of space. -/
def blankRuns : Runs :=
  [(0x0009, 0x000D), (0x001C, 0x0020), (0x0085, 0x0085), (0x00A0, 0x00A0), (0x1680, 0x1680),
   (0x2000, 0x200A), (0x2028, 0x2029), (0x202F, 0x202F), (0x205F, 0x205F), (0x3000, 0x3000)]

def isBlank (c : Char) : Bool := blankRuns.holds c

/-- Text without its first characters that satisfy `drop`, and without its last ones. -/
def trimWith (drop : Char → Bool) (text : Text) : Text :=
  ((text.dropWhile drop).reverse.dropWhile drop).reverse

/-- Text without the blanks at its two ends. -/
def trim (text : Text) : Text := trimWith isBlank text

/-- The maximal runs of characters that are not blank, in order. -/
def words : Text → List Text
  | [] => []
  | c :: rest =>
    if isBlank c then words rest
    else
      match rest with
      | [] => [[c]]
      | next :: _ =>
        if isBlank next then [c] :: words rest
        else
          match words rest with
          | [] => [[c]]
          | word :: others => (c :: word) :: others

@[simp] theorem words_nil : words [] = [] := rfl

theorem words_blank (c : Char) (rest : Text) (blank : isBlank c = true) :
    words (c :: rest) = words rest := by
  simp [words, blank]

/-- A character that is not blank belongs to a word. -/
theorem words_ne_nil (c : Char) (rest : Text) (letter : isBlank c = false) :
    words (c :: rest) ≠ [] := by
  rw [words.eq_def]
  simp only [letter, Bool.false_eq_true, if_false]
  split
  · simp
  · split
    · simp
    · split <;> simp

/-- A blank divides the words before it from the words after it. -/
theorem words_append_blank (before after : Text) (c : Char) (blank : isBlank c = true) :
    words (before ++ c :: after) = words before ++ words after := by
  induction before with
  | nil => exact words_blank c after blank
  | cons first rest ih =>
    by_cases skipped : isBlank first = true
    · rw [List.cons_append, words_blank _ _ skipped, words_blank _ _ skipped, ih]
    · cases rest with
      | nil => simp [words, skipped, blank]
      | cons next others =>
        simp only [List.cons_append] at ih ⊢
        rw [words, words]
        simp only [skipped, Bool.false_eq_true, if_false, ih]
        by_cases ended : isBlank next = true
        · simp [ended]
        · cases found : words (next :: others) with
          | nil => exact absurd found (words_ne_nil next others (by simpa using ended))
          | cons word more => simp [ended]

/-! ## Lines -/

/-- Every end of a line becomes a line feed. -/
def unified : Text → Text
  | [] => []
  | '\r' :: '\n' :: rest => '\n' :: unified rest
  | c :: rest => (if c = '\r' then '\n' else c) :: unified rest

/-- The lines of a text in which line feeds end lines, without their ends. -/
def splitLines : Text → List Text
  | [] => []
  | c :: rest =>
    if c = '\n' then [] :: splitLines rest
    else
      match splitLines rest with
      | [] => [[c]]
      | line :: others => (c :: line) :: others

/-- The lines of a file. -/
def lines (text : Text) : List Text := splitLines (unified text)

/-! ## Numbers and spaces -/

/-- A given number of spaces. -/
def spaces (count : Nat) : Text := List.replicate count ' '

@[simp] theorem spaces_length (count : Nat) : (spaces count).length = count := by
  simp [spaces]

/-- The digits of a natural number in base ten. -/
def ofNat (n : Nat) : Text := Nat.toDigits 10 n

/-- A minus sign for negative integers, then the digits. -/
def ofInt : Int → Text
  | .ofNat n => ofNat n
  | .negSucc n => '-' :: ofNat (n + 1)

/-- A fixed number of hexadecimal digits, in lower case. -/
def ofHex : Nat → Nat → Text
  | 0, _ => []
  | width + 1, n => ofHex width (n / 16) ++ [Nat.digitChar (n % 16)]

@[simp] theorem ofHex_length (width n : Nat) : (ofHex width n).length = width := by
  induction width generalizing n with
  | zero => rfl
  | succ width ih => simp [ofHex, ih]

end Text

end ParenCalc
