import Mathlib.Data.List.Forall2
import Mathlib.Data.List.TakeWhile
import ParenCalc.Decimal.Numeral

/-! # How numerals are spelled

The grammar of numerals, each part with what it stands for. A sign is optional. After it comes a word
in any mixture of cases, or digits of any script with an optional point among them and an optional
exponent behind them. The parts begin with characters that cannot belong to the part before, so the
reader, which takes as many digits as it can, finds exactly these parts: `parse?_eq_some_iff`. A digit
matters by its value only, so its script can be changed.
-/

namespace ParenCalc.Decimal.Numeral

/-! ## The grammar -/

/-- Digits of any script, with their values. -/
def Digits (text : Text) (values : List Nat) : Prop :=
  List.Forall₂ (fun c value => Text.digitValue? c = some value) text values

/-- An optional sign, and whether it is a minus. -/
inductive SpellsSign : Text → Bool → Prop
  | none : SpellsSign [] false
  | plus : SpellsSign ['+'] false
  | minus : SpellsSign ['-'] true

/-- Digits with an optional point, at least one of them on one side of it. -/
inductive SpellsPlaces : Text → List Nat → List Nat → Prop
  | whole {text : Text} {values : List Nat} (digits : Digits text values) (inhabited : values ≠ []) :
      SpellsPlaces text values []
  | pointed {before after : Text} {whole fraction : List Nat} (left : Digits before whole)
      (right : Digits after fraction) (inhabited : whole ++ fraction ≠ []) :
      SpellsPlaces (before ++ '.' :: after) whole fraction

/-- An optional exponent: its mark, an optional sign, and digits. -/
inductive SpellsExponent : Text → Int → Prop
  | none : SpellsExponent [] 0
  | some {mark : Char} {sign text : Text} {negative : Bool} {values : List Nat}
      (marked : mark = 'e' ∨ mark = 'E') (signed : SpellsSign sign negative)
      (digits : Digits text values) (inhabited : values ≠ []) :
      SpellsExponent (mark :: (sign ++ text))
        (if negative then -Text.valueOfDigits values else Text.valueOfDigits values)

/-- Digits with an optional point and an optional exponent. -/
inductive SpellsDecimal : Text → Scaled → Prop
  | scaled {places text : Text} {whole fraction : List Nat} {exponent : Int}
      (digits : SpellsPlaces places whole fraction) (power : SpellsExponent text exponent) :
      SpellsDecimal (places ++ text) ⟨whole ++ fraction, exponent - fraction.length⟩

/-- The letters of a word, each of them small or capital. -/
def SameLetters (text word : Text) : Prop :=
  List.Forall₂ (fun c letter => c = letter ∨ c = letter.toUpper) text word

/-- A word or a decimal. -/
inductive SpellsUnsigned : Text → Numeral → Prop
  | infinity {text : Text}
      (word : SameLetters text "inf".toList ∨ SameLetters text "infinity".toList) :
      SpellsUnsigned text infinity
  | nan {text : Text} (word : SameLetters text "nan".toList) : SpellsUnsigned text nan
  | decimal {text : Text} {value : Scaled} (digits : SpellsDecimal text value) :
      SpellsUnsigned text (decimal value)

/-- A word or a decimal with an optional sign, and whether the sign is a minus. -/
inductive Spells : Text → Bool → Numeral → Prop
  | signed {sign text : Text} {negative : Bool} {numeral : Numeral}
      (front : SpellsSign sign negative) (unsigned : SpellsUnsigned text numeral) :
      Spells (sign ++ text) negative numeral

/-! ## Signs and digits -/

theorem exists_splitSign (text : Text) :
    ∃ sign, text = sign ++ (splitSign text).2 ∧ SpellsSign sign (splitSign text).1 := by
  rw [splitSign.eq_def]
  split
  · exact ⟨['-'], rfl, .minus⟩
  · exact ⟨['+'], rfl, .plus⟩
  · exact ⟨[], rfl, .none⟩

/-- Text that does not start with a sign has none. -/
theorem splitSign_of_head {text : Text} (unsigned : ∀ c ∈ text.head?, c ≠ '-' ∧ c ≠ '+') :
    splitSign text = (false, text) := by
  rw [splitSign.eq_def]
  split
  · exact absurd rfl (unsigned '-' rfl).1
  · exact absurd rfl (unsigned '+' rfl).2
  · rfl

theorem splitSign_append {sign text : Text} {negative : Bool} (signed : SpellsSign sign negative)
    (unsigned : ∀ c ∈ text.head?, c ≠ '-' ∧ c ≠ '+') : splitSign (sign ++ text) = (negative, text) := by
  cases signed with
  | none => exact splitSign_of_head unsigned
  | plus => rfl
  | minus => rfl

theorem exists_splitDigits (text : Text) :
    ∃ front, text = front ++ (splitDigits text).2 ∧ Digits front (splitDigits text).1 := by
  fun_induction splitDigits text with
  | case1 => exact ⟨[], rfl, .nil⟩
  | case2 c rest digit value split ih =>
    obtain ⟨front, parts, digits⟩ := ih
    exact ⟨c :: front, congrArg (c :: ·) parts, .cons value digits⟩
  | case3 c rest other => exact ⟨[], rfl, .nil⟩

/-- Digits are split off in front of a text that does not go on with a digit. -/
theorem splitDigits_append {front rest : Text} {values : List Nat} (digits : Digits front values)
    (stop : ∀ c ∈ rest.head?, Text.digitValue? c = none) :
    splitDigits (front ++ rest) = (values, rest) := by
  induction digits with
  | nil =>
    cases rest with
    | nil => rfl
    | cons c rest =>
      have other : Text.digitValue? c = none := stop c rfl
      simp only [List.nil_append, splitDigits, other]
  | cons value _ ih => simp only [List.cons_append, splitDigits, value, ih]

/-- Digits alone are split off. -/
theorem splitDigits_of_digits {text : Text} {values : List Nat} (digits : Digits text values) :
    splitDigits text = (values, []) := by
  have split : splitDigits (text ++ []) = (values, []) := splitDigits_append digits nofun
  rwa [List.append_nil] at split

theorem Digits.isDigit_head {text : Text} {values : List Nat} (digits : Digits text values) {c : Char}
    (first : c ∈ text.head?) : Text.isDigit c = true := by
  cases digits with
  | nil => cases first
  | cons value _ =>
    cases first
    simp [Text.isDigit, value]

theorem not_sign_of_isDigit {c : Char} (digit : Text.isDigit c = true) : c ≠ '-' ∧ c ≠ '+' := by
  constructor <;> rintro rfl <;> exact absurd digit (by decide)

/-! ## Exponents -/

/-- An exponent starts with its mark. -/
theorem SpellsExponent.head {text : Text} {exponent : Int} (spelled : SpellsExponent text exponent)
    {c : Char} (first : c ∈ text.head?) : c = 'e' ∨ c = 'E' := by
  cases spelled with
  | none => cases first
  | some marked _ _ _ =>
    cases first
    exact marked

theorem exponent?_of_spells {text : Text} {exponent : Int} (spelled : SpellsExponent text exponent) :
    exponent? text = some exponent := by
  cases spelled with
  | none => rfl
  | some marked signed digits inhabited =>
    have unsigned := splitSign_append signed fun c first => not_sign_of_isDigit (digits.isDigit_head first)
    obtain ⟨first, others, rfl⟩ := List.exists_cons_of_ne_nil inhabited
    simp only [exponent?, marked, if_true, unsigned, splitDigits_of_digits digits]

theorem spells_of_exponent? {text : Text} {exponent : Int} (read : exponent? text = some exponent) :
    SpellsExponent text exponent := by
  cases text with
  | nil =>
    cases read
    exact .none
  | cons mark rest =>
    obtain ⟨sign, parts, signed⟩ := exists_splitSign rest
    rw [exponent?] at read
    generalize splitSign rest = cut at parts signed read
    obtain ⟨negative, unsigned⟩ := cut
    obtain ⟨front, whole, digits⟩ := exists_splitDigits unsigned
    split at read
    · next marked =>
      dsimp only at read
      split at read
      · next first others split =>
        cases read
        rw [split] at whole digits
        rw [List.append_nil] at whole
        rw [parts, whole]
        exact .some marked signed digits (List.cons_ne_nil _ _)
      · cases read
    · cases read

/-! ## Decimals -/

/-- Behind the first digits comes a point with more digits, or no fraction is split off. -/
theorem exists_splitFraction (text : Text) :
    splitFraction text = ([], text) ∨
      ∃ front, text = '.' :: (front ++ (splitFraction text).2) ∧ Digits front (splitFraction text).1 := by
  rw [splitFraction.eq_def]
  split
  · next rest =>
    obtain ⟨front, parts, digits⟩ := exists_splitDigits rest
    exact .inr ⟨front, congrArg ('.' :: ·) parts, digits⟩
  · exact .inl rfl

theorem splitFraction_of_head {text : Text} (other : ∀ c ∈ text.head?, c ≠ '.') :
    splitFraction text = ([], text) := by
  rw [splitFraction.eq_def]
  split
  · exact absurd rfl (other '.' rfl)
  · rfl

theorem decimal?_of_spells {text : Text} {value : Scaled} (spelled : SpellsDecimal text value) :
    decimal? text = some value := by
  obtain @⟨places, text, whole, fraction, exponent, digits, power⟩ := spelled
  have marked := exponent?_of_spells power
  have stop : ∀ c ∈ text.head?, Text.digitValue? c = none ∧ c ≠ '.' := by
    intro c first
    obtain rfl | rfl := power.head first <;> decide
  cases digits with
  | whole digits inhabited =>
    have before := splitDigits_append digits fun c first => (stop c first).1
    have behind := splitFraction_of_head fun c first => (stop c first).2
    simp [decimal?, before, behind, marked, inhabited]
  | @pointed before after _ _ left right inhabited =>
    have point : ∀ c ∈ ('.' :: (after ++ text)).head?, Text.digitValue? c = none := by
      rintro c ⟨⟩
      decide
    have ahead := splitDigits_append left point
    have behind : splitFraction ('.' :: (after ++ text)) = (fraction, text) :=
      splitDigits_append right fun c first => (stop c first).1
    have some : ¬(whole = [] ∧ fraction = []) := by simpa using inhabited
    simp [decimal?, List.append_assoc, ahead, behind, marked, some]

theorem spells_of_decimal? {text : Text} {value : Scaled} (read : decimal? text = some value) :
    SpellsDecimal text value := by
  obtain ⟨before, parts, left⟩ := exists_splitDigits text
  rw [decimal?] at read
  generalize splitDigits text = cut at parts left read
  obtain ⟨whole, afterWhole⟩ := cut
  have point := exists_splitFraction afterWhole
  dsimp only at parts left read
  generalize splitFraction afterWhole = cut at point read
  obtain ⟨fraction, afterFraction⟩ := cut
  dsimp only at point read
  split at read
  · cases read
  · next some =>
    obtain ⟨exponent, power, rfl⟩ := Option.map_eq_some_iff.mp read
    have spelled := spells_of_exponent? power
    rw [parts]
    obtain same | ⟨after, behind, right⟩ := point
    · cases same
      exact .scaled (.whole left (by simpa using some)) spelled
    · rw [behind, ← List.cons_append, ← List.append_assoc]
      exact .scaled (.pointed left right (by simpa using some)) spelled

/-! ## Words -/

theorem isLower_iff (c : Char) : c.isLower = true ↔ 97 ≤ c.toNat ∧ c.toNat ≤ 122 := by
  change (decide (c.val ≥ 'a'.val) && decide (c.val ≤ 'z'.val)) = true ↔ _
  simp [UInt32.le_iff_toNat_le]

theorem isAlpha_iff (c : Char) :
    c.isAlpha = true ↔ 65 ≤ c.toNat ∧ c.toNat ≤ 90 ∨ 97 ≤ c.toNat ∧ c.toNat ≤ 122 := by
  change (decide (c.val ≥ 'A'.val ∧ c.val ≤ 'Z'.val) || c.isLower) = true ↔ _
  rw [Bool.or_eq_true, isLower_iff]
  simp [UInt32.le_iff_toNat_le]

theorem toNat_toLower (c : Char) :
    c.toLower.toNat = if 65 ≤ c.toNat ∧ c.toNat ≤ 90 then c.toNat + 32 else c.toNat := by
  have same : c.val ≥ 'A'.val ∧ c.val ≤ 'Z'.val ↔ 65 ≤ c.toNat ∧ c.toNat ≤ 90 := by
    simp [UInt32.le_iff_toNat_le]
  by_cases capital : c.val ≥ 'A'.val ∧ c.val ≤ 'Z'.val
  · have lowered : c.toLower.val = c.val + ('a'.val - 'A'.val) := by
      delta Char.toLower
      rw [dif_pos capital]
    have difference : ('a'.val - 'A'.val).toNat = 32 := by decide
    have bounds := same.mp capital
    rw [← Char.toNat_val, lowered, UInt32.toNat_add, difference, Char.toNat_val, if_pos bounds]
    omega
  · have kept : c.toLower = c := dif_neg capital
    rw [kept, if_neg (same.not.mp capital)]

theorem toNat_toUpper {letter : Char} (small : letter.isLower = true) :
    letter.toUpper.toNat + 32 = letter.toNat := by
  have bounds := (isLower_iff letter).mp small
  have range : 'a'.val ≤ letter.val ∧ letter.val ≤ 'z'.val := by
    simpa [UInt32.le_iff_toNat_le] using bounds
  have raised : letter.toUpper.val = letter.val + ('A'.val - 'a'.val) := by
    delta Char.toUpper
    rw [dif_pos range]
  have difference : ('A'.val - 'a'.val).toNat = 2 ^ 32 - 32 := by decide
  rw [← Char.toNat_val, raised, UInt32.toNat_add, difference, Char.toNat_val]
  omega

theorem toLower_eq_iff {letter : Char} (small : letter.isLower = true) (c : Char) :
    c.toLower = letter ↔ c = letter ∨ c = letter.toUpper := by
  have range := (isLower_iff letter).mp small
  have capital := toNat_toUpper small
  rw [← Char.toNat_inj, ← Char.toNat_inj, ← Char.toNat_inj, toNat_toLower]
  split <;> omega

/-- A letter in either case is a letter. -/
theorem isAlpha_of_sameLetter {letter : Char} (small : letter.isLower = true) {c : Char}
    (same : c = letter ∨ c = letter.toUpper) : c.isAlpha = true := by
  have range := (isLower_iff letter).mp small
  have capital := toNat_toUpper small
  rw [isAlpha_iff]
  rcases same with rfl | rfl <;> omega

/-- A text has the letters of a word in small letters exactly when it becomes the word in them. -/
theorem sameLetters_iff {word : Text} (small : word.all Char.isLower = true) (text : Text) :
    SameLetters text word ↔ text.map Char.toLower = word := by
  induction word generalizing text with
  | nil => simp [SameLetters]
  | cons letter rest ih =>
    obtain ⟨first, others⟩ : letter.isLower = true ∧ rest.all Char.isLower = true := by
      simpa only [List.all_cons, Bool.and_eq_true] using small
    cases text with
    | nil => simp [SameLetters]
    | cons c text =>
      have tail := ih others text
      rw [SameLetters] at tail ⊢
      rw [List.forall₂_cons, tail, List.map_cons, List.cons.injEq, toLower_eq_iff first]

/-- Letters are no digits of any script. -/
theorem digitValue?_of_isAlpha {c : Char} (letter : c.isAlpha = true) : Text.digitValue? c = none := by
  have apart : ∀ start ∈ Text.digitZeros, start + 10 ≤ 65 ∨ 122 < start := by decide
  have bounds := (isAlpha_iff c).mp letter
  rw [Text.digitValue?, Option.map_eq_none_iff, List.find?_eq_none]
  intro start member
  have side := apart start member
  simp only [Bool.and_eq_true, decide_eq_true_eq]
  omega

theorem SameLetters.isAlpha {text word : Text} (small : word.all Char.isLower = true)
    (same : SameLetters text word) : ∀ c ∈ text, c.isAlpha = true := by
  induction same with
  | nil => exact List.forall_mem_nil _
  | @cons c letter _ _ first _ ih =>
    rw [List.all_cons, Bool.and_eq_true] at small
    exact List.forall_mem_cons.mpr ⟨isAlpha_of_sameLetter small.1 first, ih small.2⟩

/-! ## Whole numerals -/

/-- What starts a decimal: a digit or the point. -/
theorem SpellsDecimal.exists_head {text : Text} {value : Scaled} (spelled : SpellsDecimal text value) :
    ∃ c rest, text = c :: rest ∧ (Text.isDigit c = true ∨ c = '.') := by
  obtain @⟨places, text, whole, fraction, exponent, digits, power⟩ := spelled
  cases digits with
  | whole digits inhabited =>
    cases digits with
    | nil => exact absurd rfl inhabited
    | cons value _ => exact ⟨_, _, rfl, .inl (by simp [Text.isDigit, value])⟩
  | pointed left _ _ =>
    cases left with
    | nil => exact ⟨_, _, rfl, .inr rfl⟩
    | cons value _ => exact ⟨_, _, rfl, .inl (by simp [Text.isDigit, value])⟩

/-- What starts a decimal starts no word. -/
theorem toLower_ne_of_start {c : Char} (start : Text.isDigit c = true ∨ c = '.') {letter : Char}
    (small : letter.isLower = true) : c.toLower ≠ letter := by
  intro word
  have alpha := isAlpha_of_sameLetter small ((toLower_eq_iff small c).mp word)
  rcases start with digit | rfl
  · simp [Text.isDigit, digitValue?_of_isAlpha alpha] at digit
  · cases alpha

theorem unsigned?_of_spells {text : Text} {numeral : Numeral} (spelled : SpellsUnsigned text numeral) :
    unsigned? text = some numeral := by
  unfold unsigned?
  cases spelled with
  | infinity word =>
    rw [sameLetters_iff rfl, sameLetters_iff rfl] at word
    exact if_pos word
  | nan word =>
    rw [sameLetters_iff rfl] at word
    rw [word]
    rfl
  | decimal digits =>
    obtain ⟨c, rest, shape, start⟩ := digits.exists_head
    have infinite : ¬(text.map Char.toLower = "inf".toList ∨ text.map Char.toLower = "infinity".toList) := by
      rw [shape]
      rintro (word | word)
      · exact toLower_ne_of_start start rfl (List.cons.inj word).1
      · exact toLower_ne_of_start start rfl (List.cons.inj word).1
    have undefined : text.map Char.toLower ≠ "nan".toList := by
      rw [shape]
      intro word
      exact toLower_ne_of_start start rfl (List.cons.inj word).1
    rw [if_neg infinite, if_neg undefined, decimal?_of_spells digits]
    rfl

theorem spells_of_unsigned? {text : Text} {numeral : Numeral} (read : unsigned? text = some numeral) :
    SpellsUnsigned text numeral := by
  rw [unsigned?] at read
  split at read
  · next word =>
    cases read
    exact .infinity (word.imp (sameLetters_iff rfl text).mpr (sameLetters_iff rfl text).mpr)
  · split at read
    · next word =>
      cases read
      exact .nan ((sameLetters_iff rfl text).mpr word)
    · obtain ⟨value, digits, rfl⟩ := Option.map_eq_some_iff.mp read
      exact .decimal (spells_of_decimal? digits)

/-- Words are made of letters. -/
theorem SpellsUnsigned.word_or_decimal {text : Text} {numeral : Numeral}
    (spelled : SpellsUnsigned text numeral) :
    (∀ c ∈ text, c.isAlpha = true) ∨ ∃ value, numeral = .decimal value ∧ SpellsDecimal text value := by
  cases spelled with
  | infinity word =>
    rcases word with short | long
    · exact .inl (short.isAlpha rfl)
    · exact .inl (long.isAlpha rfl)
  | nan word => exact .inl (word.isAlpha rfl)
  | decimal digits => exact .inr ⟨_, rfl, digits⟩

/-- A numeral without a sign starts with none. -/
theorem SpellsUnsigned.head {text : Text} {numeral : Numeral} (spelled : SpellsUnsigned text numeral)
    {c : Char} (first : c ∈ text.head?) : c ≠ '-' ∧ c ≠ '+' := by
  rcases spelled.word_or_decimal with letters | ⟨value, -, digits⟩
  · have letter := letters c (List.mem_of_mem_head? first)
    constructor <;> rintro rfl <;> cases letter
  · obtain ⟨c, rest, rfl, start⟩ := digits.exists_head
    cases first
    rcases start with digit | rfl
    · exact not_sign_of_isDigit digit
    · decide

/-- The reader of numerals accepts what the grammar spells, and reads what it stands for. -/
theorem parse?_eq_some_iff (text : Text) (negative : Bool) (numeral : Numeral) :
    parse? text = some (negative, numeral) ↔ Spells text negative numeral := by
  constructor
  · intro read
    obtain ⟨sign, parts, signed⟩ := exists_splitSign text
    rw [parse?] at read
    generalize splitSign text = cut at parts signed read
    obtain ⟨minus, rest⟩ := cut
    obtain ⟨found, unsigned, same⟩ := Option.map_eq_some_iff.mp read
    cases same
    rw [parts]
    exact .signed signed (spells_of_unsigned? unsigned)
  · rintro ⟨front, unsigned⟩
    rw [parse?, splitSign_append front fun c first => unsigned.head first]
    exact congrArg (Option.map _) (unsigned?_of_spells unsigned)

/-! ## Digits of another script -/

/-- The same character, or digits of the same value. -/
def SameDigit (written c : Char) : Prop :=
  written = c ∨ ∃ value, Text.digitValue? written = some value ∧ Text.digitValue? c = some value

/-- The same text, except for the scripts of its digits. -/
def SameDigits (written text : Text) : Prop := List.Forall₂ SameDigit written text

theorem SameDigit.eq {written c : Char} (same : SameDigit written c)
    (other : Text.digitValue? c = none) : written = c := by
  rcases same with rfl | ⟨value, -, digit⟩
  · rfl
  · rw [other] at digit
    cases digit

theorem SameDigits.eq {written text : Text} (same : SameDigits written text)
    (other : ∀ c ∈ text, Text.digitValue? c = none) : written = text := by
  induction same with
  | nil => rfl
  | cons first _ ih =>
    obtain ⟨head, tail⟩ := List.forall_mem_cons.mp other
    rw [first.eq head, ih tail]

/-- Such a text is divided where the other one is. -/
theorem SameDigits.exists_append {written front rest : Text}
    (same : SameDigits written (front ++ rest)) :
    ∃ before after, written = before ++ after ∧ SameDigits before front ∧ SameDigits after rest :=
  ⟨_, _, (List.take_append_drop front.length written).symm, List.forall₂_take_append _ _ _ same,
    List.forall₂_drop_append _ _ _ same⟩

theorem SameDigits.exists_cons {written text : Text} {c : Char} (other : Text.digitValue? c = none)
    (same : SameDigits written (c :: text)) :
    ∃ after, written = c :: after ∧ SameDigits after text := by
  obtain ⟨first, after, head, tail, rfl⟩ := List.forall₂_cons_right_iff.mp same
  exact ⟨after, by rw [head.eq other], tail⟩

theorem Digits.of_same {written text : Text} {values : List Nat} (same : SameDigits written text)
    (digits : Digits text values) : Digits written values := by
  induction digits generalizing written with
  | nil =>
    obtain rfl := List.forall₂_nil_right_iff.mp same
    exact .nil
  | cons value _ ih =>
    obtain ⟨first, after, head, tail, rfl⟩ := List.forall₂_cons_right_iff.mp same
    refine .cons ?_ (ih tail)
    rcases head with rfl | ⟨other, here, there⟩
    · exact value
    · rw [here, ← there, value]

theorem SpellsSign.of_same {written text : Text} {negative : Bool} (same : SameDigits written text)
    (signed : SpellsSign text negative) : SpellsSign written negative := by
  have kept : written = text := by
    apply same.eq
    cases signed with
    | none => exact List.forall_mem_nil _
    | plus => exact List.forall_mem_singleton.mpr (by decide)
    | minus => exact List.forall_mem_singleton.mpr (by decide)
  rwa [kept]

theorem SpellsPlaces.of_same {written text : Text} {whole fraction : List Nat}
    (same : SameDigits written text) (spelled : SpellsPlaces text whole fraction) :
    SpellsPlaces written whole fraction := by
  cases spelled with
  | whole digits inhabited => exact .whole (digits.of_same same) inhabited
  | pointed left right inhabited =>
    obtain ⟨before, pointed, rfl, sameLeft, samePoint⟩ := same.exists_append
    obtain ⟨after, rfl, sameRight⟩ := samePoint.exists_cons (by decide)
    exact .pointed (left.of_same sameLeft) (right.of_same sameRight) inhabited

theorem SpellsExponent.of_same {written text : Text} {exponent : Int}
    (same : SameDigits written text) (spelled : SpellsExponent text exponent) :
    SpellsExponent written exponent := by
  cases spelled with
  | none =>
    obtain rfl := List.forall₂_nil_right_iff.mp same
    exact .none
  | @some mark _ _ _ _ marked signed digits inhabited =>
    have letter : mark.isAlpha = true := by rcases marked with rfl | rfl <;> rfl
    obtain ⟨after, rfl, behind⟩ := same.exists_cons (digitValue?_of_isAlpha letter)
    obtain ⟨sign, number, rfl, sameSign, sameNumber⟩ := behind.exists_append
    exact .some marked (signed.of_same sameSign) (digits.of_same sameNumber) inhabited

theorem SpellsUnsigned.of_same {written text : Text} {numeral : Numeral}
    (same : SameDigits written text) (spelled : SpellsUnsigned text numeral) :
    SpellsUnsigned written numeral := by
  rcases spelled.word_or_decimal with letters | ⟨value, rfl, digits⟩
  · rwa [same.eq fun c member => digitValue?_of_isAlpha (letters c member)]
  · obtain ⟨places, power⟩ := digits
    obtain ⟨before, after, rfl, samePlaces, samePower⟩ := same.exists_append
    exact .decimal (.scaled (places.of_same samePlaces) (power.of_same samePower))

/-- What a numeral stands for does not depend on the scripts of its digits. -/
theorem Spells.of_same {written text : Text} {negative : Bool} {numeral : Numeral}
    (same : SameDigits written text) (spelled : Spells text negative numeral) :
    Spells written negative numeral := by
  obtain ⟨front, unsigned⟩ := spelled
  obtain ⟨sign, rest, rfl, sameSign, sameRest⟩ := same.exists_append
  exact .signed (front.of_same sameSign) (unsigned.of_same sameRest)

end ParenCalc.Decimal.Numeral
