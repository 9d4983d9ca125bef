import Mathlib.Data.List.DropRight
import ParenCalc.Text.Basic

/-! # Trimmed text

A text is its trimmed part with blanks on either side. The trimmed part neither starts nor ends with
a blank, keeps every character that is not blank, and does not depend on blanks that are put to the
ends of the text.
-/

namespace ParenCalc.Text

/-- Nothing but blanks. -/
def AllBlank (text : Text) : Prop := ∀ c ∈ text, isBlank c = true

/-- Neither the first character is blank nor the last one. -/
def HasNoBlankEnd (text : Text) : Prop :=
  (∀ c ∈ text.head?, isBlank c = false) ∧ ∀ c ∈ text.getLast?, isBlank c = false

theorem trim_eq_rdropWhile (text : Text) :
    trim text = (text.dropWhile isBlank).rdropWhile isBlank := rfl

/-- Text that does not start with a blank loses nothing at its start. -/
theorem dropWhile_isBlank_of_head {text : Text} (first : ∀ c ∈ text.head?, isBlank c = false) :
    text.dropWhile isBlank = text := by
  cases text with
  | nil => rfl
  | cons c rest =>
    have letter : isBlank c = false := first c rfl
    rw [List.dropWhile_cons_of_neg (by simp [letter])]

theorem trim_dropWhile_isBlank (text : Text) : trim (text.dropWhile isBlank) = trim text := by
  rw [trim_eq_rdropWhile, List.dropWhile_idempotent, ← trim_eq_rdropWhile]

/-- Blanks at the start do not matter. -/
theorem trim_blanks_append {blanks : Text} (blank : AllBlank blanks) (text : Text) :
    trim (blanks ++ text) = trim text := by
  rw [trim_eq_rdropWhile, List.dropWhile_append_of_pos blank, ← trim_eq_rdropWhile]

/-- Blanks at the end do not matter. -/
theorem trim_append_blanks (text : Text) {blanks : Text} (blank : AllBlank blanks) :
    trim (text ++ blanks) = trim text := by
  rw [trim_eq_rdropWhile, trim_eq_rdropWhile, List.dropWhile_append]
  split
  · next nothing =>
    rw [List.isEmpty_iff.mp nothing, List.dropWhile_eq_nil_iff.mpr blank]
  · have reversed : ∀ c ∈ blanks.reverse, isBlank c = true :=
      fun c member => blank c (List.mem_reverse.mp member)
    rw [List.rdropWhile, List.reverse_append, List.dropWhile_append_of_pos reversed, ← List.rdropWhile]

/-- Text that does not start with a blank is its trimmed part, followed by blanks. -/
theorem exists_trim_append {text : Text} (first : ∀ c ∈ text.head?, isBlank c = false) :
    ∃ blanks, AllBlank blanks ∧ text = trim text ++ blanks := by
  refine ⟨text.rtakeWhile isBlank, ?_, ?_⟩
  · intro c member
    exact List.mem_rtakeWhile_imp member
  · rw [trim_eq_rdropWhile, dropWhile_isBlank_of_head first, List.rdropWhile_append_rtakeWhile]

/-- What is left of a text after the blanks at its start does not start with a blank. -/
theorem head?_dropWhile_isBlank (text : Text) :
    ∀ c ∈ (text.dropWhile isBlank).head?, isBlank c = false := by
  intro c first
  have stopped := List.head?_dropWhile_not isBlank text
  rw [Option.mem_def.mp first] at stopped
  exact stopped

/-- A text is its trimmed part between blanks. -/
theorem exists_append_trim_append (text : Text) :
    ∃ front back, AllBlank front ∧ AllBlank back ∧ text = front ++ (trim text ++ back) := by
  obtain ⟨back, blank, parts⟩ := exists_trim_append (head?_dropWhile_isBlank text)
  refine ⟨text.takeWhile isBlank, back, ?_, blank, ?_⟩
  · intro c member
    exact List.mem_takeWhile_imp member
  · rw [← trim_dropWhile_isBlank, ← parts, List.takeWhile_append_dropWhile]

/-- No blank is left at either end. -/
theorem hasNoBlankEnd_trim (text : Text) : HasNoBlankEnd (trim text) := by
  constructor
  · intro c first
    obtain ⟨blanks, -, parts⟩ := exists_trim_append (head?_dropWhile_isBlank text)
    apply head?_dropWhile_isBlank text c
    rw [parts, trim_dropWhile_isBlank, List.head?_append, Option.mem_def.mp first]
    rfl
  · intro c last
    have inhabited : trim text ≠ [] := by
      intro nothing
      rw [nothing] at last
      cases last
    rw [List.getLast?_eq_some_getLast inhabited] at last
    obtain rfl := Option.some.inj last
    exact Bool.eq_false_iff.mpr (List.rdropWhile_last_not isBlank _ inhabited)

/-- Text without a blank at either end is trimmed already. -/
theorem trim_of_hasNoBlankEnd {text : Text} (ends : HasNoBlankEnd text) : trim text = text := by
  rw [trim_eq_rdropWhile, dropWhile_isBlank_of_head ends.1, List.rdropWhile_eq_self_iff]
  intro inhabited
  have last := ends.2 _ (List.getLast?_eq_some_getLast inhabited)
  simp [last]

@[simp] theorem trim_trim (text : Text) : trim (trim text) = trim text :=
  trim_of_hasNoBlankEnd (hasNoBlankEnd_trim text)

/-- Every character that is not blank is kept. -/
theorem mem_trim {text : Text} {c : Char} (member : c ∈ text) (letter : isBlank c = false) :
    c ∈ trim text := by
  obtain ⟨front, back, blankFront, blankBack, parts⟩ := exists_append_trim_append text
  rw [parts, List.mem_append, List.mem_append] at member
  rcases member with before | inside | after
  · exact absurd (blankFront c before) (by simp [letter])
  · exact inside
  · exact absurd (blankBack c after) (by simp [letter])

/-- Nothing is left of blank text only. -/
theorem trim_eq_nil_iff (text : Text) : trim text = [] ↔ AllBlank text := by
  constructor
  · intro nothing c member
    by_contra letter
    have kept := mem_trim member (Bool.eq_false_iff.mpr letter)
    rw [nothing] at kept
    cases kept
  · intro blank
    have same := trim_blanks_append blank []
    rwa [List.append_nil] at same

end ParenCalc.Text
