import ParenCalc.Proofs.Statement.Grouping
import ParenCalc.Proofs.Text.Trim

/-! # Tidy text

Tidying a line cuts off its comment first and its blanks afterwards, and joining trims once more. The
order makes no difference: a line may be trimmed before, and a tidy text that is put in front of a
line may be tidied again together with it. Hence the text of a statement over several lines does not
depend on who puts them together. No statement of a file is empty.
-/

namespace ParenCalc.Statement

open Text

/-- Text in which no comment starts is kept whole in front of any other. -/
theorem uncommented_append {front : Text} (free : ';' ∉ front) (text : Text) :
    uncommented (front ++ text) = front ++ uncommented text := by
  apply List.takeWhile_append_of_pos
  intro c member
  rw [bne_iff_ne]
  rintro rfl
  exact free member

theorem uncommented_of_not_mem {text : Text} (free : ';' ∉ text) : uncommented text = text := by
  simpa [uncommented] using uncommented_append free []

theorem not_mem_uncommented (line : Text) : ';' ∉ uncommented line := by
  intro member
  simpa using List.mem_takeWhile_imp member

theorem mem_of_mem_tidy {line : Text} {c : Char} (member : c ∈ tidy line) : c ∈ uncommented line := by
  obtain ⟨front, back, -, -, parts⟩ := exists_append_trim_append (uncommented line)
  rw [parts]
  exact List.mem_append_right _ (List.mem_append_left _ member)

/-- Tidy text holds no comment. -/
theorem not_mem_tidy (line : Text) : ';' ∉ tidy line :=
  fun member => not_mem_uncommented line (mem_of_mem_tidy member)

theorem not_mem_of_allBlank {blanks : Text} (blank : AllBlank blanks) : ';' ∉ blanks := by
  intro member
  exact absurd (blank ';' member) (by decide)

@[simp] theorem tidy_tidy (line : Text) : tidy (tidy line) = tidy line := by
  change trim (uncommented (tidy line)) = tidy line
  rw [uncommented_of_not_mem (not_mem_tidy line)]
  exact trim_trim _

/-- Blanks after a line stay blanks, unless they belong to its comment. -/
theorem exists_uncommented_append (line : Text) {blanks : Text} (blank : AllBlank blanks) :
    ∃ back, AllBlank back ∧ uncommented (line ++ blanks) = uncommented line ++ back := by
  unfold uncommented
  rw [List.takeWhile_append]
  split
  · next whole =>
    refine ⟨blanks.takeWhile (· != ';'), ?_, ?_⟩
    · intro c member
      exact blank c (List.takeWhile_subset _ member)
    · rw [(List.takeWhile_prefix _).eq_of_length whole]
  · exact ⟨[], by simp [AllBlank], (List.append_nil _).symm⟩

/-- A line may be trimmed before it is tidied. -/
theorem tidy_trim (line : Text) : tidy (trim line) = tidy line := by
  obtain ⟨front, back, blankFront, blankBack, parts⟩ := exists_append_trim_append line
  obtain ⟨rest, blankRest, cut⟩ := exists_uncommented_append (trim line) blankBack
  symm
  calc tidy line
    _ = trim (uncommented (front ++ (trim line ++ back))) := by rw [← parts]; rfl
    _ = trim (front ++ (uncommented (trim line) ++ rest)) := by
      rw [uncommented_append (not_mem_of_allBlank blankFront), cut]
    _ = trim (uncommented (trim line)) := by
      rw [trim_blanks_append blankFront, trim_append_blanks _ blankRest]

/-- A trimmed line without its comment starts with no blank. -/
theorem head?_uncommented_trim (line : Text) :
    ∀ c ∈ (uncommented (trim line)).head?, isBlank c = false := by
  intro c first
  apply (hasNoBlankEnd_trim line).1 c
  cases trimmed : trim line with
  | nil =>
    rw [trimmed] at first
    cases first
  | cons d rest =>
    rw [trimmed, uncommented, List.takeWhile_cons] at first
    split at first
    · exact first
    · cases first

/-- A line that goes on with a text is tidied together with it, or joined to it when it is tidy. -/
theorem tidy_append_trim {text : Text} (free : ';' ∉ text) (line : Text) :
    tidy (text ++ ' ' :: trim line) = joined text (tidy line) := by
  have spaced : ';' ∉ text ++ [' '] := by simp [free]
  obtain ⟨blanks, blank, parts⟩ := exists_trim_append (head?_uncommented_trim line)
  calc tidy (text ++ ' ' :: trim line)
    _ = trim (uncommented (text ++ [' '] ++ trim line)) := by
      rw [List.append_assoc]
      rfl
    _ = trim (text ++ ' ' :: uncommented (trim line)) := by
      rw [uncommented_append spaced, List.append_assoc]
      rfl
    _ = trim (text ++ ' ' :: (tidy (trim line) ++ blanks)) := by
      rw [parts]
      rfl
    _ = joined text (tidy line) := by
      rw [tidy_trim, ← List.cons_append, ← List.append_assoc, trim_append_blanks _ blank]
      rfl

theorem allBlank_space : AllBlank [' '] := by
  intro c member
  rw [List.mem_singleton.mp member]
  decide

theorem joined_nil_left (line : Text) : joined [] (tidy line) = tidy line :=
  (trim_blanks_append allBlank_space (tidy line)).trans (trim_trim _)

/-- Nothing is joined to a text that has no blank at its ends. -/
theorem joined_nil_right {text : Text} (ends : HasNoBlankEnd text) : joined text [] = text :=
  (trim_append_blanks text allBlank_space).trans (trim_of_hasNoBlankEnd ends)

/-- An open text holds a parenthesis. -/
theorem opening_mem_of_isOpen {text : Text} (unfinished : isOpen text = true) : '(' ∈ text := by
  have more := (isOpen_iff text).mp unfinished
  exact List.count_pos_iff.mp (by omega)

/-- A text that goes on with an open one is not empty. -/
theorem joined_ne_nil {text : Text} (unfinished : isOpen text = true) (further : Text) :
    joined text further ≠ [] := by
  have inside : '(' ∈ text ++ ' ' :: further :=
    List.mem_append_left _ (opening_mem_of_isOpen unfinished)
  exact List.ne_nil_of_mem (mem_trim inside (by decide))

/-! ## No statement is empty -/

/-- A line that is taken in leaves no statement empty. -/
theorem text_ne_nil_extended {collected : List Statement} (line : Text) (number : Int)
    (inhabited : ∀ statement ∈ collected, statement.text ≠ []) :
    ∀ statement ∈ extended collected line number, statement.text ≠ [] := by
  unfold extended
  obtain ⟨latest, earlier, rfl, unfinished, taken⟩ | ⟨-, some, taken⟩ | ⟨-, -, taken⟩ :=
    absorb_cases collected line number
  · rw [taken]
    have others := (List.forall_mem_cons.mp inhabited).2
    exact List.forall_mem_cons.mpr ⟨joined_ne_nil unfinished _, others⟩
  · rw [taken]
    exact List.forall_mem_cons.mpr ⟨some, inhabited⟩
  · rw [taken]
    exact inhabited

theorem text_ne_nil_absorbAll {collected : List Statement} (number : Int) (lines : List Text)
    (inhabited : ∀ statement ∈ collected, statement.text ≠ []) :
    ∀ statement ∈ absorbAll (goesOn collected) collected number lines, statement.text ≠ [] := by
  induction lines generalizing collected number with
  | nil => exact inhabited
  | cons line rest ih =>
    rw [absorbAll_cons]
    exact ih (number + 1) (text_ne_nil_extended line number inhabited)

/-- No statement of a file is empty. -/
theorem text_ne_nil_of_mem_group {lines : List Text} {statement : Statement}
    (member : statement ∈ group lines) : statement.text ≠ [] := by
  rw [group, List.mem_reverse] at member
  have none : ∀ other ∈ ([] : List Statement), other.text ≠ [] := by simp
  exact text_ne_nil_absorbAll 1 lines none statement member

end ParenCalc.Statement
