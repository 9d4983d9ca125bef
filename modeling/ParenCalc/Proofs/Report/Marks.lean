import Mathlib.Order.Bounds.Basic
import ParenCalc.Proofs.Report.Located

/-! # The marks below a line

A diagnosis is the line and a second line below it, both set in by two spaces. The marks begin in the
column in which the culprit starts for the first time, and there are as many of them as the culprit has
characters, but never none. Emphasis is put around the culprit and around the marks, and changes nothing
else.
-/

namespace ParenCalc.Diagnosis

/-- A mark for each character of a culprit, and one for a culprit without characters. -/
def marks (width : Nat) : Text := '^' :: List.replicate (max width 1 - 1) '~'

/-- The columns in which a text stands in a line. -/
def columns (culprit line : Text) : Set Nat :=
  {column | (line.drop column).take culprit.length = culprit}

theorem mem_columns_iff (culprit line : Text) (column : Nat) :
    column ∈ columns culprit line ↔ culprit <+: line.drop column := by
  rw [List.prefix_iff_eq_take]
  exact eq_comm

/-- A single character stands where it is the character of the text. -/
theorem columns_singleton (c : Char) (text : Text) :
    columns [c] text = {column | text[column]? = some c} := by
  ext column
  rw [mem_columns_iff, Set.mem_ofPred_eq, ← List.head?_drop]
  cases text.drop column <;> simp [List.cons_prefix_cons, eq_comm]

/-- What stands before the culprit ends at its least column. -/
theorem isLeast_of_locate? {culprit line : Text} {found : Diagnosis}
    (located : locate? culprit line = some found) :
    IsLeast (columns culprit line) found.before.length := by
  constructor
  · obtain ⟨-, parts⟩ := parts_of_locate? located
    rw [mem_columns_iff, parts, List.append_assoc, List.drop_left]
    exact List.prefix_append _ _
  · intro column stands
    by_contra! earlier
    exact not_isPrefix_of_locate? located column earlier ((mem_columns_iff ..).mp stands)

/-- A character of the marks: the first one, or one of those after it. -/
theorem marks_getElem? (width place : Nat) :
    ((marks width)[place]? = some '^' ∨ (marks width)[place]? = some '~') ↔ place < max width 1 := by
  cases place with
  | zero => simp [marks]
  | succ place =>
    simp only [marks, List.getElem?_cons_succ, List.getElem?_replicate]
    split
    · next inside => exact iff_of_true (.inr rfl) (by omega)
    · next outside => exact iff_of_false (by simp) (by omega)

/-- Behind spaces, the marks fill the columns of the culprit and no others. -/
theorem spaces_append_marks_getElem? (count width column : Nat) :
    ((Text.spaces count ++ marks width)[column]? = some '^' ∨
      (Text.spaces count ++ marks width)[column]? = some '~') ↔
    count ≤ column ∧ column < count + max width 1 := by
  by_cases indented : column < count
  · rw [List.getElem?_append_left (by simpa using indented)]
    simp [Text.spaces, indented]
  · rw [List.getElem?_append_right (by simpa using indented), Text.spaces_length, marks_getElem?]
    omega

theorem indent_append_spaces (count : Nat) :
    "  ".toList ++ Text.spaces count = Text.spaces (2 + count) := by
  change List.replicate 2 ' ' ++ List.replicate count ' ' = List.replicate (2 + count) ' '
  exact List.replicate_append_replicate

theorem render_eq_marks (emphasis : Emphasis) (before culprit after : Text) :
    (Diagnosis.mk before culprit after).render emphasis =
      "  ".toList ++ before ++ emphasis.mark culprit ++ after ++ '\n' :: "  ".toList
        ++ Text.spaces before.length ++ emphasis.mark (marks culprit.length) := by
  have width : culprit.length - 1 = max culprit.length 1 - 1 := by omega
  rw [render_mk, width, marks]

/-- Without emphasis the line is shown as it is. -/
theorem render_plain_of_locate? {culprit line : Text} {found : Diagnosis}
    (located : locate? culprit line = some found) :
    found.render .plain =
      "  ".toList ++ line ++ '\n' :: "  ".toList ++ Text.spaces found.before.length
        ++ marks culprit.length := by
  obtain ⟨before, culprit, after⟩ := found
  obtain ⟨rfl, rfl⟩ := parts_of_locate? located
  rw [render_eq_marks, Emphasis.mark_plain, Emphasis.mark_plain]
  simp only [List.append_assoc]

/-- A diagnosis shows the line, and marks below the first place in it where the culprit stands. There is
none for a text that stands nowhere in the line. -/
theorem diagnosis_marks_first_place (culprit line : Text) :
    (locate? culprit line = none ↔ ¬culprit <:+: line) ∧
    ∀ found, locate? culprit line = some found →
      ∃ start, IsLeast (columns culprit line) start ∧
        found.render .plain =
          "  ".toList ++ line ++ '\n' :: "  ".toList ++ Text.spaces start ++ marks culprit.length ∧
        (∀ emphasis, found.render emphasis =
          "  ".toList ++ line.take start ++ emphasis.mark culprit ++ line.drop (start + culprit.length)
            ++ '\n' :: "  ".toList ++ Text.spaces start ++ emphasis.mark (marks culprit.length)) ∧
        ∀ column,
          (("  ".toList ++ Text.spaces start ++ marks culprit.length)[column]? = some '^' ∨
            ("  ".toList ++ Text.spaces start ++ marks culprit.length)[column]? = some '~') ↔
          2 + start ≤ column ∧ column < 2 + start + max culprit.length 1 := by
  refine ⟨locate?_eq_none_iff culprit line, ?_⟩
  intro found located
  refine ⟨found.before.length, isLeast_of_locate? located, render_plain_of_locate? located, ?_, ?_⟩
  · intro emphasis
    obtain ⟨before, culprit, after⟩ := found
    obtain ⟨rfl, rfl⟩ := parts_of_locate? located
    rw [render_eq_marks]
    simp
  · intro column
    rw [indent_append_spaces]
    exact spaces_append_marks_getElem? _ _ _

theorem diagnosis_marks_first_place_overlapping :
    locate? "aa".toList "baaa aa".toList = some ⟨"b".toList, "aa".toList, "a aa".toList⟩ ∧
    ∃ start, IsLeast (columns "aa".toList "baaa aa".toList) start ∧
      "  baaa aa\n   ^~".toList =
        "  ".toList ++ "baaa aa".toList ++ '\n' :: "  ".toList ++ Text.spaces start ++ marks 2 := by
  refine ⟨rfl, ?_⟩
  obtain ⟨start, least, plain, -⟩ := (diagnosis_marks_first_place "aa".toList "baaa aa".toList).2 _ rfl
  exact ⟨start, least, plain⟩

end ParenCalc.Diagnosis
