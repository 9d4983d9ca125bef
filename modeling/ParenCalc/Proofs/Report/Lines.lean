import ParenCalc.Outcome

/-! # What is printed, line by line

A value is printed on a line of its own. A report has two lines for each source line that was being
worked on, which give its place and the line itself, then a line with the reason, and below that a
diagnosis or nothing.
-/

namespace ParenCalc

/-- Lines, each with its end. -/
def Text.unlines (lines : List Text) : Text := lines.flatMap (· ++ ['\n'])

theorem Text.unlines_append (first second : List Text) :
    unlines (first ++ second) = unlines first ++ unlines second := List.flatMap_append

theorem Text.ofInt_eq_toString (n : Int) : ofInt n = (toString n).toList := by
  cases n with
  | ofNat n => exact String.toList_ofList.symm
  | negSucc n =>
    have signed : (toString (Int.negSucc n)).toList = '-' :: (toString (n + 1)).toList :=
      String.toList_append
    rw [signed]
    exact congrArg ('-' :: ·) String.toList_ofList.symm

/-- Values are printed one to a line. -/
theorem Notice.renderAll_values (emphasis : Emphasis) (values : List (Expr Builtin)) :
    renderAll emphasis (values.map .value) = Text.unlines (values.map Expr.text) := by
  rw [renderAll, Text.unlines, List.flatMap_map, List.flatMap_map]
  rfl

namespace Report

/-- The header of a source line: its path and its number, if it has one, and the line itself. -/
def headerLines (path : Text) (number : Option Int) (line : Text) : List Text :=
  let place := match number with
    | some n => (toString n).toList
    | none => "None".toList
  ["  File '".toList ++ path ++ "', line ".toList ++ place ++ [':'], "    ".toList ++ line]

/-- A text consists of the lines and, below them, of a diagnosis or nothing. -/
def Prints (emphasis : Emphasis) (lines : List Text) (text : Text) : Prop :=
  ∃ rest, text = Text.unlines lines ++ rest ∧
    (rest = [] ∨ ∃ diagnosis : Diagnosis, rest = diagnosis.render emphasis ++ ['\n'])

theorem Prints.after {emphasis : Emphasis} {lines : List Text} {text : Text}
    (prints : Prints emphasis lines text) (before : List Text) :
    Prints emphasis (before ++ lines) (Text.unlines before ++ text) := by
  obtain ⟨rest, rfl, below⟩ := prints
  refine ⟨rest, ?_, below⟩
  rw [Text.unlines_append, List.append_assoc]

theorem render_heading (heading : Heading) :
    heading.render = Text.unlines (headerLines heading.path heading.number heading.line) := by
  have place : ∀ number : Option Int, (number.map Text.ofInt).getD "None".toList =
      match number with
        | some n => (toString n).toList
        | none => "None".toList := by
    intro number
    cases number with
    | none => rfl
    | some n => exact Text.ofInt_eq_toString n
  have colon : ":\n    ".toList = ':' :: '\n' :: "    ".toList := by decide
  unfold Heading.render headerLines
  rw [place, colon]
  generalize "  File '".toList = file, "', line ".toList = comma, "    ".toList = margin
  simp [Text.unlines]

/-- A report prints its headers and its reason, and what is unexpected is marked as internal. -/
theorem prints_render (emphasis : Emphasis) (report : Report) :
    Prints emphasis
      ((report.headings.flatMap fun heading => headerLines heading.path heading.number heading.line)
        ++ [(if report.complaint.internal then emphasis.mark "[internal] ".toList else [])
          ++ emphasis.mark "error: ".toList ++ report.complaint.reason])
      ((Notice.report report).render emphasis) := by
  have headers : report.headings.flatMap Heading.render = Text.unlines
      (report.headings.flatMap fun heading => headerLines heading.path heading.number heading.line) := by
    rw [Text.unlines, List.flatMap_assoc, funext render_heading]
    rfl
  have printed : ∀ reason : Text, Text.unlines [reason] = reason ++ ['\n'] := by
    intro reason
    exact List.append_nil _
  rw [Notice.render, render, headers]
  cases report.diagnosis? with
  | none =>
    refine ⟨[], ?_, .inl rfl⟩
    rw [Text.unlines_append, printed]
    simp only [List.append_assoc]
  | some diagnosis =>
    refine ⟨_, ?_, .inr ⟨diagnosis, rfl⟩⟩
    rw [Text.unlines_append, printed]
    simp only [List.append_assoc]

end Report

end ParenCalc
