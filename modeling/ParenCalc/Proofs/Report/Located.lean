import ParenCalc.Report

/-! # Where a culprit is found

The search goes through the line from left to right and stops where the culprit is in front of what
is left. So it succeeds for exactly the texts that stand in the line, and divides the line into what is
before the first such place, the culprit and what is after it. A report ends with the diagnosis of the
last of its lines, if the culprit of its complaint is to be looked for and is found there.
-/

namespace ParenCalc

namespace Diagnosis

/-- What is found are the parts of the line before and after the culprit. -/
theorem parts_of_locate? {culprit line : Text} {found : Diagnosis}
    (located : locate? culprit line = some found) :
    found.culprit = culprit ∧ line = found.before ++ culprit ++ found.after := by
  induction line generalizing found with
  | nil =>
    unfold locate? at located
    split at located
    · next none =>
      cases located
      exact ⟨rfl, by simp [List.isEmpty_iff.mp none]⟩
    · cases located
  | cons c rest ih =>
    unfold locate? at located
    split at located
    · next front =>
      cases located
      obtain ⟨after, parts⟩ := List.isPrefixOf_iff_prefix.mp front
      refine ⟨rfl, ?_⟩
      rw [← parts, List.drop_left]
      rfl
    · obtain ⟨later, inside, rfl⟩ := Option.map_eq_some_iff.mp located
      obtain ⟨same, parts⟩ := ih inside
      exact ⟨same, congrArg (c :: ·) parts⟩

/-- Every text that stands in a line is found there. -/
theorem exists_locate? {culprit line : Text} (inside : culprit <:+: line) :
    ∃ found, locate? culprit line = some found := by
  induction line with
  | nil =>
    obtain rfl := List.eq_nil_of_infix_nil inside
    exact ⟨_, rfl⟩
  | cons c rest ih =>
    unfold locate?
    split
    · exact ⟨_, rfl⟩
    · next other =>
      rcases List.infix_cons_iff.mp inside with front | later
      · exact absurd (List.isPrefixOf_iff_prefix.mpr front) other
      · obtain ⟨found, located⟩ := ih later
        exact ⟨_, congrArg (Option.map _) located⟩

theorem locate?_eq_none_iff (culprit line : Text) :
    locate? culprit line = none ↔ ¬culprit <:+: line := by
  constructor
  · intro missed inside
    obtain ⟨found, located⟩ := exists_locate? inside
    rw [missed] at located
    cases located
  · intro outside
    rw [Option.eq_none_iff_forall_ne_some]
    intro found located
    exact outside ⟨found.before, found.after, (parts_of_locate? located).2.symm⟩

/-- The culprit starts nowhere further to the left. -/
theorem not_isPrefix_of_locate? {culprit line : Text} {found : Diagnosis}
    (located : locate? culprit line = some found) :
    ∀ column < found.before.length, ¬culprit <+: line.drop column := by
  induction line generalizing found with
  | nil =>
    unfold locate? at located
    split at located
    · cases located
      nofun
    · cases located
  | cons c rest ih =>
    unfold locate? at located
    split at located
    · cases located
      nofun
    · next other =>
      obtain ⟨later, inside, rfl⟩ := Option.map_eq_some_iff.mp located
      intro column earlier
      cases column with
      | zero => exact fun front => other (List.isPrefixOf_iff_prefix.mpr front)
      | succ column => exact ih inside column (Nat.lt_of_succ_lt_succ earlier)

/-- The line with the culprit marked in it, and marks below the culprit. -/
theorem render_mk (emphasis : Emphasis) (before culprit after : Text) :
    (Diagnosis.mk before culprit after).render emphasis =
      "  ".toList ++ before ++ emphasis.mark culprit ++ after ++ '\n' :: "  ".toList
        ++ Text.spaces before.length
        ++ emphasis.mark ('^' :: List.replicate (culprit.length - 1) '~') := rfl

end Diagnosis

namespace Report

/-- The culprit of an ordinary complaint is looked for in the last line. -/
theorem diagnosis?_of_locate? {report : Report} {heading : Heading}
    (last : report.headings.getLast? = some heading) (ordinary : report.complaint.internal = false)
    (named : report.complaint.culprit ≠ []) (locatable : report.complaint.locatable = true) :
    report.diagnosis? = Diagnosis.locate? report.complaint.culprit heading.line := by
  simp [diagnosis?, last, ordinary, named, locatable]

/-- A report ends with its diagnosis, if it has one. -/
theorem exists_render_append {report : Report} {diagnosis : Diagnosis}
    (found : report.diagnosis? = some diagnosis) (emphasis : Emphasis) :
    ∃ front, report.render emphasis = front ++ diagnosis.render emphasis ++ ['\n'] := by
  rw [render, found]
  exact ⟨_, (List.append_assoc ..).symm⟩

end Report

end ParenCalc
