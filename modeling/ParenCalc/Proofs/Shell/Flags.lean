import ParenCalc.Proofs.Session.Flags
import ParenCalc.Proofs.Shell.Invariant

/-! # What the flags of the shell change

Two shells that differ only in their flags stay alike for ever: line by line they give the same reply
and keep the same text, results and trace. What the flags have shown of a statement stands in front of
what the shell without flags prints for it.
-/

namespace ParenCalc.Shell

open Outcome

/-- The shell with the given flags. -/
def flagged (shell : Shell) (showTokens showTree : Bool) : Shell :=
  { shell with session := shell.session.flagged showTokens showTree }

variable (showTokens showTree : Bool)

theorem execute_flagged {session : Session} (quiet : session.settings.Quiet) (statement : Statement) :
    ShowsBefore (Notice.AskedFor showTokens showTree) (·.flagged showTokens showTree)
      (execute session statement) (execute (session.flagged showTokens showTree) statement) := by
  apply (Session.add_flagged showTokens showTree quiet statement).andThen_alike
  intro added _
  rw [Session.run_flagged]
  apply mapState_andThen
  intro finished _
  have same : (finished.flagged showTokens showTree).results = finished.results := rfl
  rw [same]
  cases finished.results.getLast? with
  | none => rfl
  | some value => rfl

theorem executed_flagged {shell : Shell} (quiet : shell.session.settings.Quiet)
    (statement : Statement) :
    ShowsBefore (Notice.AskedFor showTokens showTree) (·.flagged showTokens showTree)
      (shell.executed statement) ((shell.flagged showTokens showTree).executed statement) := by
  have ran := Session.guarded_flagged showTokens showTree
    (execute_flagged showTokens showTree quiet statement)
  have same : (shell.flagged showTokens showTree).session =
      shell.session.flagged showTokens showTree := rfl
  rw [executed, executed, same]
  generalize Handler.guarded (execute shell.session statement) = plain,
    Handler.guarded (execute (shell.session.flagged showTokens showTree) statement) = full at ran
  obtain ⟨session, shown, printed, ending, asked⟩ := ran
  exact .mk { shell.holding [] with session } shown printed _ asked

/-- A line is taken alike with flags and without. -/
theorem take_flagged {shell : Shell} (quiet : shell.session.settings.Quiet) (line : Text) :
    ShowsBefore (Notice.AskedFor showTokens showTree) (·.flagged showTokens showTree)
      (shell.take line) ((shell.flagged showTokens showTree).take line) := by
  obtain other | ⟨typed, keeps⟩ | ⟨typed, completes⟩ := shell.line_cases line
  · obtain ⟨printed, reply, same⟩ := take_of_other other
    rw [(same shell).2, (same (shell.flagged showTokens showTree)).2]
    exact .mk shell [] printed (.ok reply) (by simp)
  · -- flags do not matter for the text
    have also : (shell.flagged showTokens showTree).Keeps line := keeps
    rw [(take_of_keeps typed keeps).2, (take_of_keeps typed also).2]
    exact .mk (shell.holding (shell.textWith line)) [] [] (.ok Reply.none) (by simp)
  · have also : ¬(shell.flagged showTokens showTree).Keeps line := completes
    rw [(take_of_not_keeps typed completes).2, (take_of_not_keeps typed also).2]
    exact executed_flagged showTokens showTree quiet (shell.completed line)

theorem quiet_after (history : List Text) :
    ((opened false false).after history).session.settings.Quiet := by
  rw [(steady_after false false history).settings_eq]
  exact ⟨rfl, rfl⟩

/-- After any typed lines, a shell with flags is the shell without them but for the flags. -/
theorem after_flagged (history : List Text) :
    (opened showTokens showTree).after history =
      ((opened false false).after history).flagged showTokens showTree := by
  induction history using List.reverseRecOn with
  | nil => rfl
  | append_singleton earlier line ih =>
    obtain ⟨state, -⟩ := (take_flagged showTokens showTree (quiet_after earlier) line).exists_shown
    rw [after_concat, after_concat, ih]
    exact state

end ParenCalc.Shell
