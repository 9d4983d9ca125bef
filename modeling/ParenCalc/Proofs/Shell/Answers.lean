import ParenCalc.Proofs.Session.Flags
import ParenCalc.Proofs.Shell.Memory

/-! # The shell answers every line

No line breaks the shell, whatever was typed before it. A command and a line that completes no
statement print no report. A line that completes a statement prints what is shown of the statement and
then one thing more: the value of its last expression, or the report of what went wrong. Only the
commands for it stop the shell.
-/

namespace ParenCalc

/-- A report of something that went wrong. -/
def Notice.isReport : Notice → Bool
  | report _ => true
  | _ => false

/-- No report is among what is shown of a statement. -/
theorem Settings.countP_isReport_shown (settings : Settings) (statement : Statement)
    (exprs : List (Expr Builtin)) : (settings.shown statement exprs).countP Notice.isReport = 0 := by
  rw [List.countP_eq_zero]
  intro notice member
  have asked := askedFor_of_mem_shown member
  cases notice with
  | report content => exact asked.elim
  | _ => exact Bool.false_ne_true

/-- The statement cannot be read, or one of its expressions has no value. -/
def Statement.Fails (statement : Statement) : Prop :=
  (∃ fault, statement.exprs = .error fault) ∨
    ∃ exprs, statement.exprs = .ok exprs ∧
      ∃ expr ∈ exprs, ∃ fault, Builtin.evaluate expr = .error fault

theorem Statement.not_fails {statement : Statement} {exprs values : List (Expr Builtin)}
    (read : statement.exprs = .ok exprs) (each : Values exprs values) : ¬statement.Fails := by
  rintro (⟨fault, unread⟩ | ⟨others, again, expr, member, fault, failure⟩)
  · cases read.symm.trans unread
  · cases read.symm.trans again
    obtain ⟨value, success⟩ := each.exists_of_mem member
    cases failure.symm.trans success

namespace Command

/-- The line asks the shell to stop. -/
def Stops (line : Text) : Prop := parse line = exit ∨ parse line = endOfInput

/-- No line of a statement does. -/
theorem not_stops {line : Text} (typed : isStatementLine line = true) : ¬Stops line := by
  simp [Stops, parse_of_isStatementLine typed]

/-- The shell is told to stop exactly by the names of two commands. -/
theorem stops_iff (line : Text) :
    Stops line ↔ (Text.trim line).takeWhile isNameChar = "exit".toList ∨
      (Text.trim line).takeWhile isNameChar = "EOF".toList := by
  unfold Stops parse
  split
  · next blank =>
    rw [blank]
    decide
  · next rest question =>
    have nameless : ('?' :: rest).takeWhile isNameChar = [] := rfl
    rw [question, nameless]
    decide
  · simp only
    generalize (Text.trim line).takeWhile isNameChar = name
    split_ifs with help leave ended
    · rw [help]
      decide
    · exact iff_of_true (.inl rfl) (.inl leave)
    · exact iff_of_true (.inr rfl) (.inr ended)
    · exact iff_of_false (by simp) (not_or.mpr ⟨leave, ended⟩)

end Command

namespace Shell

/-- A line that completes no statement is answered without a report. -/
theorem take_of_not_handed {shell : Shell} {line : Text} (nothing : shell.handed line = none) :
    (∃ reply, (shell.take line).ending = .ok reply ∧ (reply = .stop ↔ Command.Stops line)) ∧
      (shell.take line).printed.countP Notice.isReport = 0 := by
  obtain other | ⟨typed, keeps⟩ | ⟨typed, completes⟩ := shell.line_cases line
  · unfold take Command.Stops
    cases parsed : Command.parse line with
    | blank => exact ⟨⟨.blank, rfl, by simp⟩, rfl⟩
    | help => exact ⟨⟨.none, rfl, by simp⟩, rfl⟩
    | exit => exact ⟨⟨.stop, rfl, by simp⟩, rfl⟩
    | endOfInput => exact ⟨⟨.stop, rfl, by simp⟩, rfl⟩
    | statement text =>
      rw [Command.isStatementLine_of_parse parsed] at other
      cases other
  · rw [(take_of_keeps typed keeps).2]
    exact ⟨⟨.none, rfl, iff_of_false (by simp) (Command.not_stops typed)⟩, rfl⟩
  · rw [(take_of_not_keeps typed completes).1] at nothing
    cases nothing

/-- A line that completes a statement prints what is shown of it, and then a value or a report. -/
theorem Steady.take_of_handed {settings : Settings} {shell : Shell} (steady : Steady settings shell)
    {line : Text} {statement : Statement} (handed : shell.handed line = some statement) :
    ∃ shown last, (shell.take line).printed = shown ++ [last] ∧
      shown.countP Notice.isReport = 0 ∧ (last.isReport = true ↔ statement.Fails) ∧
      (shell.take line).ending = .ok .none := by
  have inhabited := tokens_ne_nil_of_handed handed
  obtain ⟨-, -, -, taken⟩ := Shell.take_of_handed handed
  cases outcome : statement.exprs with
  | error fault =>
    obtain ⟨complaint, reported⟩ := fault.exists_reported
    have ran := execute_of_unread steady.idle inhabited outcome reported
    have silent := shell.session.settings.countP_isReport_shown statement []
    rw [Settings.shown_nil] at silent
    rw [taken, executed_of_guarded shell ran]
    exact ⟨_, _, rfl, silent, iff_of_true rfl (.inl ⟨fault, outcome⟩), rfl⟩
  | ok exprs =>
    have silent := shell.session.settings.countP_isReport_shown statement exprs
    obtain ⟨values, each⟩ | ⟨before, expr, after, values, fault, split, each, failure⟩ :=
      Statement.values_or_fault exprs
    · obtain ⟨value, -, ran⟩ := execute_of_values steady.idle inhabited outcome each
      rw [taken, executed_of_guarded shell ran]
      exact ⟨_, _, rfl, silent, iff_of_false Bool.false_ne_true (Statement.not_fails outcome each), rfl⟩
    · obtain ⟨complaint, reported⟩ := fault.exists_reported
      have ran := execute_of_fault steady.idle inhabited outcome split each failure reported
      have fails : statement.Fails := .inr ⟨exprs, outcome, expr, by simp [split], fault, failure⟩
      rw [taken, executed_of_guarded shell ran]
      exact ⟨_, _, rfl, silent, iff_of_true rfl fails, rfl⟩

end Shell

end ParenCalc
