import ParenCalc.Proofs.Evaluation.Arithmetic
import ParenCalc.Proofs.Reader.Depth
import ParenCalc.Proofs.Session.Calls
import ParenCalc.Proofs.Shell.Answers

/-! # Where a list can be left unclosed

The reader lacks a closing parenthesis only in text with more opening than closing parentheses, and
such text is open. The shell hands over no open statement, and of the statements of a file only the
last can be open. So the rule by which lines are put together and the reader agree: a shell never
complains of an unclosed list, and a file only at its end.
-/

namespace ParenCalc

/-- A list is left unclosed only where the opening parentheses outnumber the closing ones. -/
theorem Expr.count_lt_of_unclosed {F : Type} {tokens : List Token}
    (unread : readAll (F := F) tokens = .error .unclosedList) :
    tokens.count .closing < tokens.count .opening := by
  obtain ⟨depth, counted⟩ := (readAllFrom_eq_error_iff _ tokens .unclosedList).mp unread
  obtain ⟨reached, read, length⟩ := exists_reached (F := F) counted
  have balance := foldlM_advance_length read
  simp only [List.length_nil] at balance
  omega

namespace Statement

/-- A statement in which a list is left unclosed is open. -/
theorem isOpen_of_unclosed {statement : Statement} (unread : statement.exprs = .error .unclosedList) :
    isOpen statement.text = true := by
  have more := Expr.count_lt_of_unclosed unread
  rw [tokens, Token.count_opening_tokenize, Token.count_closing_tokenize] at more
  exact (isOpen_iff _).mpr more

/-- What can be wrong with a statement that is not open. -/
theorem fault_of_closed {statement : Statement} (closed : isOpen statement.text = false)
    {fault : ReadFault} (unread : statement.exprs = .error fault) :
    fault = .unexpectedClose ∨ fault = .tooDeep := by
  cases fault with
  | emptyInput => exact ((Expr.readAllFrom_eq_error_iff _ _ _).mp unread).elim
  | unexpectedClose => exact .inl rfl
  | unclosedList =>
    rw [isOpen_of_unclosed unread] at closed
    cases closed
  | tooDeep => exact .inr rfl

end Statement

namespace Session

/-- Adding a statement fails only where the statement cannot be read. -/
theorem exists_fault_of_add {session : Session} {statement : Statement} {signal : Signal}
    (failed : (session.add statement).ending = .error signal) :
    ∃ fault, statement.exprs = .error fault ∧ signal = fault.signal := by
  obtain ⟨-, -, law⟩ := session.addsWhole statement
  cases read : statement.exprs with
  | error fault =>
    rw [read] at law
    exact ⟨fault, rfl, Except.error.inj (failed.symm.trans law.1)⟩
  | ok exprs =>
    rw [read] at law
    cases failed.symm.trans law.1

/-- The one complaint that a closed statement can lead to when it is added. -/
theorem complaint_of_closed {session : Session} {statement : Statement} {complaint : Complaint}
    (closed : Statement.isOpen statement.text = false)
    (failed : (session.add statement).ending = .error (.complaint complaint)) :
    complaint = { reason := "unexpected )".toList, culprit := [')'] } := by
  obtain ⟨fault, unread, signal⟩ := exists_fault_of_add failed
  obtain rfl | rfl := Statement.fault_of_closed closed unread
  · exact Signal.complaint.inj signal
  · cases signal

/-- The fault of a statement that is complained of as an unclosed list. -/
theorem unclosed_of_reason {fault : ReadFault} {complaint : Complaint}
    (signal : Signal.complaint complaint = fault.signal)
    (reason : complaint.reason = "could not parse list".toList) : fault = .unclosedList :=
  Expr.eq_of_reason signal.symm rfl reason

/-- Statements of which one cannot be added were added up to that one, which is registered. -/
theorem exists_of_addAll {session : Session} {statements : List Statement} {signal : Signal}
    (failed : (session.addAll statements).ending = .error signal) :
    ∃ before statement after, statements = before ++ statement :: after ∧
      (session.addAll before).ending = .ok () ∧
      ((session.addAll before).state.add statement).ending = .error signal ∧
      (session.addAll statements).state.entry = some statement.place := by
  induction statements generalizing session with
  | nil => cases failed
  | cons first rest ih =>
    rw [addAll, Outcome.andThen] at failed ⊢
    cases ending : (session.add first).ending with
    | error other =>
      rw [ending] at failed
      cases failed
      obtain ⟨fault, unread, -⟩ := exists_fault_of_add ending
      refine ⟨[], first, rest, rfl, rfl, ending, ?_⟩
      rw [add_of_fault session unread]
      exact entry_register session first
    | ok value =>
      rw [ending] at failed
      obtain ⟨before, statement, after, rfl, added, stopped, registered⟩ := ih failed
      have onward : session.addAll (first :: before) =
          ((session.add first).state.addAll before).preceded (session.add first).printed := by
        rw [addAll, Outcome.andThen, ending]
        rfl
      refine ⟨first :: before, statement, after, rfl, ?_, ?_, registered⟩
      · rw [onward]
        exact added
      · rw [onward]
        exact stopped

/-- A session that cannot be opened because of an unclosed list has a file, and the reader failed in
one of its statements. -/
theorem addAll_of_unclosed {handler : Handler} {documents : Documents} {settings : Settings}
    {complaint : Complaint}
    (failed : (start handler documents settings).ending = .error (.complaint complaint))
    (reason : complaint.reason = "could not parse list".toList) :
    ∃ lines, settings.path ≠ typedPath ∧ readLines documents settings.path = .ok lines ∧
      start handler documents settings =
        (fresh handler settings).addAll (Statement.group lines) := by
  unfold start at failed ⊢
  split at failed
  · split at failed
    · cases failed
    · cases failed
      exact absurd reason (by decide)
  · next named =>
    cases read : readLines documents settings.path with
    | ok lines => exact ⟨lines, named, rfl, if_neg named⟩
    | error signal =>
      rw [read] at failed
      cases failed
      unfold readLines at read
      split at read
      · cases read
      · split at read
        · -- what cannot be opened is named in front of the reason
          cases read
          cases (List.cons.inj reason).1
        · split at read <;> cases read

end Session

/-- The reason of a complaint is that the input ended too early. -/
def Complaint.EndsEarly (complaint : Complaint) : Prop :=
  complaint.reason = "could not parse list".toList ∨ complaint.reason = "empty input".toList

instance (complaint : Complaint) : Decidable complaint.EndsEarly := inferInstanceAs (Decidable (_ ∨ _))

namespace Builtin

open ParenCalc.Expr

/-- No fault of an evaluation is reported as input that ended too early. -/
theorem not_endsEarly_of_evaluate {expr : Expr Builtin} {fault : EvalFault}
    (failed : evaluate expr = .error fault) {complaint : Complaint}
    (reported : Reported fault.signal complaint) : ¬complaint.EndsEarly := by
  cases fault with
  | unbound name =>
    cases reported
    rintro (same | same)
    · cases (List.cons.inj same).1
    · cases (List.cons.inj same).1
  | emptyCall =>
    cases reported
    decide
  | notAFunction head =>
    cases reported
    rintro (same | same)
    · cases (List.cons.inj same).1
    · cases (List.cons.inj same).1
  | emptyPlace =>
    cases reported
    decide
  | tooDeep =>
    cases reported
    decide
  | refused refusal =>
    obtain ⟨function, rfl⟩ := refused_of_evaluate failed
    cases reported
    cases function <;> decide

end Builtin

namespace Shell

/-- What is shown of a statement holds no report, so a report printed after it stands last. -/
theorem eq_of_report_mem {settings : Settings} {statement : Statement} {exprs : List (Expr Builtin)}
    {report : Report} {last : Notice}
    (printed : .report report ∈ settings.shown statement exprs ++ [last]) : .report report = last := by
  obtain shown | printed := List.mem_append.mp printed
  · have silent := settings.countP_isReport_shown statement exprs
    exact absurd rfl (List.countP_eq_zero.mp silent _ shown)
  · exact List.mem_singleton.mp printed

/-- The shell hands over no open statement. -/
theorem closed_of_handed {shell : Shell} {line : Text} {statement : Statement}
    (handed : shell.handed line = some statement) : Statement.isOpen statement.text = false := by
  obtain ⟨-, completes, rfl, -⟩ := take_of_handed handed
  exact Bool.eq_false_iff.mpr (not_or.mp completes).1

/-- A report of the shell is about a statement that was handed over: it could not be read, or an
expression had no value. -/
theorem Steady.reported_of_mem {settings : Settings} {shell : Shell} (steady : Steady settings shell)
    {line : Text} {report : Report} (printed : .report report ∈ (shell.take line).printed) :
    ∃ statement, shell.handed line = some statement ∧
      ((∃ fault, statement.exprs = .error fault ∧ Reported fault.signal report.complaint) ∨
        ∃ expr fault, Builtin.evaluate expr = .error fault ∧
          Reported fault.signal report.complaint) := by
  cases handed : shell.handed line with
  | none =>
    have unreported := (take_of_not_handed handed).2
    exact absurd rfl (List.countP_eq_zero.mp unreported _ printed)
  | some statement =>
    refine ⟨statement, rfl, ?_⟩
    have inhabited := tokens_ne_nil_of_handed handed
    obtain ⟨-, -, -, taken⟩ := Shell.take_of_handed handed
    rw [taken] at printed
    cases outcome : statement.exprs with
    | error fault =>
      obtain ⟨complaint, reported⟩ := fault.exists_reported
      rw [executed_of_guarded shell (execute_of_unread steady.idle inhabited outcome reported),
        ← Settings.shown_nil] at printed
      cases eq_of_report_mem printed
      exact .inl ⟨fault, rfl, reported⟩
    | ok exprs =>
      obtain ⟨values, each⟩ | ⟨before, expr, after, values, fault, split, each, failure⟩ :=
        Statement.values_or_fault exprs
      · obtain ⟨value, -, ran⟩ := execute_of_values steady.idle inhabited outcome each
        rw [executed_of_guarded shell ran] at printed
        cases eq_of_report_mem printed
      · obtain ⟨complaint, reported⟩ := fault.exists_reported
        rw [executed_of_guarded shell
          (execute_of_fault steady.idle inhabited outcome split each failure reported)] at printed
        cases eq_of_report_mem printed
        exact .inr ⟨expr, fault, failure, reported⟩

/-- No report of the shell says that the input ended too early. -/
theorem Steady.not_endsEarly_of_mem {settings : Settings} {shell : Shell}
    (steady : Steady settings shell) {line : Text} {report : Report}
    (printed : .report report ∈ (shell.take line).printed) : ¬report.complaint.EndsEarly := by
  obtain ⟨statement, handed, ⟨fault, unread, reported⟩ | ⟨expr, fault, failure, reported⟩⟩ :=
    steady.reported_of_mem printed
  · obtain rfl | rfl := Statement.fault_of_closed (closed_of_handed handed) unread
    · generalize report.complaint = complaint at reported ⊢
      cases reported
      decide
    · generalize report.complaint = complaint at reported ⊢
      cases reported
      decide
  · exact Builtin.not_endsEarly_of_evaluate failure reported

end Shell

/-- The rule by which lines are put together is exact. Whatever was typed before it, a line hands over
no statement with more opening than closing parentheses; adding the statement can lead to one complaint
only, that of a surplus closing parenthesis; and no report says that a list is unclosed or the input is
empty. A session that cannot be opened because of an unclosed list has a file whose statements were
added up to the last, in which the opening parentheses outnumber the closing ones and which is
registered. -/
theorem unclosed_only_in_last_statement :
    (∀ (showTokens showTree : Bool) (history : List Text) (line : Text),
      let shell := (Shell.opened showTokens showTree).after history
      (∀ statement, shell.handed line = some statement →
        statement.text.count '(' ≤ statement.text.count ')' ∧
        ∀ complaint, (shell.session.add statement).ending = .error (.complaint complaint) →
          complaint = { reason := "unexpected )".toList, culprit := [')'] }) ∧
      ∀ report, .report report ∈ (shell.take line).printed →
        report.complaint.reason ≠ "could not parse list".toList ∧
        report.complaint.reason ≠ "empty input".toList) ∧
    ∀ (handler : Handler) (documents : Documents) (settings : Settings) (complaint : Complaint),
      let outcome := Session.start handler documents settings
      let session := Session.fresh handler settings
      outcome.ending = .error (.complaint complaint) →
      complaint.reason = "could not parse list".toList →
      ∃ lines before last, Session.readLines documents settings.path = .ok lines ∧
        Statement.group lines = before ++ [last] ∧
        last.text.count ')' < last.text.count '(' ∧
        (session.addAll before).ending = .ok () ∧
        ((session.addAll before).state.add last).ending = .error (.complaint complaint) ∧
        outcome.state.entry = some last.place := by
  refine ⟨?_, ?_⟩
  · intro showTokens showTree history line shell
    have steady : Shell.Steady _ shell := Shell.steady_after showTokens showTree history
    refine ⟨?_, ?_⟩
    · intro statement handed
      have closed := Shell.closed_of_handed handed
      refine ⟨?_, fun complaint failed => Session.complaint_of_closed closed failed⟩
      have fewer := (Statement.isOpen_iff _).not.mp (Bool.eq_false_iff.mp closed)
      omega
    · intro report printed
      exact not_or.mp (steady.not_endsEarly_of_mem printed)
  · intro handler documents settings complaint outcome session failed reason
    obtain ⟨lines, -, readable, started⟩ := Session.addAll_of_unclosed failed reason
    have stopped : (session.addAll (Statement.group lines)).ending = .error (.complaint complaint) :=
      started ▸ failed
    obtain ⟨before, statement, after, split, added, raised, registered⟩ :=
      Session.exists_of_addAll stopped
    obtain ⟨fault, unread, signal⟩ := Session.exists_fault_of_add raised
    obtain rfl := Session.unclosed_of_reason signal reason
    have unfinished := Statement.isOpen_of_unclosed unread
    obtain rfl : after = [] := by
      by_contra more
      have earlier : statement ∈ (Statement.group lines).dropLast := by
        rw [split, List.dropLast_append_of_ne_nil (List.cons_ne_nil _ _), List.dropLast_cons_of_ne_nil more]
        exact List.mem_append_right _ (List.mem_cons_self ..)
      rw [Statement.closed_group lines statement earlier] at unfinished
      cases unfinished
    refine ⟨lines, before, statement, readable, split, (Statement.isOpen_iff _).mp unfinished, added,
      raised, ?_⟩
    rw [show outcome = _ from started]
    exact registered

/-- A typed statement over two lines with a surplus parenthesis at its end, and a file whose second
statement is unclosed but for its comment. -/
theorem unclosed_only_in_last_statement_trailing :
    let shell := (Shell.opened false false).after ["(+".toList]
    let statement : Statement := ⟨"(+ ))".toList, 2⟩
    let surplus : Complaint := { reason := "unexpected )".toList, culprit := [')'] }
    let unclosed : Complaint := { reason := "could not parse list".toList }
    let documents : Documents := fun _ =>
      some ("+\n(- ; )\n".toList.map fun c => UInt8.ofNat c.toNat)
    let outcome := Session.start {} documents { path := ['p'] }
    (shell.handed "))".toList = some statement ∧
      (shell.session.add statement).ending = .error (.complaint surplus) ∧
      statement.text.count '(' ≤ statement.text.count ')') ∧
    outcome.ending = .error (.complaint unclosed) ∧
    ∃ lines before last, Session.readLines documents ['p'] = .ok lines ∧
      Statement.group lines = before ++ [last] ∧ last.text.count ')' < last.text.count '(' ∧
      outcome.state.entry = some last.place := by
  intro shell statement surplus unclosed documents outcome
  have handed : shell.handed "))".toList = some statement := by rfl
  have failed : outcome.ending = .error (.complaint unclosed) := by rfl
  obtain ⟨typed, filed⟩ := unclosed_only_in_last_statement
  obtain ⟨balanced, -⟩ := (typed false false ["(+".toList] "))".toList).1 statement handed
  obtain ⟨lines, before, last, readable, split, more, -, -, registered⟩ :=
    filed {} documents { path := ['p'] } unclosed failed rfl
  exact ⟨⟨handed, rfl, balanced⟩, failed, lines, before, last, readable, split, more, registered⟩

end ParenCalc
