import ParenCalc.Proofs.Statement.Tidy
import ParenCalc.Shell

/-! # Lines of the shell

A typed line is blank, a command, or a line of a statement. A line of a statement is put to the text
that is pending; the text is then kept, because it is open or empty, or handed to the session. What a
line can do is said once, in `line_cases` and the lemmas below it. What is kept is always tidy, and the
prompt shows whether anything is.
-/

namespace ParenCalc

namespace Command

/-- A question mark in front, or the name of a command. -/
def isCommand (line : Text) : Bool :=
  (Text.trim line).head? == some '?' ||
    ["help".toList, "exit".toList, "EOF".toList].contains ((Text.trim line).takeWhile isNameChar)

/-- Neither blank nor a command. -/
def isStatementLine (line : Text) : Bool := !(Text.trim line).isEmpty && !isCommand line

theorem isStatementLine_iff (line : Text) :
    isStatementLine line = true ↔ Text.trim line ≠ [] ∧ (Text.trim line).head? ≠ some '?' ∧
      (Text.trim line).takeWhile isNameChar ≠ "help".toList ∧
      (Text.trim line).takeWhile isNameChar ≠ "exit".toList ∧
      (Text.trim line).takeWhile isNameChar ≠ "EOF".toList := by
  simp only [isStatementLine, isCommand, Bool.and_eq_true, Bool.not_eq_true', Bool.or_eq_false_iff,
    List.isEmpty_eq_false_iff, beq_eq_false_iff_ne, List.contains_eq_mem, decide_eq_false_iff_not,
    List.mem_cons, List.not_mem_nil, or_false, not_or, ne_eq]

/-- A line of a statement is passed on without the blanks around it. -/
theorem parse_of_isStatementLine {line : Text} (typed : isStatementLine line = true) :
    parse line = statement (Text.trim line) := by
  obtain ⟨inhabited, mark, help, exit, endOfInput⟩ := (isStatementLine_iff line).mp typed
  unfold parse
  split
  · next nothing => exact absurd nothing inhabited
  · next question => exact absurd (by rw [question]; rfl) mark
  · simp only [if_neg help, if_neg exit, if_neg endOfInput]

/-- No other line is passed on. -/
theorem isStatementLine_of_parse {line text : Text} (parsed : parse line = statement text) :
    isStatementLine line = true := by
  unfold parse at parsed
  split at parsed
  · cases parsed
  · cases parsed
  · next nonblank unmarked =>
    have mark : (Text.trim line).head? ≠ some '?' := by
      intro first
      obtain ⟨rest, question⟩ := List.head?_eq_some_iff.mp first
      exact unmarked rest question
    simp only at parsed
    split_ifs at parsed with help exit endOfInput
    exact (isStatementLine_iff line).mpr ⟨nonblank, mark, help, exit, endOfInput⟩

/-- A line that is neither a command nor of a statement is blank. -/
theorem trim_eq_nil {line : Text} (other : isStatementLine line = false)
    (plain : isCommand line = false) : Text.trim line = [] := by
  simpa [isStatementLine, plain] using other

end Command

namespace Shell

/-- The text that is pending, together with a typed line. -/
def textWith (shell : Shell) (line : Text) : Text :=
  Statement.tidy (shell.pending ++ ' ' :: Text.trim line)

/-- The shell after a line of a statement that leaves the given text pending. -/
def holding (shell : Shell) (text : Text) : Shell :=
  { shell with
    pending := text
    prompt := if text.isEmpty then .statement else .continuation
    lineNumber := shell.lineNumber + 1 }

/-- The statement that a typed line hands to the session. -/
def handed (shell : Shell) (line : Text) : Option Statement :=
  match Command.parse line with
  | .statement text => (shell.intake text).2
  | _ => none

/-- With the line, the text is still open, or there is none. -/
def Keeps (shell : Shell) (line : Text) : Prop :=
  Statement.isOpen (shell.textWith line) = true ∨ shell.textWith line = []

/-- The statement that consists of the text so far and a typed line. -/
def completed (shell : Shell) (line : Text) : Statement :=
  ⟨shell.textWith line, (shell.lineNumber + 1 : Nat)⟩

/-- The outcome of a line that completes a statement. -/
def executed (shell : Shell) (statement : Statement) : Outcome Shell Reply :=
  let outcome := Handler.guarded (execute shell.session statement)
  ⟨{ shell.holding [] with session := outcome.state }, outcome.printed,
    outcome.ending.map fun _ => .none⟩

/-- A line concerns no statement, or it is kept with the text so far, or it completes a statement. -/
theorem line_cases (shell : Shell) (line : Text) :
    Command.isStatementLine line = false ∨
      Command.isStatementLine line = true ∧ shell.Keeps line ∨
      Command.isStatementLine line = true ∧ ¬shell.Keeps line := by
  cases Command.isStatementLine line with
  | false => exact .inl rfl
  | true => exact .inr ((em (shell.Keeps line)).imp (.intro rfl) (.intro rfl))

/-- A line that concerns no statement is answered alike by every shell, and changes none. -/
theorem take_of_other {line : Text} (other : Command.isStatementLine line = false) :
    ∃ printed reply, ∀ shell : Shell, shell.handed line = none ∧
      shell.take line = ⟨shell, printed, .ok reply⟩ := by
  unfold handed take
  cases parsed : Command.parse line with
  | blank => exact ⟨[], .blank, fun shell => ⟨rfl, rfl⟩⟩
  | help => exact ⟨[.help], .none, fun shell => ⟨rfl, rfl⟩⟩
  | exit => exact ⟨[], .stop, fun shell => ⟨rfl, rfl⟩⟩
  | endOfInput => exact ⟨[.lineBreak], .stop, fun shell => ⟨rfl, rfl⟩⟩
  | statement text =>
    rw [Command.isStatementLine_of_parse parsed] at other
    cases other

section Typed

variable {shell : Shell} {line : Text} (typed : Command.isStatementLine line = true)

theorem intake_of_keeps (keeps : shell.Keeps line) :
    shell.intake (Text.trim line) = (shell.holding (shell.textWith line), none) := by
  rw [intake]
  change (if Statement.isOpen (shell.textWith line) = true then _ else _) = _
  rcases keeps with unfinished | nothing
  · have inhabited : shell.textWith line ≠ [] :=
      List.ne_nil_of_mem (Statement.opening_mem_of_isOpen unfinished)
    rw [if_pos unfinished, holding, List.isEmpty_eq_false_iff.mpr inhabited]
    rfl
  · have closed : ¬Statement.isOpen (shell.textWith line) = true := by
      rw [nothing]
      exact Bool.false_ne_true
    rw [if_neg closed]
    change (_, if (shell.textWith line).isEmpty = true then _ else _) = _
    rw [nothing]
    rfl

theorem intake_of_not_keeps (completes : ¬shell.Keeps line) :
    shell.intake (Text.trim line) = (shell.holding [], some (shell.completed line)) := by
  obtain ⟨closed, inhabited⟩ := not_or.mp completes
  rw [intake]
  change (if Statement.isOpen (shell.textWith line) = true then _ else _) = _
  rw [if_neg closed]
  change (_, if (shell.textWith line).isEmpty = true then _ else _) = _
  rw [List.isEmpty_eq_false_iff.mpr inhabited]
  rfl

include typed in
/-- A line that completes no statement leaves the text so far pending. -/
theorem take_of_keeps (keeps : shell.Keeps line) :
    shell.handed line = none ∧
      shell.take line = .done (shell.holding (shell.textWith line)) .none := by
  have parsed := Command.parse_of_isStatementLine typed
  have kept := intake_of_keeps keeps
  refine ⟨?_, ?_⟩
  · simp only [handed, parsed, kept]
  · simp only [take, parsed, enter, kept, Outcome.done_andThen]

include typed in
/-- A line that completes a statement has it executed, and leaves nothing pending. -/
theorem take_of_not_keeps (completes : ¬shell.Keeps line) :
    shell.handed line = some (shell.completed line) ∧
      shell.take line = shell.executed (shell.completed line) := by
  have parsed := Command.parse_of_isStatementLine typed
  have complete := intake_of_not_keeps completes
  refine ⟨?_, ?_⟩
  · simp only [handed, parsed, complete]
  · have same : (shell.holding []).session = shell.session := rfl
    simp only [take, parsed, enter, complete, executed, same]
    generalize Handler.guarded (execute shell.session (shell.completed line)) = outcome
    obtain ⟨state, printed, ending⟩ := outcome
    cases ending with
    | error signal => rfl
    | ok value => simp [Outcome.andThen, Outcome.done, Except.map]

end Typed

/-- A statement is handed over exactly by a line that completes it. -/
theorem take_of_handed {shell : Shell} {line : Text} {statement : Statement}
    (handed : shell.handed line = some statement) :
    Command.isStatementLine line = true ∧ ¬shell.Keeps line ∧ statement = shell.completed line ∧
      shell.take line = shell.executed statement := by
  obtain other | ⟨typed, keeps⟩ | ⟨typed, completes⟩ := shell.line_cases line
  · obtain ⟨printed, reply, same⟩ := take_of_other other
    rw [(same shell).1] at handed
    cases handed
  · rw [(take_of_keeps typed keeps).1] at handed
    cases handed
  · obtain ⟨given, taken⟩ := take_of_not_keeps typed completes
    rw [given] at handed
    obtain rfl := Option.some.inj handed
    exact ⟨typed, completes, rfl, taken⟩

/-! ## Many lines -/

/-- The shell after a typed line. -/
def next (shell : Shell) (line : Text) : Shell := (shell.take line).state

/-- The shell after typed lines. -/
def after (shell : Shell) (lines : List Text) : Shell := lines.foldl next shell

/-- The statements that typed lines hand to the session, in order. -/
def handedAll (shell : Shell) : List Text → List Statement
  | [] => []
  | line :: rest => (shell.handed line).toList ++ handedAll (shell.next line) rest

theorem after_concat (shell : Shell) (lines : List Text) (line : Text) :
    shell.after (lines ++ [line]) = (shell.after lines).next line := by
  rw [after, List.foldl_append]
  rfl

theorem handedAll_concat (shell : Shell) (lines : List Text) (line : Text) :
    shell.handedAll (lines ++ [line]) =
      shell.handedAll lines ++ ((shell.after lines).handed line).toList := by
  induction lines generalizing shell with
  | nil => simp [handedAll, after]
  | cons first rest ih => rw [List.cons_append, handedAll, ih, handedAll, List.append_assoc]; rfl

/-- What every line preserves holds after all lines. -/
theorem after_preserves {property : Shell → Prop} {shell : Shell} (initial : property shell)
    (step : ∀ current line, property current → property (current.next line)) (lines : List Text) :
    property (shell.after lines) := by
  induction lines generalizing shell with
  | nil => exact initial
  | cons line rest ih => exact ih (step shell line initial)

/-! ## What is pending -/

/-- What is pending is tidy, and it is open unless there is nothing; the prompt asks for the rest. -/
structure Composed (shell : Shell) : Prop where
  tidy_pending : Statement.tidy shell.pending = shell.pending
  waiting : shell.pending = [] ∨ Statement.isOpen shell.pending = true
  prompt_eq : shell.prompt = if shell.pending.isEmpty then .statement else .continuation

theorem Composed.fresh (session : Session) : Composed (fresh session) := ⟨rfl, .inl rfl, rfl⟩

theorem Composed.next {shell : Shell} (composed : shell.Composed) (line : Text) :
    (shell.next line).Composed := by
  obtain other | ⟨typed, keeps⟩ | ⟨typed, completes⟩ := shell.line_cases line
  · obtain ⟨printed, reply, same⟩ := take_of_other other
    rw [Shell.next, (same shell).2]
    exact composed
  · rw [Shell.next, (take_of_keeps typed keeps).2]
    exact ⟨Statement.tidy_tidy _, keeps.symm, rfl⟩
  · rw [Shell.next, (take_of_not_keeps typed completes).2]
    exact ⟨rfl, .inl rfl, rfl⟩

theorem Composed.not_mem_pending {shell : Shell} (composed : shell.Composed) : ';' ∉ shell.pending := by
  rw [← composed.tidy_pending]
  exact Statement.not_mem_tidy _

end Shell

end ParenCalc
