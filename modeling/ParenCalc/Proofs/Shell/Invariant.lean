import ParenCalc.Program
import ParenCalc.Proofs.Shell.Execution
import ParenCalc.Proofs.Shell.Grouping
import ParenCalc.Proofs.Token.Boundaries

/-! # What holds of every shell

A shell is steady when its pending text is as it should be and its session is idle. Every line keeps a
shell steady: commands change nothing, a line that completes no statement changes only what is
pending, and a statement leaves its session idle however it ends. The results are empty after a
statement that succeeds, and the line number counts the lines of statements.
-/

namespace ParenCalc.Shell

/-- The shell of the program, before anything was typed. -/
def opened (showTokens showTree : Bool) : Shell :=
  Shell.fresh (Session.fresh {} (Program.shellSettings { showTokens, showTree }))

/-- A shell between two lines. -/
structure Steady (settings : Settings) (shell : Shell) : Prop where
  composed : shell.Composed
  idle : shell.session.Idle
  settings_eq : shell.session.settings = settings

theorem steady_opened (showTokens showTree : Bool) :
    Steady (Program.shellSettings { showTokens, showTree }) (opened showTokens showTree) :=
  ⟨.fresh _, ⟨rfl, .fresh _, rfl, rfl⟩, rfl⟩

/-- A statement that is handed over has a token. -/
theorem tokens_ne_nil_of_handed {shell : Shell} {line : Text} {statement : Statement}
    (handed : shell.handed line = some statement) : statement.tokens ≠ [] := by
  obtain ⟨-, completes, rfl, -⟩ := take_of_handed handed
  apply (Token.tokenize_eq_nil_iff _).not.mpr
  -- the text was trimmed when it was tidied
  have trimmed : Text.trim (shell.textWith line) = shell.textWith line := Text.trim_trim _
  exact trimmed.symm ▸ (not_or.mp completes).2

/-- A line changes nothing of the session but its results. -/
theorem Steady.session_next {settings : Settings} {shell : Shell} (steady : Steady settings shell)
    (line : Text) : ∃ results, (shell.next line).session = { shell.session with results } := by
  rw [Shell.session_next]
  cases handed : shell.handed line with
  | none => exact ⟨shell.session.results, rfl⟩
  | some statement =>
    obtain ⟨-, printed, ran⟩ | ⟨-, printed, values, ran⟩ :=
      execute_cases steady.idle (tokens_ne_nil_of_handed handed)
    · exact ⟨[], congrArg Outcome.state (ran shell.session.results)⟩
    · exact ⟨_, congrArg Outcome.state (ran shell.session.results)⟩

theorem Steady.next {settings : Settings} {shell : Shell} (steady : Steady settings shell)
    (line : Text) : Steady settings (shell.next line) := by
  obtain ⟨results, session⟩ := steady.session_next line
  refine ⟨steady.composed.next line, ?_, ?_⟩
  · rw [session]
    exact steady.idle.withResults results
  · rw [session]
    exact steady.settings_eq

/-- Every shell is steady, whatever was typed. -/
theorem steady_after (showTokens showTree : Bool) (lines : List Text) :
    Steady (Program.shellSettings { showTokens, showTree })
      ((opened showTokens showTree).after lines) :=
  after_preserves (steady_opened showTokens showTree) (fun _ line steady => steady.next line) lines

theorem Steady.handler_eq {settings : Settings} {shell : Shell} (steady : Steady settings shell) :
    shell.session.handler = { fatal := false, trace := [(settings.path, {})] } := by
  rw [← steady.settings_eq, ← steady.idle.alone, ← steady.idle.mild]

/-- A statement that succeeds leaves no results, and no other line adds to them. -/
theorem Steady.results_next {settings : Settings} {shell : Shell} (steady : Steady settings shell)
    (line : Text) :
    (shell.handed line = none ∧ (shell.next line).session.results = shell.session.results) ∨
      ∃ statement, shell.handed line = some statement ∧
        (statement.Succeeds → (shell.next line).session.results = []) := by
  rw [Shell.session_next]
  cases handed : shell.handed line with
  | none => exact .inl ⟨rfl, rfl⟩
  | some statement =>
    refine .inr ⟨statement, rfl, ?_⟩
    intro success
    obtain ⟨-, printed, ran⟩ | ⟨failure, -⟩ :=
      execute_cases steady.idle (tokens_ne_nil_of_handed handed)
    · exact congrArg (fun outcome => outcome.state.results) (ran shell.session.results)
    · exact absurd success failure

/-- No results are left where the latest statement succeeded. -/
theorem results_after (showTokens showTree : Bool) (lines : List Text)
    (success : ∀ statement ∈ ((opened showTokens showTree).handedAll lines).getLast?,
      statement.Succeeds) :
    ((opened showTokens showTree).after lines).session.results = [] := by
  induction lines using List.reverseRecOn with
  | nil => rfl
  | append_singleton earlier line ih =>
    rw [handedAll_concat] at success
    rw [after_concat]
    obtain ⟨none, same⟩ | ⟨statement, handed, cleared⟩ :=
      (steady_after showTokens showTree earlier).results_next line
    · rw [none, Option.toList_none, List.append_nil] at success
      rw [same]
      exact ih success
    · rw [handed, Option.toList_some, List.getLast?_concat] at success
      exact cleared (success statement rfl)

theorem lineNumber_next (shell : Shell) (line : Text) :
    (shell.next line).lineNumber =
      shell.lineNumber + if Command.isStatementLine line then 1 else 0 := by
  obtain other | ⟨typed, keeps⟩ | ⟨typed, completes⟩ := shell.line_cases line
  · obtain ⟨printed, reply, same⟩ := take_of_other other
    rw [Shell.next, (same shell).2, other]
    rfl
  · rw [Shell.next, (take_of_keeps typed keeps).2, typed]
    rfl
  · rw [Shell.next, (take_of_not_keeps typed completes).2, typed]
    rfl

theorem lineNumber_after (shell : Shell) (lines : List Text) :
    (shell.after lines).lineNumber = shell.lineNumber + lines.countP Command.isStatementLine := by
  induction lines generalizing shell with
  | nil => rfl
  | cons line rest ih =>
    change ((shell.next line).after rest).lineNumber = _
    rw [ih, lineNumber_next, List.countP_cons]
    omega

/-- What holds of the shell after any typed lines. The prompt asks for the rest of a statement exactly
while text is pending; text is pending exactly while it has more opening than closing parentheses, and
it holds no comment and no blank at its ends. Nothing is queued. No results are left where the latest
statement succeeded. The handler is not fatal and knows no line. The line number counts the lines of
statements. -/
theorem opened_after_invariant (showTokens showTree : Bool) (lines : List Text) :
    let shell := (opened showTokens showTree).after lines
    ((shell.prompt.text = ". ".toList ↔ shell.pending ≠ []) ∧
      (shell.pending = [] → shell.prompt.text = "> ".toList)) ∧
    (shell.pending ≠ [] ↔ shell.pending.count ')' < shell.pending.count '(') ∧
    ';' ∉ shell.pending ∧ Text.HasNoBlankEnd shell.pending ∧
    shell.session.queue = [] ∧
    ((∀ statement ∈ ((opened showTokens showTree).handedAll lines).getLast?, statement.Succeeds) →
      shell.session.results = []) ∧
    shell.session.handler = { fatal := false, trace := [(Session.typedPath, {})] } ∧
    shell.lineNumber = lines.countP Command.isStatementLine := by
  intro shell
  have steady := steady_after showTokens showTree lines
  have composed : shell.Composed := steady.composed
  refine ⟨?_, ?_, composed.not_mem_pending, ?_, steady.idle.queue_eq,
    results_after showTokens showTree lines, steady.handler_eq, ?_⟩
  · rw [composed.prompt_eq]
    cases pending : shell.pending with
    | nil => decide
    | cons c rest => simp [Prompt.text]
  · constructor
    · intro inhabited
      have unclosed := composed.waiting.resolve_left inhabited
      exact of_decide_eq_true unclosed
    · rintro more nothing
      rw [nothing] at more
      exact absurd more (Nat.lt_irrefl 0)
  · rw [← composed.tidy_pending]
    exact Text.hasNoBlankEnd_trim _
  · rw [lineNumber_after]
    exact Nat.zero_add _

/-- A statement that fails after its first value leaves it. A command keeps it, and the next statement
that succeeds drops it. -/
theorem opened_after_invariant_recovered :
    let failed := ["+ f".toList]
    let recovered := failed ++ ["help".toList, "- ; (".toList]
    ((opened false false).after failed).session.results = [.native .add] ∧
    ((opened false false).handedAll recovered).getLast? = some ⟨['-'], 2⟩ ∧
    ((opened false false).after recovered).session.results = [] := by
  intro failed recovered
  have latest : ((opened false false).handedAll recovered).getLast? = some ⟨['-'], 2⟩ := by rfl
  refine ⟨rfl, latest, ?_⟩
  apply (opened_after_invariant false false recovered).2.2.2.2.2.1
  intro statement last
  rw [latest] at last
  cases last
  exact ⟨[.symbol ['-']], [.native .sub], rfl, .cons rfl .nil⟩

end ParenCalc.Shell
