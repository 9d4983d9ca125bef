import ParenCalc.Proofs.Shell.Invariant

/-! # The shell has no hidden memory

Two steady shells with the same pending text and the same line number differ at most in the results
that failed statements have left. No line ever shows these: a statement that succeeds has a value of
its own, which is the latest result, and any other prints no result. So the two answer every further
line alike, and again differ at most in their results.
-/

namespace ParenCalc.Shell

/-- What can be seen of a line: how it is answered, what is printed, and the shell after it. -/
structure Seen where
  ending : Except Signal Reply
  printed : List Notice
  pending : Text
  prompt : Prompt
  lineNumber : Nat

/-- What is seen of a typed line. -/
def seen (shell : Shell) (line : Text) : Seen :=
  let outcome := shell.take line
  ⟨outcome.ending, outcome.printed, outcome.state.pending, outcome.state.prompt,
    outcome.state.lineNumber⟩

/-- What is seen of typed lines, one after the other. -/
def seenAll (shell : Shell) : List Text → List Seen
  | [] => []
  | line :: rest => shell.seen line :: seenAll (shell.next line) rest

/-- The shell with other results left in its session. -/
def withResults (shell : Shell) (results : List (Expr Builtin)) : Shell :=
  { shell with session := { shell.session with results } }

theorem completed_withResults (shell : Shell) (results : List (Expr Builtin)) (line : Text) :
    (shell.withResults results).completed line = shell.completed line := rfl

theorem executed_of_guarded (shell : Shell) {statement : Statement} {state : Session}
    {printed : List Notice} {ending : Except Signal (Option Unit)}
    (ran : Handler.guarded (execute shell.session statement) = ⟨state, printed, ending⟩) :
    shell.executed statement =
      ⟨{ shell.holding [] with session := state }, printed, ending.map fun _ => .none⟩ := by
  simp only [executed, ran]

/-- Results that are left over are seen in no line, and in nothing that a line changes. -/
theorem Steady.seen_withResults {settings : Settings} {shell : Shell} (steady : Steady settings shell)
    (results : List (Expr Builtin)) (line : Text) :
    (shell.withResults results).seen line = shell.seen line ∧
      ∃ left, (shell.withResults results).next line = (shell.next line).withResults left := by
  obtain other | ⟨typed, keeps⟩ | ⟨typed, completes⟩ := shell.line_cases line
  · obtain ⟨printed, reply, same⟩ := take_of_other other
    simp only [seen, Shell.next, (same _).2]
    exact ⟨rfl, results, rfl⟩
  · have alike : (shell.withResults results).Keeps line := keeps
    simp only [seen, Shell.next, (take_of_keeps typed keeps).2, (take_of_keeps typed alike).2]
    exact ⟨rfl, results, rfl⟩
  · obtain ⟨handed, ran⟩ := take_of_not_keeps typed completes
    have alike : ¬(shell.withResults results).Keeps line := completes
    have again := (take_of_not_keeps typed alike).2
    rw [completed_withResults] at again
    simp only [seen, Shell.next, ran, again]
    obtain ⟨-, printed, outcome⟩ | ⟨-, printed, values, outcome⟩ :=
      execute_cases steady.idle (tokens_ne_nil_of_handed handed)
    · rw [executed_of_guarded shell (outcome shell.session.results),
        executed_of_guarded (shell.withResults results) (outcome results)]
      exact ⟨rfl, [], rfl⟩
    · rw [executed_of_guarded shell (outcome shell.session.results),
        executed_of_guarded (shell.withResults results) (outcome results)]
      exact ⟨rfl, results ++ values, rfl⟩

/-- Nor are they seen in any further lines. -/
theorem Steady.seenAll_withResults {settings : Settings} {shell : Shell}
    (steady : Steady settings shell) (results : List (Expr Builtin)) (lines : List Text) :
    (shell.withResults results).seenAll lines = shell.seenAll lines := by
  induction lines generalizing shell results with
  | nil => rfl
  | cons line rest ih =>
    obtain ⟨same, left, next⟩ := steady.seen_withResults results line
    rw [seenAll, seenAll, same, next, ih (steady.next line)]

/-- Steady shells with the same pending text and line number differ at most in their results. -/
theorem Steady.eq_withResults {settings : Settings} {first second : Shell}
    (one : Steady settings first) (two : Steady settings second)
    (pending : first.pending = second.pending) (number : first.lineNumber = second.lineNumber) :
    first = second.withResults first.session.results := by
  have settings := one.settings_eq.trans two.settings_eq.symm
  have handler := one.handler_eq.trans two.handler_eq.symm
  have queue := one.idle.queue_eq.trans two.idle.queue_eq.symm
  have prompt : first.prompt = second.prompt := by
    rw [one.composed.prompt_eq, two.composed.prompt_eq, pending]
  obtain ⟨⟨_, _, _, _⟩, _, _, _⟩ := first
  obtain ⟨⟨_, _, _, _⟩, _, _, _⟩ := second
  dsimp only at settings handler queue prompt pending number
  subst settings handler queue prompt pending number
  rfl

/-- The shell has no hidden memory. Two shells with the same flags that have come to the same pending
text and the same line number, by whatever lines, are alike in all that is seen of further lines. A
line that completes a statement which can be read and whose expressions all have values has the value
of the last of them printed, on a line of its own, and no other result. -/
theorem seenAll_of_same_pending (showTokens showTree : Bool) :
    (∀ history other lines : List Text,
      let first := (opened showTokens showTree).after history
      let second := (opened showTokens showTree).after other
      first.pending = second.pending → first.lineNumber = second.lineNumber →
        first.seenAll lines = second.seenAll lines) ∧
    ∀ (history : List Text) (line : Text) (statement : Statement) (exprs values : List (Expr Builtin)),
      let shell := (opened showTokens showTree).after history
      shell.handed line = some statement → statement.exprs = .ok exprs →
        Statement.Values exprs values →
          ∃ value, values.getLast? = some value ∧
            (shell.take line).printed =
              shell.session.settings.shown statement exprs ++ [.value value] ∧
            (∀ emphasis, Notice.renderAll emphasis (shell.take line).printed =
              Notice.renderAll emphasis (shell.session.settings.shown statement exprs)
                ++ value.text ++ ['\n']) ∧
            (shell.take line).ending = .ok .none := by
  refine ⟨?_, ?_⟩
  · intro history other lines first second pending number
    have one : Steady _ first := steady_after showTokens showTree history
    have two : Steady _ second := steady_after showTokens showTree other
    rw [one.eq_withResults two pending number]
    exact two.seenAll_withResults _ lines
  · intro history line statement exprs values shell handed read each
    have steady : Steady _ shell := steady_after showTokens showTree history
    obtain ⟨value, last, ran⟩ :=
      execute_of_values steady.idle (tokens_ne_nil_of_handed handed) read each
    obtain ⟨-, -, -, taken⟩ := take_of_handed handed
    rw [taken, executed_of_guarded shell ran]
    refine ⟨value, last, rfl, ?_, rfl⟩
    intro emphasis
    have printed : Notice.renderAll emphasis [.value value] = value.text ++ ['\n'] := List.append_nil _
    rw [Notice.renderAll_append, printed, List.append_assoc]

/-- A statement fails after its first value and leaves it, another fails at once: neither shows in the
lines that follow, and what is printed next is the value of the next statement alone. -/
theorem seenAll_of_same_pending_leftover :
    let lines := ["-".toList, "g ; )".toList, "(h".toList]
    let first := (opened false false).after ["+ f".toList]
    let second := (opened false false).after ["f".toList]
    first.session.results = [.native .add] ∧ second.session.results = [] ∧
    first.seenAll lines = second.seenAll lines ∧
    (first.take ['-']).printed = [.value (.native .sub)] ∧
    Notice.renderAll .plain (first.take ['-']).printed = "<native ->\n".toList := by
  obtain ⟨alike, printed⟩ := seenAll_of_same_pending false false
  refine ⟨rfl, rfl, alike _ _ _ rfl rfl, ?_⟩
  obtain ⟨value, last, only, text, -⟩ := printed ["+ f".toList] ['-'] ⟨['-'], 2⟩ [.symbol ['-']]
    [.native .sub] rfl rfl (.cons rfl .nil)
  cases last
  exact ⟨only, text .plain⟩

end ParenCalc.Shell
