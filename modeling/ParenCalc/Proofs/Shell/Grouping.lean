import ParenCalc.Proofs.Shell.Lines

/-! # The shell and a file cut lines alike

While lines are taken in, a file has its statements so far and the shell has its pending text. Both
look at the same text: what is unfinished, joined with the tidy line. An open text is unfinished
again, and a closed one is a statement, unless it is empty. So the two go on in step, whatever blank
lines, comments and surplus parentheses there are.
-/

namespace ParenCalc

namespace Statement

/-- What is left unfinished by a text. -/
def remainder (text : Text) : Text := if isOpen text then text else []

/-- The text of the statement that a text completes, if it does. -/
def delivered (text : Text) : List Text := if isOpen text || text.isEmpty then [] else [text]

/-- The text of the latest statement, while it is open. -/
def unfinished : List Statement → Text
  | [] => []
  | latest :: _ => remainder latest.text

/-- The statements without the latest, while that is open. -/
def finished (collected : List Statement) : List Statement :=
  if goesOn collected then collected.tail else collected

theorem unfinished_of_closed {collected : List Statement} (closed : goesOn collected = false) :
    unfinished collected = [] := by
  cases collected with
  | nil => rfl
  | cons latest earlier =>
    rw [goesOn] at closed
    simp [unfinished, remainder, closed]

theorem delivered_of_ne_nil {text : Text} (inhabited : text ≠ []) :
    delivered text = if isOpen text then [] else [text] := by
  simp [delivered, inhabited]

/-- A line makes the unfinished text and itself the latest statement, unless both are empty. -/
theorem extended_cases (collected : List Statement) (line : Text) (number : Int) :
    (joined (unfinished collected) (tidy line) ≠ [] ∧ ∃ first,
      extended collected line number =
        ⟨joined (unfinished collected) (tidy line), first⟩ :: finished collected) ∨
    (joined (unfinished collected) (tidy line) = [] ∧ goesOn collected = false ∧
      extended collected line number = collected) := by
  unfold extended
  obtain ⟨latest, earlier, rfl, unclosed, taken⟩ | ⟨closed, some, taken⟩ | ⟨closed, none, taken⟩ :=
    absorb_cases collected line number
  · have same : unfinished (latest :: earlier) = latest.text := by
      simp [unfinished, remainder, unclosed]
    rw [taken, same, finished, goesOn, if_pos unclosed]
    exact .inl ⟨joined_ne_nil unclosed _, _, rfl⟩
  · rw [taken, unfinished_of_closed closed, joined_nil_left, finished, closed]
    exact .inl ⟨some, _, rfl⟩
  · rw [taken, unfinished_of_closed closed, joined_nil_left]
    exact .inr ⟨none, closed, rfl⟩

/-- What a line leaves unfinished. -/
theorem unfinished_extended (collected : List Statement) (line : Text) (number : Int) :
    unfinished (extended collected line number) =
      remainder (joined (unfinished collected) (tidy line)) := by
  obtain ⟨-, first, taken⟩ | ⟨none, closed, taken⟩ := extended_cases collected line number
  · rw [taken, unfinished]
  · rw [taken, none, unfinished_of_closed closed]
    rfl

/-- What a line finishes. -/
theorem finished_extended (collected : List Statement) (line : Text) (number : Int) :
    (finished (extended collected line number)).reverse.map text =
      (finished collected).reverse.map text ++ delivered (joined (unfinished collected) (tidy line)) := by
  obtain ⟨some, first, taken⟩ | ⟨none, closed, taken⟩ := extended_cases collected line number
  · rw [taken, finished, goesOn, delivered_of_ne_nil some]
    split <;> simp
  · rw [taken, none]
    exact (List.append_nil _).symm

end Statement

namespace Shell

open Statement

variable {shell : Shell} {line : Text}

/-- The shell looks at the text that a file would look at. -/
theorem Composed.textWith_eq (composed : shell.Composed) (line : Text) :
    shell.textWith line = joined shell.pending (tidy line) :=
  tidy_append_trim composed.not_mem_pending line

/-- A blank line adds nothing to what is pending. -/
theorem Composed.joined_blank (composed : shell.Composed) (blank : Text.trim line = []) :
    joined shell.pending (tidy line) = shell.pending := by
  have nothing : tidy line = [] := by
    rw [← tidy_trim, blank]
    rfl
  rw [nothing, ← composed.tidy_pending]
  exact joined_nil_right (Text.hasNoBlankEnd_trim _)

/-- What a line that is no command leaves pending, and what it hands to the session. -/
theorem Composed.step (composed : shell.Composed) (plain : Command.isCommand line = false) :
    (shell.next line).pending = remainder (joined shell.pending (tidy line)) ∧
      (shell.handed line).toList.map text = delivered (joined shell.pending (tidy line)) := by
  obtain other | ⟨typed, keeps⟩ | ⟨typed, completes⟩ := shell.line_cases line
  · obtain ⟨printed, reply, same⟩ := take_of_other other
    obtain ⟨none, stays⟩ := same shell
    rw [Shell.next, stays, none, composed.joined_blank (Command.trim_eq_nil other plain)]
    rcases composed.waiting with nothing | unclosed
    · simp [nothing, remainder, delivered]
    · simp [unclosed, remainder, delivered]
  · obtain ⟨none, kept⟩ := take_of_keeps typed keeps
    rw [Shell.next, kept, none, ← composed.textWith_eq]
    rcases keeps with unclosed | nothing
    · simp [unclosed, remainder, delivered, holding, Outcome.done]
    · simp [nothing, remainder, delivered, holding, Outcome.done]
  · obtain ⟨some, executed⟩ := take_of_not_keeps typed completes
    obtain ⟨closed, inhabited⟩ := not_or.mp completes
    rw [Shell.next, executed, some, ← composed.textWith_eq]
    simp [closed, inhabited, remainder, delivered, holding, Shell.executed, completed]

/-- Lines that are no commands leave pending what they leave unfinished in a file, and hand over what
they finish there. -/
theorem Composed.lines {shell : Shell} (composed : shell.Composed) (collected : List Statement)
    (same : shell.pending = unfinished collected) (number : Int) (lines : List Text)
    (plain : ∀ line ∈ lines, Command.isCommand line = false) :
    let all := absorbAll (goesOn collected) collected number lines
    (shell.after lines).pending = unfinished all ∧
      (finished all).reverse.map text =
        (finished collected).reverse.map text ++ (shell.handedAll lines).map text := by
  induction lines generalizing shell collected number with
  | nil => exact ⟨same, (List.append_nil _).symm⟩
  | cons line rest ih =>
    obtain ⟨first, others⟩ := List.forall_mem_cons.mp plain
    obtain ⟨pending, handed⟩ := composed.step first
    rw [same] at pending handed
    have kept : (shell.next line).pending = unfinished (extended collected line number) := by
      rw [pending, unfinished_extended]
    obtain ⟨last, texts⟩ := ih (composed.next line) _ kept (number + 1) others
    rw [absorbAll_cons]
    refine ⟨last, ?_⟩
    rw [texts, finished_extended, ← handed, handedAll, List.map_append, List.append_assoc]

/-- A line has the session execute the statement that it hands over, and leaves it alone if there is
none. -/
theorem session_next (shell : Shell) (line : Text) :
    (shell.next line).session =
      match shell.handed line with
      | none => shell.session
      | some statement => (Handler.guarded (execute shell.session statement)).state := by
  obtain other | ⟨typed, keeps⟩ | ⟨typed, completes⟩ := shell.line_cases line
  · obtain ⟨printed, reply, same⟩ := take_of_other other
    rw [Shell.next, (same shell).2, (same shell).1]
  · rw [Shell.next, (take_of_keeps typed keeps).2, (take_of_keeps typed keeps).1]
    rfl
  · rw [Shell.next, (take_of_not_keeps typed completes).2, (take_of_not_keeps typed completes).1]
    rfl

/-- The session has the statements that lines hand over executed, one after the other, and nothing
else. -/
theorem session_after (shell : Shell) (lines : List Text) :
    (shell.after lines).session =
      (shell.handedAll lines).foldl
        (fun session statement => (Handler.guarded (execute session statement)).state)
        shell.session := by
  induction lines generalizing shell with
  | nil => rfl
  | cons line rest ih =>
    change ((shell.next line).after rest).session = _
    rw [ih, handedAll, List.foldl_append, session_next]
    cases shell.handed line <;> rfl

/-- A line that hands a statement over prints what the session prints then. -/
theorem printed_of_handed {shell : Shell} {line : Text} {statement : Statement}
    (handed : shell.handed line = some statement) :
    (shell.take line).printed = (Handler.guarded (execute shell.session statement)).printed := by
  obtain ⟨-, -, -, taken⟩ := take_of_handed handed
  rw [taken, executed]

/-- The shell and a file cut lines into the same statements. What the shell does with a statement is
to add it to its session and to run the session: so it does with each statement that a line hands
over, with nothing else, and a line that hands over none leaves the session alone. Lines that are no
commands hand over to a new shell the texts that they are grouped into in a file, in order; only a
last one that is open is not handed over, and is pending instead. -/
theorem handedAll_eq_group (session : Session) (lines : List Text)
    (plain : ∀ line ∈ lines, Command.isCommand line = false) :
    let entered (session : Session) (statement : Statement) : Outcome Session (Option Unit) :=
      Handler.guarded ((session.add statement).andThen fun added _ =>
        added.run.andThen fun finished _ =>
          match finished.results.getLast? with
          | none => .done finished ()
          | some value => ⟨{ finished with results := [] }, [.value value], .ok ()⟩)
    let statements := (Shell.fresh session).handedAll lines
    let handed := statements.map Statement.text
    let pending := ((Shell.fresh session).after lines).pending
    let texts := (group lines).map Statement.text
    (∀ (shell : Shell) (line : Text),
      (shell.handed line = none → (shell.next line).session = shell.session) ∧
      ∀ statement, shell.handed line = some statement →
        (shell.next line).session = (entered shell.session statement).state ∧
        (shell.take line).printed = (entered shell.session statement).printed) ∧
    ((Shell.fresh session).after lines).session =
      statements.foldl (fun session statement => (entered session statement).state) session ∧
    (∀ earlier latest, texts = earlier ++ [latest] → isOpen latest = true →
      handed = earlier ∧ pending = latest) ∧
    ((∀ latest ∈ texts.getLast?, isOpen latest = false) → handed = texts ∧ pending = []) := by
  intro entered statements handed pending texts
  obtain ⟨last, cut⟩ := (Composed.fresh session).lines [] rfl 1 lines plain
  have grouped : texts = (absorbAll false [] 1 lines).reverse.map Statement.text := rfl
  change pending = unfinished (absorbAll false [] 1 lines) at last
  change (finished (absorbAll false [] 1 lines)).reverse.map Statement.text = handed at cut
  generalize absorbAll false [] 1 lines = all at grouped last cut
  refine ⟨?_, session_after (Shell.fresh session) lines, ?_, ?_⟩
  · intro shell line
    refine ⟨?_, ?_⟩
    · intro none
      rw [session_next, none]
    · intro statement some
      refine ⟨?_, printed_of_handed some⟩
      rw [session_next, some]
      rfl
  · intro earlier latest split unclosed
    cases all with
    | nil => simp [grouped] at split
    | cons newest others =>
      rw [grouped, List.reverse_cons, List.map_append] at split
      obtain ⟨rfl, single⟩ := List.append_inj' split rfl
      obtain rfl := List.head_eq_of_cons_eq single
      refine ⟨?_, ?_⟩
      · rw [← cut, finished, goesOn, if_pos unclosed]
        rfl
      · rw [last, unfinished, remainder, if_pos unclosed]
  · intro closed
    have settled : goesOn all = false := by
      cases all with
      | nil => rfl
      | cons newest others =>
        apply closed
        rw [grouped, List.reverse_cons, List.map_append]
        exact List.getLast?_concat ..
    refine ⟨?_, last.trans (unfinished_of_closed settled)⟩
    rw [← cut, grouped, finished, settled]
    rfl

/-- A statement over three lines, one of them blank and one with a parenthesis in its comment, is
handed over; the next one is left open by the last line and stays pending. A line that is a statement
by itself is handed over at once, and its value is printed. -/
theorem handedAll_eq_group_pending :
    let lines := ["(a ; (".toList, [], " b) c ;".toList, "(d".toList, "; )".toList, "\tf ".toList]
    let shell := Shell.fresh (Session.fresh {} { path := Session.typedPath, interactive := true })
    (∀ line ∈ lines, Command.isCommand line = false) ∧
    (group lines).map Statement.text = ["(a b) c".toList, "(d f".toList] ∧
    (shell.handedAll lines).map Statement.text = ["(a b) c".toList] ∧
    (shell.after lines).pending = "(d f".toList ∧
    shell.handed ['+'] = some ⟨['+'], 1⟩ ∧ (shell.take ['+']).printed = [.value (.native .add)] := by
  intro lines shell
  have plain : ∀ line ∈ lines, Command.isCommand line = false := by decide
  have grouped : (group lines).map Statement.text = ["(a b) c".toList, "(d f".toList] := by rfl
  have handed : shell.handed ['+'] = some ⟨['+'], 1⟩ := by rfl
  obtain ⟨entered, -, cut, -⟩ := handedAll_eq_group shell.session lines plain
  obtain ⟨given, pending⟩ := cut ["(a b) c".toList] "(d f".toList grouped rfl
  exact ⟨plain, grouped, given, pending, handed, ((entered shell ['+']).2 _ handed).2⟩

end Shell

end ParenCalc
