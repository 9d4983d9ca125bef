import ParenCalc.Proofs.Handler.Reported
import ParenCalc.Proofs.Report.Lines
import ParenCalc.Session

/-! # A handler through its actions

Whatever is asked of a handler, and in whatever order, its trace has each path that was ever mentioned,
at the position of its first mention. A report heads its reason with the lines of the trace, in this
order. Guarded work that is interrupted is reported once, unless the run is to end anyway.
-/

namespace ParenCalc

/-- There is a line to show. -/
def Place.hasLine (place : Place) : Bool := place.line ≠ none ∧ place.line ≠ some []

/-- The entry of a trace that a heading shows. -/
def Heading.entry (heading : Heading) : Text × Place :=
  (heading.path, ⟨some heading.line, heading.number⟩)

/-- The headings are the entries with a line to show. -/
theorem Trace.map_entry_headings (trace : Trace) :
    trace.headings.map Heading.entry = trace.filter fun entry => entry.2.hasLine := by
  induction trace with
  | nil => rfl
  | cons entry rest ih =>
    obtain ⟨path, line, number⟩ := entry
    rcases line with _ | _ | ⟨c, line⟩
    · exact ih
    · exact ih
    · exact congrArg ((path, ⟨some (c :: line), number⟩) :: ·) ih

/-- Where no other path has a line, the one that is set is the only entry to show. -/
theorem Trace.filter_set {trace : Trace} {path : Text} {place : Place}
    (quiet : ∀ entry ∈ trace.set path {}, entry.2.hasLine = false) (shown : place.hasLine = true) :
    (trace.set path place).filter (fun entry => entry.2.hasLine) = [(path, place)] := by
  induction trace with
  | nil => simp [set, shown]
  | cons entry rest ih =>
    unfold set at quiet ⊢
    by_cases same : entry.1 = path
    · rw [if_pos same] at quiet ⊢
      have others : rest.filter (fun entry => entry.2.hasLine) = [] := by
        rw [List.filter_eq_nil_iff]
        intro other member
        exact Bool.eq_false_iff.mp ((List.forall_mem_cons.mp quiet).2 other member)
      rw [List.filter_cons, if_pos shown, others]
    · rw [if_neg same] at quiet ⊢
      obtain ⟨silent, later⟩ := List.forall_mem_cons.mp quiet
      rw [List.filter_cons, if_neg (Bool.eq_false_iff.mp silent), ih later]

theorem Trace.headings_set {trace : Trace} {path line : Text} (number : Option Int)
    (quiet : ∀ entry ∈ trace.set path {}, entry.2.hasLine = false) (inhabited : line ≠ []) :
    (trace.set path ⟨some line, number⟩).headings = [⟨path, line, number⟩] := by
  have shown : Place.hasLine ⟨some line, number⟩ = true := by simp [Place.hasLine, inhabited]
  have only := (trace.set path ⟨some line, number⟩).map_entry_headings
  rw [filter_set quiet shown] at only
  obtain ⟨heading, alone, same⟩ := List.map_eq_singleton_iff.mp only
  cases heading
  cases same
  exact alone

/-- A heading for each entry of the trace with a line to show. What is printed begins with the headers
of these entries, in their order, and after them comes the reason. -/
def Report.Heads (report : Report) (trace : Trace) : Prop :=
  (report.headings.map Heading.entry = trace.filter fun entry => entry.2.hasLine) ∧
  ∀ emphasis, Prints emphasis
    (((trace.filter fun entry => entry.2.hasLine).flatMap fun entry =>
        headerLines entry.1 entry.2.number (entry.2.line.getD []))
      ++ [(if report.complaint.internal then emphasis.mark "[internal] ".toList else [])
        ++ emphasis.mark "error: ".toList ++ report.complaint.reason])
    ((Notice.report report).render emphasis)

theorem Report.heads (trace : Trace) (complaint : Complaint) :
    (Report.mk trace.headings complaint).Heads trace := by
  refine ⟨trace.map_entry_headings, ?_⟩
  intro emphasis
  rw [← trace.map_entry_headings, List.flatMap_map]
  exact prints_render emphasis ⟨trace.headings, complaint⟩

namespace Handler

/-! ## One action -/

/-- The path that an action mentions, if any. -/
def Action.paths : Action → List Text
  | registerFile path | registerLine path _ _ | removeLine path => [path]
  | setFatal _ | throw _ | raise _ | pass => []

/-- The complaint that an action reports, if any. -/
def Action.complaint? : Action → Option Complaint
  | throw complaint => some complaint
  | raise signal => complaintFor signal
  | registerFile _ | registerLine .. | removeLine _ | setFatal _ | pass => none

/-- Only the end of a run is not reported. -/
theorem exists_complaintFor {signal : Signal} (other : ∀ status, signal ≠ .exit status) :
    ∃ complaint, complaintFor signal = some complaint := by
  cases signal with
  | exit status => exact absurd rfl (other status)
  | _ => exact ⟨_, rfl⟩

/-- The end of a run passes. Anything else is reported: a fatal handler then ends the run, any other
forgets the lines. -/
theorem settle_cases (handler : Handler) (signal : Signal) :
    (complaintFor signal = none ∧ handler.settle signal = .interrupted handler signal) ∨
    ∃ complaint, complaintFor signal = some complaint ∧
      ((handler.fatal = true ∧ handler.settle signal =
          ⟨handler, [.report ⟨handler.trace.headings, complaint⟩], .error (.exit (.code 1))⟩) ∨
        (handler.fatal = false ∧ handler.settle signal =
          ⟨{ handler with trace := handler.trace.cleared },
            [.report ⟨handler.trace.headings, complaint⟩],
            if settles signal then .ok () else .error signal⟩)) := by
  unfold settle
  cases told : complaintFor signal with
  | none => exact .inl ⟨rfl, rfl⟩
  | some complaint =>
    refine .inr ⟨complaint, rfl, ?_⟩
    cases fatal : handler.fatal with
    | true =>
      simp only [throw, fatal, if_true]
      exact .inl ⟨trivial, rfl⟩
    | false =>
      simp only [throw, fatal, Bool.false_eq_true, if_false]
      refine .inr ⟨trivial, ?_⟩
      cases settles signal <;> rfl

theorem printed_throw (handler : Handler) (complaint : Complaint) :
    (handler.throw complaint).printed = [.report ⟨handler.trace.headings, complaint⟩] := by
  rw [throw]
  split <;> rfl

/-- An action prints the report of its complaint, if it has one, and nothing else. -/
theorem printed_perform (handler : Handler) (action : Action) :
    (handler.perform action).printed =
      action.complaint?.toList.map fun complaint => .report ⟨handler.trace.headings, complaint⟩ := by
  cases action with
  | throw complaint => exact handler.printed_throw complaint
  | raise signal =>
    rw [perform, Action.complaint?]
    obtain ⟨told, settled⟩ | ⟨complaint, told, ⟨-, settled⟩ | ⟨-, settled⟩⟩ :=
      handler.settle_cases signal
    · rw [told, settled]
      rfl
    · rw [told, settled]
      rfl
    · rw [told, settled]
      rfl
  | _ => rfl

/-- One report is printed. After it a fatal handler ends the run and leaves the trace alone; any other
keeps the paths without their lines, and only what is unexpected goes on. -/
def ReportsOnce (handler : Handler) (signal : Signal) (outcome : Outcome Handler Unit) : Prop :=
  (∃ complaint, outcome.printed = [.report ⟨handler.trace.headings, complaint⟩]) ∧
  if handler.fatal then outcome.state = handler ∧ outcome.ending = .error (.exit (.code 1))
  else
    outcome.state = { handler with trace := handler.trace.map fun entry => (entry.1, ⟨none, none⟩) } ∧
    outcome.ending = match signal with
      | .complaint _ | .overflow | .interrupt => .ok ()
      | .exit _ | .unexpected _ _ => .error signal

theorem reportsOnce (handler : Handler) {signal : Signal} (other : ∀ status, signal ≠ .exit status) :
    handler.ReportsOnce signal (handler.settle signal) := by
  unfold ReportsOnce
  obtain ⟨untold, -⟩ | ⟨complaint, -, ⟨fatal, settled⟩ | ⟨mild, settled⟩⟩ := handler.settle_cases signal
  · obtain ⟨complaint, told⟩ := exists_complaintFor other
    rw [untold] at told
    cases told
  · rw [settled, if_pos fatal]
    exact ⟨⟨complaint, rfl⟩, rfl, rfl⟩
  · rw [settled, if_neg (Bool.eq_false_iff.mp mild)]
    refine ⟨⟨complaint, rfl⟩, rfl, ?_⟩
    cases signal <;> rfl

/-! ## Many actions -/

/-- The handler after an action, however that ends. -/
def next (handler : Handler) (action : Action) : Handler := (handler.perform action).state

/-- The handler after actions. -/
def after (handler : Handler) (actions : List Action) : Handler := actions.foldl next handler

theorem trace_settle_cases (handler : Handler) (signal : Signal) :
    (handler.settle signal).state.trace = handler.trace ∨
      (handler.settle signal).state.trace = handler.trace.cleared := by
  obtain ⟨-, settled⟩ | ⟨complaint, -, ⟨-, settled⟩ | ⟨-, settled⟩⟩ := handler.settle_cases signal
  · exact .inl (congrArg (·.state.trace) settled)
  · exact .inl (congrArg (·.state.trace) settled)
  · exact .inr (congrArg (·.state.trace) settled)

/-- An action sets the place of the path that it mentions. Any other leaves the trace alone or clears it. -/
theorem trace_next_cases (handler : Handler) (action : Action) :
    (∃ path place, action.paths = [path] ∧ (handler.next action).trace = handler.trace.set path place) ∨
    action.paths = [] ∧ ((handler.next action).trace = handler.trace ∨
      (handler.next action).trace = handler.trace.cleared) := by
  cases action with
  | registerFile path => exact .inl ⟨path, {}, rfl, rfl⟩
  | registerLine path line number => exact .inl ⟨path, ⟨some line, number⟩, rfl, rfl⟩
  | removeLine path => exact .inl ⟨path, {}, rfl, rfl⟩
  | setFatal fatal => exact .inr ⟨rfl, .inl rfl⟩
  | throw complaint =>
    -- a complaint that is thrown leaves what a complaint that is raised leaves
    have left := handler.trace_settle_cases (.complaint complaint)
    rw [handler.settle_of_reported (.complaint complaint)] at left
    exact .inr ⟨rfl, left⟩
  | raise signal => exact .inr ⟨rfl, handler.trace_settle_cases signal⟩
  | pass => exact .inr ⟨rfl, .inl rfl⟩

/-- The paths are those mentioned, in the order of their first mention. -/
def Mentions (handler : Handler) (mentioned : List Text) : Prop :=
  handler.trace.map Prod.fst = mentioned.eraseDups

section Mentioned

variable {handler : Handler} {mentioned : List Text} (known : handler.Mentions mentioned)

include known in
theorem Mentions.next (action : Action) : (handler.next action).Mentions (mentioned ++ action.paths) := by
  unfold Mentions at known ⊢
  obtain ⟨path, place, named, set⟩ | ⟨none, kept | cleared⟩ := handler.trace_next_cases action
  · rw [named, set, Trace.paths_set, known, List.eraseDups_append]
    by_cases present : path ∈ mentioned
    · simp [present, List.removeAll]
    · simp [present, List.removeAll, List.eraseDups_cons]
  · rw [none, kept, List.append_nil, known]
  · rw [none, cleared, Trace.paths_cleared, List.append_nil, known]

include known in
theorem Mentions.after (actions : List Action) :
    (handler.after actions).Mentions (mentioned ++ actions.flatMap Action.paths) := by
  induction actions generalizing handler mentioned with
  | nil => simpa [Handler.after] using known
  | cons action rest ih =>
    rw [List.flatMap_cons, ← List.append_assoc]
    exact ih (known.next action)

include known in
/-- Paths keep their positions, and new ones come after them. -/
theorem Mentions.isPrefix_after (actions : List Action) :
    handler.trace.map Prod.fst <+: (handler.after actions).trace.map Prod.fst := by
  rw [known, known.after actions, List.eraseDups_append]
  exact List.prefix_append ..

end Mentioned

/-- After any actions, the trace has each path that was mentioned, in the order of first mention, and
keeps them all for ever. What a further action reports is headed by the lines of the trace and then
gives the reason. Guarded work that is interrupted is dealt with as the interruption alone is: there
is one report, and then a fatal handler ends the run while any other goes on, unless something
unexpected happened; but the end of a run passes without any of this. -/
theorem after_keeps_paths_and_reports (fatal : Bool) (actions : List Action) :
    let handler := after { fatal } actions
    (handler.trace.map Prod.fst = (actions.flatMap Action.paths).eraseDups ∧
      ∀ more, handler.trace.map Prod.fst <+: (handler.after more).trace.map Prod.fst) ∧
    (∀ action, (handler.perform action).printed =
        action.complaint?.toList.map fun complaint => .report ⟨handler.trace.headings, complaint⟩) ∧
    (∀ action report, .report report ∈ (handler.perform action).printed →
      report.Heads handler.trace) ∧
    (∀ signal, (∀ status, signal ≠ .exit status) →
      handler.ReportsOnce signal (handler.perform (.raise signal))) ∧
    (∀ status, handler.perform (.raise (.exit status)) = .interrupted handler (.exit status)) ∧
    ∀ {σ α : Type} [Handled σ] (work : Outcome σ α) (signal : Signal),
      work.ending = .error signal → Handled.handler work.state = handler →
        let settled := handler.perform (.raise signal)
        guarded work = ⟨Handled.withHandler work.state settled.state, work.printed ++ settled.printed,
          settled.ending.map fun _ => none⟩ := by
  intro handler
  have fresh : Mentions { fatal } [] := rfl
  have known : handler.Mentions (actions.flatMap Action.paths) := fresh.after actions
  refine ⟨⟨known, known.isPrefix_after⟩, handler.printed_perform, ?_, ?_, ?_, ?_⟩
  · intro action report member
    rw [printed_perform] at member
    obtain ⟨complaint, -, same⟩ := List.mem_map.mp member
    cases same
    exact Report.heads handler.trace complaint
  · intro signal other
    exact handler.reportsOnce other
  · intro status
    rfl
  · intro σ α _ work signal failure held
    rw [guarded, failure, ← held]
    rfl

/-- Three paths, whose lines were forgotten once. Of the places registered since then only one has a
line to show, and this one heads the report of something unexpected in a session. -/
theorem after_keeps_paths_and_reports_unexpected :
    let handler := after { fatal := false }
      [.registerLine ['b'] ['x'] (some 1), .registerLine ['a'] ['y'] none, .raise .interrupt,
        .registerFile ['c'], .registerLine ['a'] [] (some 2), .registerLine ['b'] ['z'] (some 3)]
    let signal : Signal := .unexpected ['k'] ['m']
    let settled := handler.perform (.raise signal)
    let session : Session := { settings := { path := ['b'] }, handler }
    handler.trace.map Prod.fst = [['b'], ['a'], ['c']] ∧
    (∀ status, signal ≠ .exit status) ∧ handler.ReportsOnce signal settled ∧
    (∃ report, settled.printed = [.report report] ∧ report.Heads handler.trace ∧
      report.headings = [⟨['b'], ['z'], some 3⟩]) ∧
    Notice.renderAll .plain settled.printed =
      "  File 'b', line 3:\n    z\n[internal] error: unknown error: 'k: m'\n".toList ∧
    guarded (.interrupted session signal : Outcome Session Unit) =
      ⟨{ session with handler := settled.state }, settled.printed, .error signal⟩ := by
  intro handler signal settled session
  have other : ∀ status, signal ≠ .exit status := fun status => Signal.noConfusion
  obtain ⟨⟨paths, -⟩, -, heads, once, -, blocks⟩ := after_keeps_paths_and_reports false
    [.registerLine ['b'] ['x'] (some 1), .registerLine ['a'] ['y'] none, .raise .interrupt,
      .registerFile ['c'], .registerLine ['a'] [] (some 2), .registerLine ['b'] ['z'] (some 3)]
  exact ⟨paths, other, once signal other,
    ⟨_, rfl, heads (.raise signal) _ (List.mem_singleton_self _), rfl⟩, by decide,
    blocks (.interrupted session signal : Outcome Session Unit) signal rfl rfl⟩

end Handler

end ParenCalc
