import ParenCalc.Proofs.Session.Queue

/-! # Calls on an open session

A session may be asked to add statements, to run its queue and to give back results in any order, and
may be asked again after a failure. A statement is queued as a whole or not at all. A run takes all
that is queued, evaluates it in order up to the first failure, and leaves nothing behind. So what was
added is, in order, what the runs have taken and what still waits. The handler's entry for the
session's path is set by each call; the entries of other paths stay as they are.
-/

namespace ParenCalc

/-- Where a statement is being worked on. -/
def Statement.place (statement : Statement) : Place :=
  ⟨some statement.text, some statement.number⟩

/-- What is queued of a statement: all of its expressions, or nothing if it cannot be read. -/
def Statement.items (statement : Statement) : List Queued :=
  match statement.exprs with
  | .ok exprs => statement.queued exprs
  | .error _ => []

/-- An item of a statement holds one of the expressions that the statement is read as. -/
theorem Statement.exists_of_mem_items {statement : Statement} {item : Queued}
    (member : item ∈ statement.items) :
    item.statement = statement ∧ ∃ exprs, statement.exprs = .ok exprs ∧ item.expr ∈ exprs := by
  unfold items at member
  split at member
  · next exprs read =>
    obtain ⟨expr, present, rfl⟩ := List.mem_map.mp member
    exact ⟨rfl, exprs, read, present⟩
  · cases member

namespace Session

/-- What the handler remembers of the session's path. -/
def entry (session : Session) : Option Place :=
  session.handler.trace.lookup session.settings.path

/-- What the handler remembers of other paths. -/
def otherEntries (session : Session) : Trace :=
  session.handler.trace.without session.settings.path

@[simp] theorem entry_register (session : Session) (statement : Statement) :
    (session.register statement).entry = some statement.place :=
  Trace.lookup_set_self ..

@[simp] theorem entry_release (session : Session) : session.release.entry = some {} :=
  Trace.lookup_set_self ..

@[simp] theorem otherEntries_register (session : Session) (statement : Statement) :
    (session.register statement).otherEntries = session.otherEntries :=
  Trace.without_set ..

@[simp] theorem otherEntries_release (session : Session) :
    session.release.otherEntries = session.otherEntries :=
  Trace.without_set ..

/-! ## One call -/

/-- Adding is all or nothing: a statement that can be read is queued and no longer registered; any
other is registered, and that is all. -/
def AddsWhole (session : Session) (statement : Statement) : Prop :=
  let outcome := session.add statement
  outcome.state.results = session.results ∧ outcome.state.otherEntries = session.otherEntries ∧
    match statement.exprs with
    | .ok exprs =>
      outcome.ending = .ok () ∧ outcome.state.queue = session.queue ++ statement.queued exprs ∧
        outcome.state.entry = some {}
    | .error fault =>
      outcome.ending = .error fault.signal ∧ outcome.state.queue = session.queue ∧
        outcome.state.entry = some statement.place

theorem addsWhole (session : Session) (statement : Statement) : session.AddsWhole statement := by
  unfold AddsWhole
  cases read : statement.exprs with
  | error fault =>
    rw [add_of_fault session read]
    exact ⟨rfl, otherEntries_register .., rfl, rfl, entry_register ..⟩
  | ok exprs =>
    rw [add_eq_of_read session read]
    exact ⟨rfl, session.otherEntries_release, rfl, rfl, session.entry_release⟩

/-- Running takes the whole queue. The values of the first items are added to the results; these are
all of the items, or the next one has no value, and its fault is signalled while its statement is
registered. -/
def RunsInOrder (session : Session) : Prop :=
  let outcome := session.run
  outcome.state.queue = [] ∧ outcome.state.otherEntries = session.otherEntries ∧
    ∃ before after values, session.queue = before ++ after ∧
      List.Forall₂ Queued.Yields before values ∧
      outcome.state.results = session.results ++ values ∧
      ((after = [] ∧ outcome.ending = .ok () ∧
          outcome.state.entry = if session.queue.isEmpty then session.entry else some {}) ∨
        ∃ item rest fault, after = item :: rest ∧ Builtin.evaluate item.expr = .error fault ∧
          outcome.ending = .error fault.signal ∧
          outcome.state.entry = some item.statement.place)

theorem runsInOrder (session : Session) : session.RunsInOrder := by
  unfold RunsInOrder
  obtain ⟨values, each⟩ | ⟨before, item, after, values, fault, split, each, failure⟩ :=
    values_or_first_fault (fun item : Queued => Builtin.evaluate item.expr) session.queue
  · by_cases none : session.queue = []
    · rw [run, none]
      exact ⟨rfl, rfl, [], [], [], rfl, .nil, (List.append_nil _).symm, .inl ⟨rfl, rfl, rfl⟩⟩
    · rw [run, ← runQueue_release session none, runQueue_of_yields _ session.atRest_release each,
        List.isEmpty_eq_false_iff.mpr none]
      exact ⟨rfl, session.otherEntries_release, session.queue, [], values,
        (List.append_nil _).symm, each, rfl, .inl ⟨rfl, rfl, session.entry_release⟩⟩
  · have some : session.queue ≠ [] := by simp [split]
    rw [run, ← runQueue_release session some, split,
      runQueue_of_fault _ session.atRest_release each failure after]
    refine ⟨rfl, ?_, before, item :: after, values, rfl, each, rfl,
      .inr ⟨item, after, fault, rfl, failure, rfl, entry_register ..⟩⟩
    rw [otherEntries_register]
    exact session.otherEntries_release

/-! ## Many calls -/

/-- What may be asked of an open session. -/
inductive Call where
  | add (statement : Statement)
  | run
  | pop

/-- What a call puts at the end of the queue. -/
def Call.items : Call → List Queued
  | add statement => statement.items
  | run | pop => []

/-- The session after a call, whether it fails or not. -/
def next (session : Session) : Call → Session
  | .add statement => (session.add statement).state
  | .run => session.run.state
  | .pop => session.pop.state

/-- The session after calls. -/
def after (session : Session) (calls : List Call) : Session := calls.foldl next session

/-- What the runs among calls take from the queue, in order. -/
def taken (session : Session) : List Call → List Queued
  | [] => []
  | .add statement :: rest => taken (session.next (.add statement)) rest
  | .run :: rest => session.queue ++ taken (session.next .run) rest
  | .pop :: rest => taken (session.next .pop) rest

theorem queue_add (session : Session) (statement : Statement) :
    (session.add statement).state.queue = session.queue ++ statement.items := by
  obtain ⟨-, -, law⟩ := session.addsWhole statement
  unfold Statement.items
  cases read : statement.exprs with
  | error fault =>
    rw [read] at law
    rw [law.2.1, List.append_nil]
  | ok exprs =>
    rw [read] at law
    exact law.2.1

theorem pop_cases (session : Session) :
    ∃ results, session.pop.state = { session with results } := by
  unfold pop
  cases session.results.getLast? with
  | none => exact ⟨session.results, rfl⟩
  | some value => exact ⟨session.results.dropLast, rfl⟩

theorem queue_pop (session : Session) : session.pop.state.queue = session.queue := by
  obtain ⟨results, state⟩ := session.pop_cases
  rw [state]

theorem otherEntries_next (session : Session) (call : Call) :
    (session.next call).otherEntries = session.otherEntries := by
  cases call with
  | add statement => exact (session.addsWhole statement).2.1
  | run => exact session.runsInOrder.2.1
  | pop =>
    obtain ⟨results, state⟩ := session.pop_cases
    rw [next, state]
    rfl

/-- No call touches what is remembered of other paths. -/
theorem otherEntries_after (session : Session) (calls : List Call) :
    (session.after calls).otherEntries = session.otherEntries := by
  induction calls generalizing session with
  | nil => rfl
  | cons call rest ih => exact (ih (session.next call)).trans (session.otherEntries_next call)

/-- What was queued and what is added are, in order, what the runs take and what is left. -/
theorem taken_append_queue (session : Session) (calls : List Call) :
    session.taken calls ++ (session.after calls).queue =
      session.queue ++ calls.flatMap Call.items := by
  induction calls generalizing session with
  | nil => exact (List.append_nil _).symm
  | cons call rest ih =>
    have later := ih (session.next call)
    cases call with
    | add statement =>
      rw [next, queue_add, List.append_assoc] at later
      exact later
    | run =>
      rw [next, session.runsInOrder.1, List.nil_append] at later
      rw [taken, List.append_assoc]
      exact congrArg (session.queue ++ ·) later
    | pop =>
      rw [next, queue_pop] at later
      exact later

/-! ## From the opening on -/

/-- The statements that a session is opened with: those of its file, if it has one. -/
def statementsAt (documents : Documents) (settings : Settings) : List Statement :=
  if settings.path = typedPath then []
  else
    match readLines documents settings.path with
    | .ok lines => Statement.group lines
    | .error _ => []

section Opened

variable {handler : Handler} {documents : Documents} {settings : Settings}
  (opened : (start handler documents settings).ending = .ok ())

include opened in
theorem start_eq_addAll : start handler documents settings =
    (fresh handler settings).addAll (statementsAt documents settings) := by
  unfold start at opened ⊢
  unfold statementsAt
  split
  · next typed =>
    rw [if_pos typed] at opened
    split
    · rfl
    · next refused =>
      rw [if_neg refused] at opened
      cases opened
  · next named =>
    rw [if_neg named] at opened
    cases lines : readLines documents settings.path with
    | error signal =>
      rw [lines] at opened
      cases opened
    | ok lines => rfl

/-- Statements that are all added are added by one call each. -/
theorem state_addAll {session : Session} {statements : List Statement}
    (added : (session.addAll statements).ending = .ok ()) :
    (session.addAll statements).state = session.after (statements.map .add) := by
  induction statements generalizing session with
  | nil => rfl
  | cons statement rest ih =>
    rw [addAll, Outcome.andThen] at added ⊢
    cases ending : (session.add statement).ending with
    | error signal =>
      rw [ending] at added
      cases added
    | ok value =>
      rw [ending] at added
      exact ih added

include opened in
/-- An opened session is a fresh one to which its statements were added. -/
theorem state_of_opened : (start handler documents settings).state =
    (fresh handler settings).after ((statementsAt documents settings).map .add) := by
  have added := start_eq_addAll opened
  rw [added] at opened ⊢
  exact state_addAll opened

theorem taken_adds (session : Session) (statements : List Statement) :
    session.taken (statements.map .add) = [] := by
  induction statements generalizing session with
  | nil => rfl
  | cons statement rest ih => exact ih _

include opened in
/-- What waits in the queue of an opened session: the items of its statements. -/
theorem queue_of_opened : (start handler documents settings).state.queue =
    ((statementsAt documents settings).map Call.add).flatMap Call.items := by
  rw [state_of_opened opened]
  have added := taken_append_queue (fresh handler settings)
    ((statementsAt documents settings).map Call.add)
  rwa [taken_adds] at added

end Opened

/-- The queue of an open session is kept in order by all calls, whatever fails among them. What was
ever added, when the session was opened or by a call, is in this order what the runs have taken and
what still waits; so each item that waits comes from a call that added its statement, and holds one of
the expressions that the statement is read as. A further statement is queued as a whole or not at all,
a run takes the whole queue and evaluates it in order up to the first failure, and the entries of other
paths are as they were before the session was opened. -/
theorem calls_run_in_order (handler : Handler) (documents : Documents) (settings : Settings)
    (opened : (start handler documents settings).ending = .ok ()) (calls : List Call) :
    let first := (start handler documents settings).state
    let session := first.after calls
    let made := (statementsAt documents settings).map Call.add ++ calls
    first.taken calls ++ session.queue = made.flatMap Call.items ∧
    (∀ item ∈ session.queue, Call.add item.statement ∈ made ∧
      ∃ exprs, item.statement.exprs = .ok exprs ∧ item.expr ∈ exprs) ∧
    (∀ statement, session.AddsWhole statement) ∧
    session.RunsInOrder ∧
    session.otherEntries = handler.trace.without settings.path := by
  intro first session made
  have order : first.taken calls ++ session.queue = made.flatMap Call.items := by
    rw [List.flatMap_append, ← queue_of_opened opened]
    exact first.taken_append_queue calls
  refine ⟨order, ?_, session.addsWhole, session.runsInOrder, ?_⟩
  · intro item waits
    have member : item ∈ made.flatMap Call.items := order ▸ List.mem_append_right _ waits
    obtain ⟨call, present, inside⟩ := List.mem_flatMap.mp member
    cases call with
    | add statement =>
      obtain ⟨rfl, read⟩ := Statement.exists_of_mem_items inside
      exact ⟨present, read⟩
    | run => cases inside
    | pop => cases inside
  · have before : first = (fresh handler settings).after _ := state_of_opened opened
    rw [otherEntries_after, before, otherEntries_after]
    exact Trace.without_set ..

/-- A file of which the second expression has no value is run, so that the third is dropped. A
statement that cannot be read is refused, and the next one waits. -/
theorem calls_run_in_order_dropped :
    let handler : Handler := { trace := [(['q'], ⟨some ['x'], some 5⟩)] }
    let documents : Documents := fun _ =>
      some ("+ f\n-\n".toList.map fun c => UInt8.ofNat c.toNat)
    let settings : Settings := { path := ['p'] }
    let calls : List Call := [.run, .add ⟨[')'], 3⟩, .add ⟨['-'], 4⟩]
    let first := (start handler documents settings).state
    let session := first.after calls
    (start handler documents settings).ending = .ok () ∧
    first.taken calls ++ session.queue =
      [⟨⟨"+ f".toList, 1⟩, .symbol ['+']⟩, ⟨⟨"+ f".toList, 1⟩, .symbol ['f']⟩,
        ⟨⟨['-'], 2⟩, .symbol ['-']⟩, ⟨⟨['-'], 4⟩, .symbol ['-']⟩] ∧
    session.queue = [⟨⟨['-'], 4⟩, .symbol ['-']⟩] ∧ session.results = [.native .add] ∧
    session.otherEntries = [(['q'], ⟨some ['x'], some 5⟩)] := by
  intro handler documents settings calls first session
  have opened : (start handler documents settings).ending = .ok () := by rfl
  obtain ⟨order, -, -, -, others⟩ := calls_run_in_order handler documents settings opened calls
  exact ⟨opened, order, rfl, rfl, others⟩

end Session

end ParenCalc
