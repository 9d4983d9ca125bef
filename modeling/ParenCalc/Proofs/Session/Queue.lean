import Mathlib.Data.List.Forall2
import ParenCalc.Proofs.Handler.Reported
import ParenCalc.Proofs.Session.WholeFile

/-! # Statements and values one by one

Between two statements a session is at rest: no line of it is being worked on. Adding or running from
there leads back to rest, or stops at the first fault with the line of its statement registered. What
the session's settings ask to be shown comes before, and the values of a run stand in order.
-/

namespace ParenCalc

/-- The expressions of a statement. -/
def Statement.exprs (statement : Statement) : Except ReadFault (List (Expr Builtin)) :=
  Expr.readAll statement.tokens

/-- Each expression of a statement, to be run for it. -/
def Statement.queued (statement : Statement) (exprs : List (Expr Builtin)) : List Queued :=
  exprs.map (Queued.mk statement)

/-- Running the item gives the value. -/
def Queued.Yields (item : Queued) (value : Expr Builtin) : Prop :=
  Builtin.evaluate item.expr = .ok value

/-- All the items have values, or there is a first one that has none. -/
theorem values_or_first_fault {α β ε : Type} (result : α → Except ε β) (items : List α) :
    (∃ values, List.Forall₂ (fun item value => result item = .ok value) items values) ∨
      ∃ before item after values fault, items = before ++ item :: after ∧
        List.Forall₂ (fun item value => result item = .ok value) before values ∧
        result item = .error fault := by
  induction items with
  | nil => exact .inl ⟨[], .nil⟩
  | cons first rest ih =>
    cases found : result first with
    | error fault => exact .inr ⟨[], first, rest, [], fault, rfl, .nil, found⟩
    | ok value =>
      obtain ⟨values, each⟩ | ⟨before, item, after, values, fault, rfl, each, failure⟩ := ih
      · exact .inl ⟨value :: values, .cons found each⟩
      · exact .inr ⟨first :: before, item, after, value :: values, fault, rfl, .cons found each,
          failure⟩

/-- Among items that all have values, each has one. -/
theorem exists_value_of_mem {α β ε : Type} {result : α → Except ε β} {items : List α} {values : List β}
    (each : List.Forall₂ (fun item value => result item = .ok value) items values) {item : α}
    (member : item ∈ items) : ∃ value, result item = .ok value := by
  induction each with
  | nil => cases member
  | cons first _ ih =>
    rcases List.mem_cons.mp member with rfl | later
    · exact ⟨_, first⟩
    · exact ih later

namespace Settings

/-- What is shown of a statement before it is read. -/
def listing (settings : Settings) (statement : Statement) : List Notice :=
  if settings.showTokens then [.tokens statement.tokens] else []

/-- What is shown of the expressions that were read. -/
def trees (settings : Settings) (exprs : List (Expr Builtin)) : List Notice :=
  if settings.showTree then exprs.map .tree else []

/-- What is shown of a statement that is added. -/
def shown (settings : Settings) (statement : Statement) (exprs : List (Expr Builtin)) : List Notice :=
  settings.listing statement ++ settings.trees exprs

/-- What is printed of values while they are found; the shell does that itself. -/
def shownValues (settings : Settings) (values : List (Expr Builtin)) : List Notice :=
  if settings.interactive then [] else values.map .value

theorem shownValues_cons (settings : Settings) (value : Expr Builtin) (values : List (Expr Builtin)) :
    settings.shownValues (value :: values) =
      settings.shownValues [value] ++ settings.shownValues values := by
  unfold shownValues
  split <;> rfl

end Settings

namespace Outcome

variable {σ α β : Type}

/-- The outcome of work before which something was printed. -/
def preceded (outcome : Outcome σ α) (printed : List Notice) : Outcome σ α :=
  { outcome with printed := printed ++ outcome.printed }

theorem andThen_of_ok (state : σ) (printed : List Notice) (value : α)
    (next : σ → α → Outcome σ β) :
    Outcome.andThen ⟨state, printed, .ok value⟩ next = (next state value).preceded printed := rfl

theorem andThen_of_error (state : σ) (printed : List Notice) (signal : Signal)
    (next : σ → α → Outcome σ β) :
    Outcome.andThen ⟨state, printed, .error signal⟩ next = ⟨state, printed, .error signal⟩ := rfl

theorem preceded_mk (state : σ) (printed first : List Notice) (ending : Except Signal α) :
    (⟨state, printed, ending⟩ : Outcome σ α).preceded first = ⟨state, first ++ printed, ending⟩ := rfl

@[simp] theorem preceded_nil (outcome : Outcome σ α) : outcome.preceded [] = outcome := rfl

@[simp] theorem preceded_preceded (outcome : Outcome σ α) (first second : List Notice) :
    (outcome.preceded second).preceded first = outcome.preceded (first ++ second) := by
  simp [preceded]

end Outcome

namespace Session

/-- No line of the session is being worked on. -/
def AtRest (session : Session) : Prop :=
  session.handler.removeLine session.settings.path = session.handler

/-- The handler knows no other path than the session's, and no line of that. -/
def Alone (session : Session) : Prop :=
  session.handler.trace = [(session.settings.path, {})]

theorem Alone.atRest {session : Session} (alone : session.Alone) : session.AtRest := by
  rw [Alone] at alone
  simp only [AtRest, Handler.removeLine, alone, Trace.set, if_true]
  rw [← alone]

theorem Alone.fresh (settings : Settings) : (fresh {} settings).Alone := rfl

/-- The one line that is known while a statement is worked on. -/
theorem Alone.headings_register {session : Session} (alone : session.Alone) {statement : Statement}
    (inhabited : statement.text ≠ []) :
    (session.register statement).handler.trace.headings =
      [⟨session.settings.path, statement.text, some statement.number⟩] := by
  rw [Alone] at alone
  obtain ⟨c, rest, text⟩ := List.exists_cons_of_ne_nil inhabited
  simp [register, Handler.registerLine, alone, Trace.set, Trace.headings, text]

theorem Alone.cleared_register {session : Session} (alone : session.Alone) (statement : Statement) :
    (session.register statement).handler.trace.cleared = session.handler.trace := by
  rw [Alone] at alone
  simp [register, Handler.registerLine, alone, Trace.set, Trace.cleared]

/-! ## Adding -/

theorem add_of_fault (session : Session) {statement : Statement} {fault : ReadFault}
    (unread : statement.exprs = .error fault) :
    session.add statement =
      ⟨session.register statement, session.settings.listing statement, .error fault.signal⟩ := by
  simp only [Statement.exprs, Statement.tokens] at unread
  simp only [add, unread]
  rfl

theorem add_of_read {session : Session} (rested : session.AtRest) {statement : Statement}
    {exprs : List (Expr Builtin)} (read : statement.exprs = .ok exprs) :
    session.add statement =
      ⟨{ session with queue := session.queue ++ statement.queued exprs },
        session.settings.shown statement exprs, .ok ()⟩ := by
  simp only [Statement.exprs, Statement.tokens] at read
  rw [AtRest] at rested
  simp only [add, read, register, release, Handler.removeLine_registerLine, rested]
  rfl

theorem atRest_release (session : Session) : session.release.AtRest := by
  simp [AtRest, release, Handler.removeLine]

/-- What was registered before does not matter once a statement is. -/
theorem register_release (session : Session) (statement : Statement) :
    session.release.register statement = session.register statement := by
  simp [register, release, Handler.removeLine, Handler.registerLine]

/-- A statement that is read is queued and then no longer registered, whatever was before. -/
theorem add_eq_of_read (session : Session) {statement : Statement} {exprs : List (Expr Builtin)}
    (read : statement.exprs = .ok exprs) :
    session.add statement =
      ⟨{ session.release with queue := session.queue ++ statement.queued exprs },
        session.settings.shown statement exprs, .ok ()⟩ := by
  have same : session.release.add statement = session.add statement := by
    simp only [add, register_release]
    rfl
  rw [← same]
  exact add_of_read session.atRest_release read

/-- Statements that are read are queued in order, before any others are added. -/
theorem addAll_append (session : Session) (rested : session.AtRest) {before : List Statement}
    {exprs : Statement → List (Expr Builtin)}
    (read : ∀ statement ∈ before, statement.exprs = .ok (exprs statement)) (rest : List Statement) :
    session.addAll (before ++ rest) =
      (addAll { session with queue := session.queue ++ before.flatMap fun each => each.queued (exprs each) }
        rest).preceded (before.flatMap fun each => session.settings.shown each (exprs each)) := by
  induction before generalizing session with
  | nil => simp
  | cons statement others ih =>
    obtain ⟨first, later⟩ := List.forall_mem_cons.mp read
    -- what is queued does not matter for being at rest
    have last := ih { session with
      queue := session.queue ++ statement.queued (exprs statement) } rested later
    rw [List.cons_append, addAll, add_of_read rested first, Outcome.andThen_of_ok, last]
    simp

/-- Adding statements that are all read. -/
theorem addAll_of_read {session : Session} (rested : session.AtRest) {statements : List Statement}
    {exprs : Statement → List (Expr Builtin)}
    (read : ∀ statement ∈ statements, statement.exprs = .ok (exprs statement)) :
    session.addAll statements =
      ⟨{ session with queue := session.queue ++ statements.flatMap fun each => each.queued (exprs each) },
        statements.flatMap fun each => session.settings.shown each (exprs each), .ok ()⟩ := by
  have added := session.addAll_append rested read []
  rw [List.append_nil] at added
  rw [added]
  simp [addAll, Outcome.preceded, Outcome.done]

/-- Adding statements of which one is the first that cannot be read. -/
theorem addAll_of_fault {session : Session} (rested : session.AtRest) {before : List Statement}
    {exprs : Statement → List (Expr Builtin)}
    (read : ∀ statement ∈ before, statement.exprs = .ok (exprs statement)) {statement : Statement}
    {fault : ReadFault} (unread : statement.exprs = .error fault) (after : List Statement) :
    session.addAll (before ++ statement :: after) =
      ⟨register { session with
          queue := session.queue ++ before.flatMap fun each => each.queued (exprs each) } statement,
        (before.flatMap fun each => session.settings.shown each (exprs each))
          ++ session.settings.listing statement, .error fault.signal⟩ := by
  rw [addAll_append _ rested read, addAll, add_of_fault _ unread]
  rfl

/-! ## Running -/

theorem runQueue_cons_of_yields {session : Session} (rested : session.AtRest) {item : Queued}
    {value : Expr Builtin} (yields : item.Yields value) (rest : List Queued) :
    session.runQueue (item :: rest) =
      (runQueue { session with results := session.results ++ [value] } rest).preceded
        (session.settings.shownValues [value]) := by
  rw [AtRest] at rested
  rw [Queued.Yields] at yields
  simp only [runQueue, yields, register, release, Handler.removeLine_registerLine, rested]
  rfl

theorem runQueue_cons_of_fault (session : Session) {item : Queued} {fault : EvalFault}
    (failure : Builtin.evaluate item.expr = .error fault) (rest : List Queued) :
    session.runQueue (item :: rest) =
      .interrupted (register { session with queue := [] } item.statement) fault.signal := by
  simp only [runQueue, failure]
  rfl

/-- Items that have values are run in order, before any others. -/
theorem runQueue_append (session : Session) (rested : session.AtRest) {before : List Queued}
    {values : List (Expr Builtin)} (each : List.Forall₂ Queued.Yields before values)
    (rest : List Queued) :
    session.runQueue (before ++ rest) =
      (runQueue { session with results := session.results ++ values } rest).preceded
        (session.settings.shownValues values) := by
  induction each generalizing session with
  | nil => simp [Settings.shownValues]
  | @cons item value _ _ yields _ ih =>
    have later := ih { session with results := session.results ++ [value] } rested
    rw [List.cons_append, runQueue_cons_of_yields rested yields, later, Outcome.preceded_preceded,
      ← Settings.shownValues_cons, List.append_assoc, List.singleton_append]

/-- Running items that all have values. -/
theorem runQueue_of_yields (session : Session) (rested : session.AtRest) {items : List Queued}
    {values : List (Expr Builtin)} (each : List.Forall₂ Queued.Yields items values) :
    session.runQueue items =
      ⟨{ session with queue := [], results := session.results ++ values },
        session.settings.shownValues values, .ok ()⟩ := by
  have ran := session.runQueue_append rested each []
  rw [List.append_nil] at ran
  rw [ran]
  simp [runQueue, Outcome.preceded, Outcome.done]

/-- Running items of which one is the first that has no value. -/
theorem runQueue_of_fault (session : Session) (rested : session.AtRest) {before : List Queued}
    {values : List (Expr Builtin)} (each : List.Forall₂ Queued.Yields before values) {item : Queued}
    {fault : EvalFault} (failure : Builtin.evaluate item.expr = .error fault) (after : List Queued) :
    session.runQueue (before ++ item :: after) =
      ⟨register { session with queue := [], results := session.results ++ values } item.statement,
        session.settings.shownValues values, .error fault.signal⟩ := by
  rw [runQueue_append _ rested each, runQueue_cons_of_fault _ failure]
  simp [Outcome.preceded, Outcome.interrupted, register]

/-- A run of a queue that is not empty forgets what was registered before. -/
theorem runQueue_release (session : Session) {items : List Queued} (some : items ≠ []) :
    session.release.runQueue items = session.runQueue items := by
  obtain ⟨item, rest, rfl⟩ := List.exists_cons_of_ne_nil some
  simp only [runQueue, register_release]
  rfl

/-! ## Under the handler -/

/-- The report of a complaint about a statement. -/
def reportFor (path : Text) (statement : Statement) (complaint : Complaint) : Notice :=
  .report ⟨[⟨path, statement.text, some statement.number⟩], complaint⟩

section Interrupted

variable (session : Session) (alone : session.Alone) {statement : Statement}
  (inhabited : statement.text ≠ []) {signal : Signal} {complaint : Complaint}
  (reported : Reported signal complaint) (printed : List Notice)

include alone inhabited in
theorem reportOn_register (ending : Except Signal Unit) :
    Handler.reportOn ⟨session.register statement, printed, ending⟩ complaint =
      reportFor session.settings.path statement complaint :=
  congrArg (fun known => Notice.report ⟨known, complaint⟩) (alone.headings_register inhabited)

include alone inhabited reported in
/-- Work that stops at a statement is reported for that statement, and a fatal handler ends the run. -/
theorem guarded_register_of_fatal (fatal : session.handler.fatal = true) :
    Handler.guarded (α := Unit) ⟨session.register statement, printed, .error signal⟩ =
      ⟨session.register statement, printed ++ [reportFor session.settings.path statement complaint],
        .error (.exit (.code 1))⟩ := by
  rw [Handler.guarded_of_fatal rfl reported fatal, reportOn_register session alone inhabited]
  rfl

include alone inhabited reported in
/-- Any other handler forgets the statement after its report, and the session is what it was. -/
theorem guarded_register_of_not_fatal (mild : session.handler.fatal = false) :
    Handler.guarded (α := Unit) ⟨session.register statement, printed, .error signal⟩ =
      ⟨session, printed ++ [reportFor session.settings.path statement complaint], .ok none⟩ := by
  have restored : { fatal := false, trace := (session.register statement).handler.trace.cleared } =
      session.handler := by
    rw [alone.cleared_register, ← mild]
  rw [Handler.guarded_of_not_fatal rfl reported mild, reportOn_register session alone inhabited]
  exact congrArg (fun handler => Outcome.mk { session with handler } _ _) restored

end Interrupted

end Session

end ParenCalc
