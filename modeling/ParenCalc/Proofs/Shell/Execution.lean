import ParenCalc.Proofs.Reader.Grammar
import ParenCalc.Proofs.Session.Queue
import ParenCalc.Shell

/-! # One statement of the shell

Between two statements the session of a shell is idle: nothing is queued, and its handler goes on
after complaints and knows no line. A statement leaves it idle, whether it cannot be read, fails
half-way or succeeds. The results before it are dropped when it succeeds and matter in no other way: a
statement has a token, hence an expression, hence a value of its own to be printed.
-/

namespace ParenCalc

/-- Where there is a token, an expression is read. -/
theorem Expr.ne_nil_of_readAll {F : Type} {tokens : List Token} {exprs : List (Expr F)}
    (read : Expr.readAll tokens = .ok exprs) (inhabited : tokens ≠ []) : exprs ≠ [] := by
  rintro rfl
  obtain ⟨⟨parts, -, none, rfl⟩, -⟩ := Expr.derivesAll_of_readAllFrom read
  obtain rfl := List.map_eq_nil_iff.mp none
  exact inhabited rfl

namespace Statement

/-- Expressions together with their values. -/
def Values : List (Expr Builtin) → List (Expr Builtin) → Prop :=
  List.Forall₂ fun expr value => Builtin.evaluate expr = .ok value

theorem Values.exists_of_mem {exprs values : List (Expr Builtin)} (each : Values exprs values)
    {expr : Expr Builtin} (member : expr ∈ exprs) : ∃ value, Builtin.evaluate expr = .ok value :=
  exists_value_of_mem each member

/-- All expressions have values, or there is a first one that has none. -/
theorem values_or_fault (exprs : List (Expr Builtin)) :
    (∃ values, Values exprs values) ∨
      ∃ before expr after values fault, exprs = before ++ expr :: after ∧ Values before values ∧
        Builtin.evaluate expr = .error fault :=
  values_or_first_fault Builtin.evaluate exprs

/-- The statement can be read, and all of its expressions have values. -/
def Succeeds (statement : Statement) : Prop :=
  ∃ exprs values, statement.exprs = .ok exprs ∧ Values exprs values

theorem Values.yields {exprs values : List (Expr Builtin)} (each : Values exprs values)
    (statement : Statement) : List.Forall₂ Queued.Yields (statement.queued exprs) values :=
  List.forall₂_map_left_iff.mpr each

end Statement

namespace Session

/-- A session of the shell between two statements. -/
structure Idle (session : Session) : Prop where
  interactive : session.settings.interactive = true
  alone : session.Alone
  mild : session.handler.fatal = false
  queue_eq : session.queue = []

/-- Results do not matter for being idle. -/
theorem Idle.withResults {session : Session} (idle : session.Idle) (results : List (Expr Builtin)) :
    Idle { session with results } :=
  ⟨idle.interactive, idle.alone, idle.mild, idle.queue_eq⟩

theorem Idle.withoutQueue {session : Session} (idle : session.Idle) (results : List (Expr Builtin)) :
    ({ session with queue := [], results } : Session) = { session with results } := by
  rw [← idle.queue_eq]

end Session

namespace Shell

open Session

section Execution

variable {session : Session} (idle : session.Idle) {statement : Statement}
  (inhabited : statement.tokens ≠ [])

theorem text_ne_nil_of_tokens {statement : Statement} (inhabited : statement.tokens ≠ []) :
    statement.text ≠ [] := by
  intro nothing
  apply inhabited
  rw [Statement.tokens, nothing]
  rfl

/-- The shell's session prints no values by itself. -/
theorem shownValues_of_interactive {settings : Settings} (interactive : settings.interactive = true)
    (values : List (Expr Builtin)) : settings.shownValues values = [] := by
  simp [Settings.shownValues, interactive]

include idle inhabited in
/-- A statement that cannot be read is reported. -/
theorem execute_of_unread {fault : ReadFault} (unread : statement.exprs = .error fault)
    {complaint : Complaint} (reported : Reported fault.signal complaint) :
    Handler.guarded (execute session statement) =
      ⟨session, session.settings.listing statement
        ++ [reportFor session.settings.path statement complaint], .ok none⟩ := by
  rw [execute, add_of_fault session unread]
  exact guarded_register_of_not_fatal _ idle.alone (text_ne_nil_of_tokens inhabited) reported _ idle.mild

include idle in
/-- A statement that is read is run. -/
theorem execute_of_read {exprs : List (Expr Builtin)} (read : statement.exprs = .ok exprs) :
    execute session statement =
      ((runQueue { session with queue := statement.queued exprs }
        (statement.queued exprs)).andThen fun finished _ =>
          match finished.results.getLast? with
          | none => .done finished ()
          | some value => ⟨{ finished with results := [] }, [.value value], .ok ()⟩).preceded
        (session.settings.shown statement exprs) := by
  rw [execute, add_of_read idle.alone.atRest read, Outcome.andThen_of_ok, idle.queue_eq,
    List.nil_append]
  rfl

include idle inhabited in
/-- A statement with an expression that has no value is reported, and the values before it are kept. -/
theorem execute_of_fault {exprs before after values : List (Expr Builtin)} {expr : Expr Builtin}
    (read : statement.exprs = .ok exprs) (split : exprs = before ++ expr :: after)
    (each : Statement.Values before values) {fault : EvalFault}
    (failure : Builtin.evaluate expr = .error fault) {complaint : Complaint}
    (reported : Reported fault.signal complaint) :
    Handler.guarded (execute session statement) =
      ⟨{ session with results := session.results ++ values },
        session.settings.shown statement exprs
          ++ [reportFor session.settings.path statement complaint], .ok none⟩ := by
  have stopped : Builtin.evaluate (Queued.mk statement expr).expr = .error fault := failure
  have ran := runQueue_of_fault { session with queue := statement.queued exprs } idle.alone.atRest
    (each.yields statement) stopped (statement.queued after)
  have items : statement.queued exprs =
      statement.queued before ++ ⟨statement, expr⟩ :: statement.queued after := by
    rw [split]
    exact List.map_append
  rw [← items, idle.withoutQueue, shownValues_of_interactive idle.interactive] at ran
  rw [execute_of_read idle read, ran, Outcome.andThen_of_error, Outcome.preceded_mk, List.append_nil]
  exact guarded_register_of_not_fatal _ (idle.withResults _).alone (text_ne_nil_of_tokens inhabited)
    reported _ idle.mild

include idle inhabited in
/-- A statement that succeeds has the value of its last expression printed, and leaves no results. -/
theorem execute_of_values {exprs values : List (Expr Builtin)} (read : statement.exprs = .ok exprs)
    (each : Statement.Values exprs values) :
    ∃ value, values.getLast? = some value ∧
      Handler.guarded (execute session statement) =
        ⟨{ session with results := [] },
          session.settings.shown statement exprs ++ [.value value], .ok (some ())⟩ := by
  have some : values ≠ [] := by
    intro nothing
    rw [nothing, Statement.Values, List.forall₂_nil_right_iff] at each
    exact Expr.ne_nil_of_readAll read inhabited each
  refine ⟨values.getLast some, List.getLast?_eq_some_getLast some, ?_⟩
  have latest : (session.results ++ values).getLast? = values.getLast some := by
    rw [List.getLast?_append, List.getLast?_eq_some_getLast some]
    rfl
  have ran := runQueue_of_yields { session with queue := statement.queued exprs }
    idle.alone.atRest (each.yields statement)
  rw [shownValues_of_interactive idle.interactive] at ran
  rw [execute_of_read idle read, ran, Outcome.andThen_of_ok, Outcome.preceded_nil]
  simp only [latest, Outcome.preceded_mk]
  rw [← idle.withoutQueue]
  exact Handler.guarded_of_ok rfl

include idle inhabited in
/-- What a statement does to an idle session, whatever results are left in it. A statement that
succeeds drops them, any other adds to them, and what is printed does not depend on them. -/
theorem execute_cases :
    (statement.Succeeds ∧ ∃ printed, ∀ results,
      Handler.guarded (execute { session with results } statement) =
        ⟨{ session with results := [] }, printed, .ok (some ())⟩) ∨
    (¬statement.Succeeds ∧ ∃ printed values, ∀ results,
      Handler.guarded (execute { session with results } statement) =
        ⟨{ session with results := results ++ values }, printed, .ok none⟩) := by
  cases outcome : statement.exprs with
  | error fault =>
    obtain ⟨complaint, reported⟩ := fault.exists_reported
    refine .inr ⟨?_, session.settings.listing statement
      ++ [reportFor session.settings.path statement complaint], [], fun results => ?_⟩
    · rintro ⟨exprs, values, read, -⟩
      rw [outcome] at read
      cases read
    · rw [List.append_nil]
      exact execute_of_unread (idle.withResults results) inhabited outcome reported
  | ok exprs =>
    obtain ⟨values, each⟩ | ⟨before, expr, after, values, fault, split, each, failure⟩ :=
      Statement.values_or_fault exprs
    · obtain ⟨value, last, -⟩ := execute_of_values idle inhabited outcome each
      refine .inl ⟨⟨exprs, values, outcome, each⟩,
        session.settings.shown statement exprs ++ [.value value], fun results => ?_⟩
      obtain ⟨other, same, ran⟩ := execute_of_values (idle.withResults results) inhabited outcome each
      rw [last] at same
      cases same
      exact ran
    · obtain ⟨complaint, reported⟩ := fault.exists_reported
      refine .inr ⟨?_, session.settings.shown statement exprs
        ++ [reportFor session.settings.path statement complaint], values, fun results => ?_⟩
      · rintro ⟨others, given, read, all⟩
        rw [outcome] at read
        cases read
        have member : expr ∈ exprs := by simp [split]
        obtain ⟨value, success⟩ := all.exists_of_mem member
        rw [failure] at success
        cases success
      · exact execute_of_fault (idle.withResults results) inhabited outcome split each failure reported

end Execution

end Shell

end ParenCalc
