import ParenCalc.Proofs.Session.Queue

/-! # What the flags of a session change

A session goes through the same states and ends alike whatever its flags are. The flags only have
something shown while statements are added, where a session without flags prints nothing. So what is
shown stands in front of all else that is printed.
-/

namespace ParenCalc

/-- What is printed only because a flag asks for it. -/
def Notice.AskedFor (showTokens showTree : Bool) : Notice → Prop
  | tokens _ => showTokens = true
  | tree _ => showTree = true
  | _ => False

namespace Settings

theorem askedFor_of_mem_shown {settings : Settings} {statement : Statement}
    {exprs : List (Expr Builtin)} {notice : Notice} (member : notice ∈ settings.shown statement exprs) :
    notice.AskedFor settings.showTokens settings.showTree := by
  unfold shown listing trees at member
  rcases List.mem_append.mp member with listed | drawn
  · split at listed
    · next asked =>
      rw [List.mem_singleton.mp listed]
      exact asked
    · cases listed
  · split at drawn
    · next asked =>
      obtain ⟨expr, -, rfl⟩ := List.mem_map.mp drawn
      exact asked
    · cases drawn

/-- Of a statement that cannot be read, no trees are shown. -/
theorem shown_nil (settings : Settings) (statement : Statement) :
    settings.shown statement [] = settings.listing statement := by
  simp [shown, trees]

/-- Settings without flags. -/
structure Quiet (settings : Settings) : Prop where
  noTokens : settings.showTokens = false
  noTree : settings.showTree = false

theorem Quiet.shown_eq {settings : Settings} (quiet : settings.Quiet) (statement : Statement)
    (exprs : List (Expr Builtin)) : settings.shown statement exprs = [] := by
  simp [shown, listing, trees, quiet.noTokens, quiet.noTree]

/-- The settings with the given flags. -/
def flagged (settings : Settings) (showTokens showTree : Bool) : Settings :=
  { settings with showTokens, showTree }

end Settings

namespace Outcome

variable {σ α β : Type} {shows : Notice → Prop} {embed : σ → σ}

/-- The second outcome is the first one in another state, except that it prints notices of the given
kind where the first prints nothing. -/
inductive OnlyShows (shows : Notice → Prop) (embed : σ → σ) : Outcome σ α → Outcome σ α → Prop
  | mk (state : σ) (shown : List Notice) (ending : Except Signal α)
      (asked : ∀ notice ∈ shown, shows notice) :
      OnlyShows shows embed ⟨state, [], ending⟩ ⟨embed state, shown, ending⟩

/-- The second outcome is the first one in another state, except that it prints notices of the given
kind before all else. -/
inductive ShowsBefore (shows : Notice → Prop) (embed : σ → σ) : Outcome σ α → Outcome σ α → Prop
  | mk (state : σ) (shown printed : List Notice) (ending : Except Signal α)
      (asked : ∀ notice ∈ shown, shows notice) :
      ShowsBefore shows embed ⟨state, printed, ending⟩ ⟨embed state, shown ++ printed, ending⟩

theorem OnlyShows.andThen {plain full : Outcome σ α} {next next' : σ → α → Outcome σ β}
    (first : OnlyShows shows embed plain full)
    (second : ∀ value, OnlyShows shows embed (next plain.state value) (next' (embed plain.state) value)) :
    OnlyShows shows embed (plain.andThen next) (full.andThen next') := by
  obtain ⟨state, shown, ending, asked⟩ := first
  cases ending with
  | error signal => exact .mk state shown (.error signal) asked
  | ok value =>
    have later := second value
    rw [andThen_of_ok, andThen_of_ok]
    generalize next state value = rest, next' (embed state) value = rest' at later ⊢
    obtain ⟨last, more, ending, also⟩ := later
    exact .mk last (shown ++ more) ending fun notice member =>
      (List.mem_append.mp member).elim (asked notice) (also notice)

/-- Work that goes on alike has the notices of the kind printed before all else. -/
theorem OnlyShows.andThen_alike {plain full : Outcome σ α} {next next' : σ → α → Outcome σ β}
    (first : OnlyShows shows embed plain full)
    (second : ∀ state value, next' (embed state) value = (next state value).mapState embed) :
    ShowsBefore shows embed (plain.andThen next) (full.andThen next') := by
  obtain ⟨state, shown, ending, asked⟩ := first
  cases ending with
  | error signal =>
    have shape : ShowsBefore (α := β) shows embed ⟨state, [], .error signal⟩
        ⟨embed state, shown ++ [], .error signal⟩ := .mk state shown [] _ asked
    rwa [List.append_nil] at shape
  | ok value =>
    rw [andThen_of_ok, andThen_of_ok, second]
    exact .mk _ shown _ _ asked

/-- What the two outcomes have in common, and what the second one shows. -/
theorem ShowsBefore.exists_shown {plain full : Outcome σ α} (related : ShowsBefore shows embed plain full) :
    full.state = embed plain.state ∧ full.ending = plain.ending ∧
      ∃ shown, (∀ notice ∈ shown, shows notice) ∧ full.printed = shown ++ plain.printed := by
  obtain ⟨state, shown, printed, ending, asked⟩ := related
  exact ⟨rfl, rfl, shown, asked, rfl⟩

theorem mapState_andThen (outcome : Outcome σ α) {next next' : σ → α → Outcome σ β}
    (alike : ∀ state value, next' (embed state) value = (next state value).mapState embed) :
    (outcome.mapState embed).andThen next' = (outcome.andThen next).mapState embed := by
  obtain ⟨state, printed, ending⟩ := outcome
  cases ending with
  | error signal => rfl
  | ok value => simp only [mapState, Outcome.andThen, alike]

end Outcome

namespace Session

open Outcome

variable (showTokens showTree : Bool)

/-- The session with the given flags. -/
def flagged (session : Session) (showTokens showTree : Bool) : Session :=
  { session with settings := session.settings.flagged showTokens showTree }

theorem add_flagged {session : Session} (quiet : session.settings.Quiet) (statement : Statement) :
    OnlyShows (Notice.AskedFor showTokens showTree) (·.flagged showTokens showTree)
      (session.add statement) ((session.flagged showTokens showTree).add statement) := by
  have asked : ∀ exprs, ∀ notice ∈ (session.flagged showTokens showTree).settings.shown statement exprs,
      notice.AskedFor showTokens showTree := fun exprs notice => Settings.askedFor_of_mem_shown
  cases read : statement.exprs with
  | error fault =>
    rw [add_of_fault _ read, add_of_fault _ read, ← Settings.shown_nil, ← Settings.shown_nil,
      quiet.shown_eq]
    exact .mk (session.register statement) _ _ (asked [])
  | ok exprs =>
    rw [add_eq_of_read _ read, add_eq_of_read _ read, quiet.shown_eq]
    exact .mk { session.release with queue := session.queue ++ statement.queued exprs } _ _ (asked exprs)

theorem settings_add (session : Session) (statement : Statement) :
    (session.add statement).state.settings = session.settings := by
  cases read : statement.exprs with
  | error fault => rw [add_of_fault _ read]; rfl
  | ok exprs => rw [add_eq_of_read _ read]; rfl

theorem addAll_flagged {session : Session} (quiet : session.settings.Quiet)
    (statements : List Statement) :
    OnlyShows (Notice.AskedFor showTokens showTree) (·.flagged showTokens showTree)
      (session.addAll statements) ((session.flagged showTokens showTree).addAll statements) := by
  induction statements generalizing session with
  | nil => exact .mk session [] (.ok ()) (by simp)
  | cons statement rest ih =>
    apply (add_flagged showTokens showTree quiet statement).andThen
    intro _
    exact ih (settings_add session statement ▸ quiet)

/-- Flags do not matter for a run. -/
theorem runQueue_flagged (session : Session) (items : List Queued) :
    (session.flagged showTokens showTree).runQueue items =
      (session.runQueue items).mapState (·.flagged showTokens showTree) := by
  induction items generalizing session with
  | nil => rfl
  | cons item rest ih =>
    simp only [runQueue]
    cases Builtin.evaluate item.expr with
    | error fault => rfl
    | ok value =>
      have later := ih
        (release { session.register item.statement with results := session.results ++ [value] })
      exact congrArg (preceded · (session.settings.shownValues [value])) later

theorem run_flagged (session : Session) :
    (session.flagged showTokens showTree).run =
      session.run.mapState (·.flagged showTokens showTree) :=
  session.runQueue_flagged showTokens showTree session.queue

/-- The handler deals alike with work that has flags and work that has none. -/
theorem guarded_flagged {α : Type} {plain full : Outcome Session α} {shows : Notice → Prop}
    (related : ShowsBefore shows (·.flagged showTokens showTree) plain full) :
    ShowsBefore shows (·.flagged showTokens showTree) (Handler.guarded plain)
      (Handler.guarded full) := by
  obtain ⟨state, shown, printed, ending, asked⟩ := related
  cases ending with
  | ok value => exact .mk state shown printed (.ok (some value)) asked
  | error signal =>
    simp only [Handler.guarded, List.append_assoc]
    exact .mk { state with handler := (state.handler.settle signal).state } shown _ _ asked

theorem start_flagged (handler : Handler) (documents : Documents) {settings : Settings}
    (quiet : settings.Quiet) :
    OnlyShows (Notice.AskedFor showTokens showTree) (·.flagged showTokens showTree)
      (start handler documents settings)
      (start handler documents (settings.flagged showTokens showTree)) := by
  have path : (settings.flagged showTokens showTree).path = settings.path := rfl
  have mode : (settings.flagged showTokens showTree).interactive = settings.interactive := rfl
  have plain : ∀ ending : Except Signal Unit,
      OnlyShows (Notice.AskedFor showTokens showTree) (·.flagged showTokens showTree)
        ⟨fresh handler settings, [], ending⟩
        ⟨fresh handler (settings.flagged showTokens showTree), [], ending⟩ :=
    fun ending => .mk _ [] ending (by simp)
  simp only [start, path, mode]
  split
  · split
    · exact plain _
    · exact plain _
  · cases readLines documents settings.path with
    | error signal => exact plain _
    | ok lines => exact addAll_flagged showTokens showTree quiet (Statement.group lines)

end Session

end ParenCalc
