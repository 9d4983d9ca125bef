import ParenCalc.Session

/-! # Workspaces

A workspace has one handler for all the sessions that are opened in it, and at most one session
open. A session that cannot be opened leaves its traces in the handler and the open session in
place.
-/

namespace ParenCalc

/-- A handler, alone or with the session that is open. -/
inductive Workspace where
  | idle (handler : Handler)
  | active (session : Session)

/-- What can be asked of a workspace. -/
inductive Request where
  | start (settings : Settings)
  | add (statement : Statement)
  | run
  | pop

namespace Workspace

def handler : Workspace → Handler
  | idle handler => handler
  | active session => session.handler

def session? : Workspace → Option Session
  | idle _ => none
  | active session => some session

def withHandler (handler : Handler) : Workspace → Workspace
  | idle _ => idle handler
  | active session => active { session with handler }

instance : Handler.Handled Workspace where
  handler := Workspace.handler
  withHandler workspace handler := workspace.withHandler handler

/-- Work on the open session. -/
def onSession {α : Type} (workspace : Workspace) (work : Session → Outcome Session α) :
    Outcome Workspace α :=
  match workspace with
  | idle _ =>
    .interrupted workspace
      (.unexpected "IndexError".toList "list index out of range".toList)
  | active session => (work session).mapState active

/-- The outcome of a request; only the latest result has a value. -/
def perform (documents : Documents) (workspace : Workspace) :
    Request → Outcome Workspace (Option (Expr Builtin))
  | .start settings =>
    let outcome := Session.start workspace.handler documents settings
    match outcome.ending with
    | .ok _ => ⟨active outcome.state, outcome.printed, .ok none⟩
    | .error signal =>
      ⟨workspace.withHandler outcome.state.handler, outcome.printed, .error signal⟩
  | .add statement =>
    (workspace.onSession (·.add statement)).andThen fun state _ => .done state none
  | .run => (workspace.onSession (·.run)).andThen fun state _ => .done state none
  | .pop => (workspace.onSession (·.pop)).andThen fun state value => .done state (some value)

end Workspace

end ParenCalc
