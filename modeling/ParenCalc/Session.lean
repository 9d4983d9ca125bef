import ParenCalc.Handler
import ParenCalc.Statement
import ParenCalc.Text.Utf8

/-! # Sessions

A session takes statements, queues their expressions and runs the queue in order. The line that is
being read or run is registered with the handler, and forgotten when that succeeds. The first
failure of a run empties the queue. A session opened on a file takes all of its statements.
-/

namespace ParenCalc

/-- How a session is opened. -/
structure Settings where
  path : Text
  /-- Statements are typed rather than read from a file, and the shell prints results. -/
  interactive : Bool := false
  showTokens : Bool := false
  showTree : Bool := false
deriving DecidableEq, Repr

/-- An expression that waits to be run, with the statement it comes from. -/
structure Queued where
  statement : Statement
  expr : Expr Builtin

/-- A session and the handler it reports to. -/
structure Session where
  settings : Settings
  handler : Handler
  queue : List Queued := []
  results : List (Expr Builtin) := []

/-- The bytes of the files that can be opened. -/
abbrev Documents := Text → Option (List UInt8)

namespace Session

instance : Handler.Handled Session where
  handler := Session.handler
  withHandler session handler := { session with handler }

/-- The path that stands for typed statements. -/
def typedPath : Text := "<in>".toList

/-- Registers the statement that is being worked on. -/
def register (session : Session) (statement : Statement) : Session :=
  { session with
    handler := session.handler.registerLine session.settings.path statement.text
      (some statement.number) }

/-- Forgets the statement that was being worked on. -/
def release (session : Session) : Session :=
  { session with handler := session.handler.removeLine session.settings.path }

/-- Reads all the expressions of a statement and queues them. -/
def add (session : Session) (statement : Statement) : Outcome Session Unit :=
  let registered := session.register statement
  let tokens := Token.tokenize statement.text
  let listing := if session.settings.showTokens then [.tokens tokens] else []
  match Expr.readAll tokens with
  | .error fault => ⟨registered, listing, .error fault.signal⟩
  | .ok exprs =>
    let trees := if session.settings.showTree then exprs.map .tree else []
    let queued := { registered with queue := session.queue ++ exprs.map (Queued.mk statement) }
    ⟨queued.release, listing ++ trees, .ok ()⟩

/-- Adds statements one after the other. -/
def addAll (session : Session) : List Statement → Outcome Session Unit
  | [] => .done session ()
  | statement :: rest => (session.add statement).andThen fun next _ => next.addAll rest

/-- Runs the given queue. -/
def runQueue (session : Session) : List Queued → Outcome Session Unit
  | [] => .done { session with queue := [] } ()
  | item :: rest =>
    let registered := session.register item.statement
    match Builtin.evaluate item.expr with
    | .error fault => .interrupted { registered with queue := [] } fault.signal
    | .ok value =>
      let printed := if session.settings.interactive then [] else [.value value]
      let kept := { registered with results := session.results ++ [value] }
      Outcome.andThen ⟨kept.release, printed, .ok ()⟩ fun next _ => next.runQueue rest

/-- Runs the queue in order, up to the first failure. -/
def run (session : Session) : Outcome Session Unit := session.runQueue session.queue

/-- Takes back the latest result. -/
def pop (session : Session) : Outcome Session (Expr Builtin) :=
  match session.results.getLast? with
  | none =>
    .interrupted session (.unexpected "IndexError".toList "pop from empty list".toList)
  | some value => .done { session with results := session.results.dropLast } value

/-- The lines of the file at a path. -/
def readLines (documents : Documents) (path : Text) : Except Signal (List Text) :=
  if path.contains '\x00' then
    .error (.unexpected "ValueError".toList "embedded null byte".toList)
  else
    match documents path with
    | none =>
      .error (.complaint {
        reason := '\x27' :: path ++ "' could not be opened".toList
        locatable := false })
    | some bytes =>
      match Text.Utf8.decode bytes with
      | .error fault =>
        .error (.unexpected "UnicodeDecodeError".toList (Text.Utf8.faultText fault))
      | .ok text => .ok (Text.lines text)

/-- A new session on a handler. An interactive one makes the handler go on after complaints. -/
def fresh (handler : Handler) (settings : Settings) : Session :=
  let registered := handler.registerFile settings.path
  { settings
    handler := { registered with fatal := registered.fatal && !settings.interactive } }

/-- Opens a session. Its file, if it has one, is read and all of its statements are added. -/
def start (handler : Handler) (documents : Documents) (settings : Settings) :
    Outcome Session Unit :=
  let session := fresh handler settings
  if settings.path = typedPath then
    if settings.interactive then .done session ()
    else .interrupted session
      (.complaint { reason := "'<in>' is a reserved filename".toList })
  else
    match readLines documents settings.path with
    | .error signal => .interrupted session signal
    | .ok lines => session.addAll (Statement.group lines)

end Session

end ParenCalc
