import ParenCalc.Session

/-! # The shell

A typed line is a command or belongs to a statement. Lines are put together until the parentheses
balance; the statement is then added and run, and the value of its last expression is printed.
Whatever goes wrong is reported by the handler, and the shell goes on.
-/

namespace ParenCalc

/-- What a typed line asks for. -/
inductive Command where
  | blank
  | help
  | exit
  | endOfInput
  | statement (line : Text)
deriving DecidableEq, Repr

namespace Command

/-- Characters of a command's name. -/
def isNameChar (c : Char) : Bool := c.isAlphanum || c == '_'

/-- A question mark asks for help; a name in front selects a command, whatever follows it. -/
def parse (line : Text) : Command :=
  match Text.trim line with
  | [] => blank
  | '?' :: _ => help
  | trimmed =>
    let name := trimmed.takeWhile isNameChar
    if name = "help".toList then help
    else if name = "exit".toList then exit
    else if name = "EOF".toList then endOfInput
    else statement trimmed

end Command

/-- What the shell answers to a line: nothing, that it was blank, or that it is to stop. -/
inductive Reply where
  | none
  | blank
  | stop
deriving DecidableEq, Repr

/-- A session with the text of the statement that is being typed. -/
structure Shell where
  session : Session
  pending : Text := []
  prompt : Prompt := .statement
  lineNumber : Nat := 0

namespace Shell

instance : Handler.Handled Shell where
  handler shell := shell.session.handler
  withHandler shell handler := { shell with session := { shell.session with handler } }

/-- A new shell. -/
def fresh (session : Session) : Shell := { session }

/-- Adds and runs a statement; prints the latest result and drops the others. -/
def execute (session : Session) (statement : Statement) : Outcome Session Unit :=
  (session.add statement).andThen fun added _ =>
    added.run.andThen fun finished _ =>
      match finished.results.getLast? with
      | none => .done finished ()
      | some value => ⟨{ finished with results := [] }, [.value value], .ok ()⟩

/-- Puts a line to the text that is pending. Gives the shell after it, and the statement that the
line completes, if there is one. -/
def intake (shell : Shell) (line : Text) : Shell × Option Statement :=
  let number := shell.lineNumber + 1
  let text := Statement.tidy (shell.pending ++ ' ' :: line)
  if Statement.isOpen text then
    ({ shell with pending := text, prompt := .continuation, lineNumber := number }, none)
  else
    ({ shell with pending := [], prompt := .statement, lineNumber := number },
      if text.isEmpty then none else some ⟨text, number⟩)

/-- Takes a line of a statement, and runs the statement that it completes. -/
def enter (shell : Shell) (line : Text) : Outcome Shell Unit :=
  match shell.intake line with
  | (next, none) => .done next ()
  | (next, some statement) =>
    let outcome := Handler.guarded (execute next.session statement)
    ⟨{ next with session := outcome.state }, outcome.printed, outcome.ending.map fun _ => ()⟩

/-- Takes a typed line. -/
def take (shell : Shell) (line : Text) : Outcome Shell Reply :=
  match Command.parse line with
  | .blank => .done shell .blank
  | .help => ⟨shell, [.help], .ok .none⟩
  | .exit => .done shell .stop
  | .endOfInput => ⟨shell, [.lineBreak], .ok .stop⟩
  | .statement text => (shell.enter text).andThen fun next _ => .done next .none

/-- A line that was typed, or a request to stop in place of one. -/
inductive Input where
  | line (text : Text)
  | interrupt
deriving DecidableEq, Repr

/-- Prompts for lines and takes them until one of them stops the shell. The end of the input acts
as a command of its own. -/
def loop (shell : Shell) : List Input → Outcome Shell Unit
  | [] => Outcome.andThen ⟨shell, [.prompt shell.prompt], .ok ()⟩ fun ready _ =>
      (ready.take "EOF".toList).andThen fun next _ => .done next ()
  | .interrupt :: _ => ⟨shell, [.prompt shell.prompt], .error .interrupt⟩
  | .line text :: rest =>
    Outcome.andThen ⟨shell, [.prompt shell.prompt], .ok ()⟩ fun ready _ =>
      (ready.take text).andThen fun next reply =>
        match reply with
        | .stop => .done next ()
        | _ => next.loop rest

end Shell

end ParenCalc
