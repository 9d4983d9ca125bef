import ParenCalc.Options
import ParenCalc.Shell

/-! # The program

The program runs a file or, when it is given none, the shell. Everything happens under one
handler, which starts out fatal; opening the shell's session makes it go on after complaints.
-/

namespace ParenCalc

/-- A finished run: what it printed, what it printed as errors of use, and how it ended. -/
structure Run where
  printed : List Notice
  errors : Text := []
  ending : Except Signal Unit

namespace Program

/-- Opens a session on a file and runs it, under the handler. -/
def runFile (documents : Documents) (settings : Settings) : Run :=
  let outcome := Handler.guarded
    ((Session.start {} documents settings).andThen fun session _ => session.run)
  { printed := outcome.printed, ending := outcome.ending.map fun _ => () }

/-- The settings of the shell's session. -/
def shellSettings (options : Options) : Settings :=
  { path := Session.typedPath
    interactive := true
    showTokens := options.showTokens
    showTree := options.showTree }

/-- The settings of the session on a file. -/
def fileSettings (options : Options) (path : Text) : Settings :=
  { path, showTokens := options.showTokens, showTree := options.showTree }

/-- Greets the user and runs the shell on typed lines, under the handler. -/
def runShell (options : Options) (inputs : List Shell.Input) : Run :=
  let shell := Shell.fresh (Session.fresh {} (shellSettings options))
  let outcome := Handler.guarded (shell.loop inputs)
  { printed := .greeting :: outcome.printed, ending := outcome.ending.map fun _ => () }

/-- What follows from a refusal: the usage, or an error of use. -/
def refuse : Refusal → Run
  | .usage => { printed := [.usage], ending := .error (.exit (.code 0)) }
  | .misuse misuse =>
    { printed := []
      errors := Notice.usageLine ++ "minilisp: error: ".toList ++ misuse.text ++ ['\n']
      ending := .error (.exit (.code 2)) }

/-- A whole run on the given arguments, files and typed lines. -/
def run (arguments : List Text) (documents : Documents) (inputs : List Shell.Input) : Run :=
  match Options.parse arguments with
  | .error refusal => refuse refusal
  | .ok options =>
    match options.file with
    | some path => runFile documents (fileSettings options path)
    | none => runShell options inputs

end Program

end ParenCalc
