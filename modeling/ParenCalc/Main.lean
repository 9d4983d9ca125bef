import ParenCalc.Program

/-! # The command line

The outer layer: it reads the file or the typed lines, and prints what the program says.
-/

namespace ParenCalc.CommandLine

/-- Prints notices on standard output. -/
def printNotices (emphasis : Emphasis) (notices : List Notice) : IO Unit := do
  let stdout ← IO.getStdout
  stdout.putStr (String.ofList (Notice.renderAll emphasis notices))
  stdout.flush

/-- The status that a run ends with. -/
def statusOf : Except Signal Unit → UInt32
  | .ok _ => 0
  | .error (.exit (.code number)) => UInt32.ofNat number.toNat
  | .error _ => 1

/-- Prompts for lines and hands them to the shell until one of them stops it. -/
partial def converse (emphasis : Emphasis) (shell : Shell) : IO UInt32 := do
  printNotices emphasis [.prompt shell.prompt]
  let typed ← (← IO.getStdin).getLine
  let line := if typed.isEmpty then "EOF".toList else typed.toList
  let outcome := shell.take line
  printNotices emphasis outcome.printed
  match outcome.ending with
  | .ok .stop => return 0
  | .ok _ => converse emphasis outcome.state
  | .error signal => return statusOf (.error signal)

/-- The bytes of a file, if it can be opened. -/
def readBytes? (path : Text) : IO (Option (List UInt8)) := do
  try
    return some (← IO.FS.readBinFile (String.ofList path)).toList
  catch _ =>
    return none

end ParenCalc.CommandLine

open ParenCalc CommandLine in
/-- Runs the program on the arguments of the command line. -/
def main (arguments : List String) : IO UInt32 := do
  let texts := arguments.map String.toList
  let emphasis := if ← (← IO.getStdout).isTty then Emphasis.boldRed else Emphasis.plain
  match Options.parse texts with
  | .ok { file := none, showTokens, showTree } =>
    printNotices emphasis [.greeting]
    let settings := Program.shellSettings { showTokens, showTree }
    converse emphasis (Shell.fresh (Session.fresh {} settings))
  | parsed =>
    let path? := parsed.toOption.bind Options.file
    let bytes? ← match path? with
      | some path => readBytes? path
      | none => pure none
    let run := Program.run texts (fun _ => bytes?) []
    printNotices emphasis run.printed
    (← IO.getStderr).putStr (String.ofList run.errors)
    return statusOf run.ending
