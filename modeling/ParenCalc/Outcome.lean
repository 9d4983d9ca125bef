import ParenCalc.Builtin
import ParenCalc.Report

/-! # Printed notices and outcomes

What is printed is a list of notices, each of which still says what it is; only `Notice.render`
turns them into text. An outcome collects what an action leaves behind: the state after it, what
it printed, and how it ended.
-/

namespace ParenCalc

/-- What a prompt asks for: a new statement, or the rest of one. -/
inductive Prompt where
  | statement
  | continuation
deriving DecidableEq, Repr

def Prompt.text : Prompt → Text
  | statement => "> ".toList
  | continuation => ". ".toList

/-- Something printed. -/
inductive Notice where
  /-- The tokens of a statement. -/
  | tokens (tokens : List Token)
  /-- The tree of a parsed expression. -/
  | tree (expr : Expr Builtin)
  /-- The value of an expression. -/
  | value (expr : Expr Builtin)
  /-- The report of a complaint. -/
  | report (report : Report)
  /-- What the shell prints when asked for help. -/
  | help
  /-- The end of a line. -/
  | lineBreak
  /-- The greeting of the shell. -/
  | greeting
  /-- How the program is called, with its options. -/
  | usage
  /-- A prompt, which does not end its line. -/
  | prompt (prompt : Prompt)

namespace Notice

/-- The greeting of the shell. -/
def greetingText : Text :=
  ("minilisp interpreter :: Python backend\n"
    ++ "Type '?' or 'help' for more information.\n").toList

/-- How the program is called, on one line. -/
def usageLine : Text := "usage: minilisp [-h] [--tokens] [--tree] [file]\n".toList

/-- How the program is called, with its options. -/
def usageText : Text :=
  usageLine
    ++ ("\npositional arguments:\n"
      ++ "  file        file to interpret and run (if empty, goes to command-line mode)\n"
      ++ "\noptions:\n"
      ++ "  -h, --help  show this help message and exit\n"
      ++ "  --tokens    print the tokens of every statement\n"
      ++ "  --tree      print the parsed tree of every expression\n").toList

/-- The help of the shell. -/
def helpText : Text :=
  ("Welcome to the minilisp interpreter!\n\n"
    ++ "Expressions are written as S-expressions: a number, a symbol, or a parenthesized\n"
    ++ "list. A list is a call: its first element must be a function, the rest are its\n"
    ++ "arguments. Numbers are floats, and '+' and '-' are built in.\n\n"
    ++ "Try it out by typing '(+ 1 2)'. This will print 3.0. Next, try typing\n"
    ++ "'(- 10 (+ 1 2))', which will print 7.0.\n").toList

/-- A notice as text. -/
def render (emphasis : Emphasis) : Notice → Text
  | tokens listed => Token.listing listed ++ ['\n']
  | tree expr => expr.tree 0 ++ ['\n']
  | value expr => expr.text ++ ['\n']
  | report content => content.render emphasis
  | help => helpText
  | lineBreak => ['\n']
  | greeting => greetingText
  | usage => usageText
  | prompt kind => kind.text

/-- Notices as text, one after the other. -/
def renderAll (emphasis : Emphasis) (notices : List Notice) : Text :=
  notices.flatMap (render emphasis)

@[simp] theorem renderAll_append (emphasis : Emphasis) (first second : List Notice) :
    renderAll emphasis (first ++ second) = renderAll emphasis first ++ renderAll emphasis second := by
  simp [renderAll]

end Notice

/-- What an action leaves behind. -/
structure Outcome (σ α : Type) where
  state : σ
  printed : List Notice
  ending : Except Signal α

namespace Outcome

variable {σ τ α β : Type}

/-- An action that prints nothing and succeeds. -/
def done (state : σ) (value : α) : Outcome σ α := ⟨state, [], .ok value⟩

/-- An action that prints nothing and is interrupted. -/
def interrupted (state : σ) (signal : Signal) : Outcome σ α := ⟨state, [], .error signal⟩

/-- The outcome as part of a larger state. -/
def mapState (outcome : Outcome σ α) (embed : σ → τ) : Outcome τ α :=
  ⟨embed outcome.state, outcome.printed, outcome.ending⟩

/-- Goes on from the state of an action that succeeded; what both print is kept in order. -/
def andThen (first : Outcome σ α) (next : σ → α → Outcome σ β) : Outcome σ β :=
  match first.ending with
  | .ok value =>
    let rest := next first.state value
    ⟨rest.state, first.printed ++ rest.printed, rest.ending⟩
  | .error signal => ⟨first.state, first.printed, .error signal⟩

@[simp] theorem done_andThen (state : σ) (value : α) (next : σ → α → Outcome σ β) :
    (done state value).andThen next = next state value := by
  simp [done, andThen]

@[simp] theorem interrupted_andThen (state : σ) (signal : Signal) (next : σ → α → Outcome σ β) :
    (interrupted state signal).andThen next = interrupted state signal := rfl

end Outcome

end ParenCalc
