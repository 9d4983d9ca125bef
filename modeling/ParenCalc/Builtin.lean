import ParenCalc.Evaluation

/-! # Built-in functions

The sum starts at zero; the difference starts at its first argument, which it needs. Both take
numbers only and go from left to right.
-/

namespace ParenCalc

/-- The functions that every program can call. -/
inductive Builtin where
  | add
  | sub
deriving DecidableEq, Repr

namespace Builtin

instance : Named Builtin where
  name
    | add => ['+']
    | sub => ['-']

/-- The number an expression is, if it is one. -/
def number? {F : Type} : Expr F → Option Float
  | .number value => some value
  | _ => none

/-- Arguments of the wrong kind or number. -/
def expectsNumbers (function : Builtin) : Complaint :=
  { reason := Named.name function ++ " expects numbers".toList }

/-- The value of a built-in function at evaluated arguments. -/
def apply {F : Type} (function : Builtin) (arguments : List (Expr F)) :
    Except Complaint (Expr F) :=
  match function, arguments.mapM number? with
  | add, some numbers => .ok (.number (numbers.foldl (· + ·) 0))
  | sub, some (first :: others) => .ok (.number (others.foldl (· - ·) first))
  | _, _ => .error function.expectsNumbers

/-- Built-in functions log nothing. -/
def natives : Natives Builtin Empty := fun function arguments =>
  ⟨[], (function.apply arguments).mapError .refused⟩

/-- The frame in which every built-in function is bound to its name. -/
def frame : Frame Builtin :=
  [add, sub].map fun function => (Named.name function, .native function)

/-- The scope of every program. -/
def scope : Scope Builtin := [frame]

/-- The value of an expression in the scope of every program. -/
def evaluate (expr : Expr Builtin) : Except EvalFault (Expr Builtin) :=
  (expr.eval natives scope).result

end Builtin

end ParenCalc
