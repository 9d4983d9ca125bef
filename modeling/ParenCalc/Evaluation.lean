import ParenCalc.Complaint
import ParenCalc.Expr.Printer
import ParenCalc.Scope

/-! # Evaluation

Numbers and native functions are their own values, symbols have the value they are bound to, and a
list is a call: the head is evaluated first, then the arguments from left to right, then the
function is called. The first failure ends the evaluation. A symbol without a value is passed to
the function as it is when it stands as an argument.

Native functions may write to a log. Calls inside arguments may nest only so far.
-/

namespace ParenCalc

/-- Why an expression has no value. -/
inductive EvalFault where
  | unbound (name : Text)
  | emptyCall
  | notAFunction (head : Text)
  | emptyPlace
  | tooDeep
  | refused (complaint : Complaint)
deriving DecidableEq, Repr

/-- How a failure to evaluate is signalled. -/
def EvalFault.signal : EvalFault → Signal
  | unbound name =>
    .complaint { reason := "unbound symbol: ".toList ++ name, culprit := name }
  | emptyCall => .complaint { reason := "empty list".toList, culprit := "()".toList }
  | notAFunction head => .complaint { reason := "not a function".toList, culprit := head }
  | emptyPlace => .complaint { reason := "cannot evaluate 'None'".toList, internal := true }
  | tooDeep => .overflow
  | refused complaint => .complaint complaint

/-- A result together with what was logged on the way to it. -/
structure Logged (L α : Type) where
  log : List L
  result : Except EvalFault α

namespace Logged

variable {L α β : Type}

def done (value : α) : Logged L α := ⟨[], .ok value⟩

def failed (fault : EvalFault) : Logged L α := ⟨[], .error fault⟩

/-- Goes on with a value, and stops at a fault. -/
def andThen (first : Logged L α) (next : α → Logged L β) : Logged L β :=
  match first.result with
  | .ok value =>
    let rest := next value
    ⟨first.log ++ rest.log, rest.result⟩
  | .error fault => ⟨first.log, .error fault⟩

@[simp] theorem done_andThen (value : α) (next : α → Logged L β) :
    (done value).andThen next = next value := rfl

@[simp] theorem failed_andThen (fault : EvalFault) (next : α → Logged L β) :
    (failed fault).andThen next = failed fault := rfl

end Logged

/-- What each native function does with evaluated arguments. -/
abbrev Natives (F L : Type) := F → List (Expr F) → Logged L (Expr F)

namespace Expr

variable {F L : Type} [Named F]

/-- A symbol without a value. -/
def isUnbound (scope : Scope F) : Expr F → Bool
  | symbol name => !scope.binds name
  | _ => false

mutual

/-- The value of an expression. `room` is how many calls may nest inside arguments. -/
def evalWithin (natives : Natives F L) (scope : Scope F) (room : Nat) :
    Expr F → Logged L (Expr F)
  | number value => .done (number value)
  | native function => .done (native function)
  | symbol name =>
    match scope.lookup name with
    | some value => .done value
    | none => .failed (.unbound name)
  | list [] => .failed .emptyCall
  | list (head :: arguments) =>
    match room with
    | 0 => .failed .tooDeep
    | inner + 1 =>
      (evalWithin natives scope (inner + 1) head).andThen fun value =>
        match value with
        | native function =>
          (argumentsWithin natives scope inner arguments).andThen (natives function)
        | _ => .failed (.notAFunction head.text)
  | empty => .failed .emptyPlace

/-- The values of arguments, from left to right. -/
def argumentsWithin (natives : Natives F L) (scope : Scope F) (room : Nat) :
    List (Expr F) → Logged L (List (Expr F))
  | [] => .done []
  | argument :: rest =>
    (if isUnbound scope argument then .done argument
      else evalWithin natives scope room argument).andThen fun value =>
        (argumentsWithin natives scope room rest).andThen fun values => .done (value :: values)

end

/-- The greatest number of calls that may nest inside arguments. It stands for the room that an
interpreter leaves to the evaluation, and results about evaluation hold under every limit. Only calls
inside arguments are charged: a call that is the head of another takes none of the room, and neither
does the text of a head in a complaint. -/
def callLimit : Nat := 310

/-- The value of an expression. -/
def eval (natives : Natives F L) (scope : Scope F) (expr : Expr F) : Logged L (Expr F) :=
  evalWithin natives scope callLimit expr

/-- The value of an expression that stands as an argument. -/
def evalArgument (natives : Natives F L) (scope : Scope F) (expr : Expr F) : Logged L (Expr F) :=
  if isUnbound scope expr then .done expr else eval natives scope expr

end Expr

end ParenCalc
