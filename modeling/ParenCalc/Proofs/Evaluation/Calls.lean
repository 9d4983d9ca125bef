import ParenCalc.Evaluation

/-! # Calls step by step

What a call gives is put together from what its head and its arguments give; the log does not matter
for it. The head is evaluated with all the room there is, an argument with one call less, so the room
that an expression needs is the greatest number of its calls that stand inside each other's arguments.
-/

namespace ParenCalc

theorem Logged.andThen_result {L α β : Type} (first : Logged L α) (next : α → Logged L β) :
    (first.andThen next).result = first.result >>= fun value => (next value).result := by
  unfold andThen
  cases first.result <;> rfl

namespace Expr

variable {F L : Type}

mutual

/-- How many calls stand inside each other's arguments. -/
def callDepth : Expr F → Nat
  | list [] => 0
  | list (head :: arguments) => max (callDepth head) (callDepths arguments + 1)
  | number _ => 0
  | symbol _ => 0
  | native _ => 0
  | empty => 0

def callDepths : List (Expr F) → Nat
  | [] => 0
  | argument :: rest => max (callDepth argument) (callDepths rest)

end

theorem callDepth_le_of_mem {argument : Expr F} {arguments : List (Expr F)}
    (member : argument ∈ arguments) : argument.callDepth ≤ callDepths arguments := by
  induction arguments with
  | nil => cases member
  | cons first rest ih =>
    rw [callDepths]
    rcases List.mem_cons.mp member with rfl | later
    · exact Nat.le_max_left ..
    · exact Nat.le_trans (ih later) (Nat.le_max_right ..)

mutual

/-- The names of the symbols in an expression. -/
def symbols : Expr F → List Text
  | symbol name => [name]
  | list elements => symbolsOfAll elements
  | number _ => []
  | native _ => []
  | empty => []

def symbolsOfAll : List (Expr F) → List Text
  | [] => []
  | element :: rest => symbols element ++ symbolsOfAll rest

end

theorem symbolsOfAll_eq_flatMap (elements : List (Expr F)) :
    symbolsOfAll elements = elements.flatMap symbols := by
  induction elements with
  | nil => rfl
  | cons element rest ih => rw [symbolsOfAll, ih, List.flatMap_cons]

theorem isUnbound_of_missing {scope : Scope F} {name : Text} (missing : scope.lookup name = none) :
    isUnbound scope (symbol name) = true := by
  simp [isUnbound, Scope.binds, missing]

section Results

variable [Named F] (natives : Natives F L) (scope : Scope F) (room : Nat)

/-- The value of an argument; a symbol without a value is passed on. -/
def argumentWithin (argument : Expr F) : Logged L (Expr F) :=
  if isUnbound scope argument then .done argument else evalWithin natives scope room argument

/-- A function is called with the values of the arguments; no other value can be called. -/
def callWithin (head : Expr F) (arguments : List (Expr F)) : Expr F → Except EvalFault (Expr F)
  | native function =>
    (argumentsWithin natives scope room arguments).result >>= fun values => (natives function values).result
  | _ => .error (.notAFunction head.text)

theorem evalWithin_call (head : Expr F) (arguments : List (Expr F)) :
    (evalWithin natives scope (room + 1) (list (head :: arguments))).result =
      (evalWithin natives scope (room + 1) head).result >>= callWithin natives scope room head arguments := by
  rw [evalWithin, Logged.andThen_result]
  congr 1
  funext value
  cases value with
  | native function => exact Logged.andThen_result ..
  | _ => rfl

theorem argumentsWithin_cons (argument : Expr F) (rest : List (Expr F)) :
    (argumentsWithin natives scope room (argument :: rest)).result =
      (argumentWithin natives scope room argument).result >>= fun value =>
        (argumentsWithin natives scope room rest).result >>= fun values => .ok (value :: values) := by
  rw [argumentsWithin, Logged.andThen_result]
  congr 1
  funext value
  exact Logged.andThen_result ..

end Results

end Expr

end ParenCalc
