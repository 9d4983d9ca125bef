import ParenCalc.Builtin
import ParenCalc.Proofs.Evaluation.Calls

/-! # The order of evaluation

A call is evaluated head first, then its arguments from left to right, then the call itself, and the
first fault ends it all. For expressions that have a value this is the relation `Evaluates`, which
puts the log of each part in its place and knows no limit on nesting. For the others `SameReached`
says which parts the evaluation did not reach; whatever stands there, the fault and the log are the
same.
-/

namespace ParenCalc

namespace Logged

variable {L α β γ : Type}

theorem andThen_of_ok {first : Logged L α} {value : α} (success : first.result = .ok value)
    (next : α → Logged L β) :
    first.andThen next = ⟨first.log ++ (next value).log, (next value).result⟩ := by
  rw [andThen, success]

theorem andThen_of_error {first : Logged L α} {fault : EvalFault}
    (failed : first.result = .error fault) (next : α → Logged L β) :
    first.andThen next = ⟨first.log, .error fault⟩ := by
  rw [andThen, failed]

theorem andThen_assoc (first : Logged L α) (second : α → Logged L β) (third : β → Logged L γ) :
    (first.andThen second).andThen third = first.andThen fun value => (second value).andThen third := by
  cases outcome : first.result with
  | error fault =>
    rw [andThen_of_error outcome, andThen_of_error outcome]
    rfl
  | ok value =>
    rw [andThen_of_ok outcome, andThen_of_ok outcome]
    cases later : (second value).result with
    | error fault => simp only [andThen, later]
    | ok middle => simp only [andThen, later, List.append_assoc]

theorem andThen_done (first : Logged L α) : first.andThen .done = first := by
  obtain ⟨log, result⟩ := first
  cases result with
  | error fault => rfl
  | ok value => simp [andThen, done]

/-- A sequence that succeeds logs what its parts log, one after the other. -/
theorem andThen_eq_ok {first : Logged L α} {next : α → Logged L β} {log : List L} {value : β}
    (success : first.andThen next = ⟨log, .ok value⟩) :
    ∃ before middle after, first = ⟨before, .ok middle⟩ ∧ next middle = ⟨after, .ok value⟩ ∧
      log = before ++ after := by
  obtain ⟨before, result⟩ := first
  cases result with
  | error fault => cases success
  | ok middle =>
    obtain ⟨logged, ended⟩ := Logged.mk.inj success
    exact ⟨before, middle, (next middle).log, rfl, by rw [← ended], logged.symm⟩

end Logged

namespace Expr

variable {F L : Type}

/-- Only a symbol without a value is passed on. -/
theorem exists_of_isUnbound {scope : Scope F} {argument : Expr F}
    (unbound : isUnbound scope argument = true) :
    ∃ name, argument = symbol name ∧ scope.lookup name = none := by
  cases argument with
  | symbol name => exact ⟨name, rfl, by simpa [isUnbound, Scope.binds] using unbound⟩
  | _ => cases unbound

/-! ## What is logged on the way to a value -/

mutual

/-- The expression has the value, and the log is written on the way to it. -/
inductive Evaluates (natives : Natives F L) (scope : Scope F) : Expr F → List L → Expr F → Prop
  | number (value : Float) : Evaluates natives scope (number value) [] (number value)
  | native (function : F) : Evaluates natives scope (native function) [] (native function)
  | symbol {name : Text} {value : Expr F} (bound : scope.lookup name = some value) :
      Evaluates natives scope (symbol name) [] value
  | call {head value : Expr F} {function : F} {arguments values : List (Expr F)} {first own : List L}
      {logs : List (List L)} (headed : Evaluates natives scope head first (native function))
      (each : EvaluateAll natives scope arguments logs values)
      (called : natives function values = ⟨own, .ok value⟩) :
      Evaluates natives scope (list (head :: arguments)) (first ++ logs.flatten ++ own) value

/-- Each argument has its value and its log; a symbol without a value is passed on. -/
inductive EvaluateAll (natives : Natives F L) (scope : Scope F) :
    List (Expr F) → List (List L) → List (Expr F) → Prop
  | nil : EvaluateAll natives scope [] [] []
  | unbound {name : Text} {rest values : List (Expr F)} {logs : List (List L)}
      (missing : scope.lookup name = none) (others : EvaluateAll natives scope rest logs values) :
      EvaluateAll natives scope (symbol name :: rest) ([] :: logs) (symbol name :: values)
  | cons {argument value : Expr F} {rest values : List (Expr F)} {log : List L} {logs : List (List L)}
      (first : Evaluates natives scope argument log value)
      (others : EvaluateAll natives scope rest logs values) :
      EvaluateAll natives scope (argument :: rest) (log :: logs) (value :: values)

end

section Values

variable {natives : Natives F L} {scope : Scope F}

theorem Evaluates.not_isUnbound {expr value : Expr F} {log : List L}
    (evaluates : Evaluates natives scope expr log value) : ¬isUnbound scope expr = true := by
  cases evaluates with
  | symbol bound => simp [isUnbound, Scope.binds, bound]
  | _ => exact Bool.false_ne_true

variable [Named F]

mutual

/-- An evaluation that succeeds, with however much room, has gone through the parts in order. -/
theorem evaluates_of_evalWithin : ∀ (expr : Expr F) (room : Nat) {log : List L} {value : Expr F},
    evalWithin natives scope room expr = ⟨log, .ok value⟩ → Evaluates natives scope expr log value
  | number value, room, log, result, success => by
    rw [evalWithin] at success
    cases success
    exact .number value
  | native function, room, log, result, success => by
    rw [evalWithin] at success
    cases success
    exact .native function
  | symbol name, room, log, result, success => by
    rw [evalWithin] at success
    cases bound : scope.lookup name with
    | none =>
      rw [bound] at success
      cases success
    | some value =>
      rw [bound] at success
      cases success
      exact .symbol bound
  | list [], room, log, result, success => by
    rw [evalWithin] at success
    cases success
  | list (head :: arguments), 0, log, result, success => by
    rw [evalWithin] at success
    cases success
  | list (head :: arguments), inner + 1, log, result, success => by
    rw [evalWithin] at success
    obtain ⟨first, value, rest, found, called, rfl⟩ := Logged.andThen_eq_ok success
    cases value with
    | native function =>
      obtain ⟨inside, values, own, given, answered, rfl⟩ := Logged.andThen_eq_ok called
      obtain ⟨logs, rfl, each⟩ := evaluateAll_of_argumentsWithin arguments inner given
      rw [← List.append_assoc]
      exact .call (evaluates_of_evalWithin head (inner + 1) found) each answered
    | _ => cases called
  | empty, room, log, result, success => by
    rw [evalWithin] at success
    cases success

theorem evaluateAll_of_argumentsWithin : ∀ (arguments : List (Expr F)) (room : Nat) {log : List L}
    {values : List (Expr F)}, argumentsWithin natives scope room arguments = ⟨log, .ok values⟩ →
      ∃ logs, log = logs.flatten ∧ EvaluateAll natives scope arguments logs values
  | [], room, log, values, success => by
    rw [argumentsWithin] at success
    cases success
    exact ⟨[], rfl, .nil⟩
  | argument :: rest, room, log, values, success => by
    rw [argumentsWithin] at success
    obtain ⟨first, value, later, found, onward, rfl⟩ := Logged.andThen_eq_ok success
    obtain ⟨inside, others, none, given, finished, rfl⟩ := Logged.andThen_eq_ok onward
    cases finished
    obtain ⟨logs, rfl, each⟩ := evaluateAll_of_argumentsWithin rest room given
    refine ⟨first :: logs, by simp, ?_⟩
    split at found
    · next unbound =>
      cases found
      obtain ⟨name, rfl, missing⟩ := exists_of_isUnbound unbound
      exact .unbound missing each
    · exact .cons (evaluates_of_evalWithin argument room found) each

end

mutual

/-- With enough room for its calls, the evaluation goes through the parts in order. -/
theorem evalWithin_of_evaluates : ∀ (expr : Expr F) (room : Nat) {log : List L} {value : Expr F},
    expr.callDepth ≤ room → Evaluates natives scope expr log value →
      evalWithin natives scope room expr = ⟨log, .ok value⟩
  | number value, room, log, result, _, evaluates => by
    cases evaluates
    rw [evalWithin]
    rfl
  | native function, room, log, result, _, evaluates => by
    cases evaluates
    rw [evalWithin]
    rfl
  | symbol name, room, log, result, _, evaluates => by
    cases evaluates with
    | symbol bound =>
      rw [evalWithin, bound]
      rfl
  | list [], room, log, result, _, evaluates => by
    cases evaluates
  | list (head :: arguments), room, log, result, within, evaluates => by
    rw [callDepth, Nat.max_le] at within
    -- a call counts itself, so there is room for it
    obtain ⟨inner, rfl⟩ : ∃ inner, room = inner + 1 := ⟨room - 1, by omega⟩
    cases evaluates with
    | call first each called =>
      have found := evalWithin_of_evaluates head (inner + 1) within.1 first
      have given := argumentsWithin_of_evaluateAll arguments inner (by omega) each
      rw [evalWithin, found, List.append_assoc]
      simp only [Logged.andThen, given, called]
  | empty, room, log, result, _, evaluates => by
    cases evaluates

theorem argumentsWithin_of_evaluateAll : ∀ (arguments : List (Expr F)) (room : Nat)
    {logs : List (List L)} {values : List (Expr F)}, callDepths arguments ≤ room →
      EvaluateAll natives scope arguments logs values →
        argumentsWithin natives scope room arguments = ⟨logs.flatten, .ok values⟩
  | [], room, logs, values, _, each => by
    cases each
    rw [argumentsWithin]
    rfl
  | argument :: rest, room, logs, values, within, each => by
    rw [callDepths, Nat.max_le] at within
    cases each with
    | unbound missing others =>
      have given := argumentsWithin_of_evaluateAll rest room within.2 others
      rw [argumentsWithin, if_pos (isUnbound_of_missing missing), given]
      simp [Logged.andThen, Logged.done]
    | cons first others =>
      have found := evalWithin_of_evaluates argument room within.1 first
      have given := argumentsWithin_of_evaluateAll rest room within.2 others
      rw [argumentsWithin, if_neg first.not_isUnbound, found, given]
      simp [Logged.andThen, Logged.done]

end

end Values

/-! ## What a failing evaluation does not reach -/

variable [Named F]

section Parts

variable (natives : Natives F L) (scope : Scope F) (room : Nat)

/-- Arguments are evaluated in order, wherever they are divided. -/
theorem argumentsWithin_append (before rest : List (Expr F)) :
    argumentsWithin natives scope room (before ++ rest) =
      (argumentsWithin natives scope room before).andThen fun values =>
        (argumentsWithin natives scope room rest).andThen fun others => .done (values ++ others) := by
  induction before with
  | nil => simpa [argumentsWithin] using (Logged.andThen_done _).symm
  | cons argument others ih =>
    simp only [List.cons_append, argumentsWithin, ih, Logged.andThen_assoc, Logged.done_andThen]

end Parts

/-- The second expression is the first, except for parts that the evaluation of the first does not
reach: the arguments of a call whose head fails or is not a function, and those to the right of an
argument that fails. -/
inductive SameReached (natives : Natives F L) (scope : Scope F) : Nat → Expr F → Expr F → Prop
  | refl (room : Nat) (expr : Expr F) : SameReached natives scope room expr expr
  | head {room : Nat} {head other : Expr F} {fault : EvalFault}
      (failed : (evalWithin natives scope (room + 1) head).result = .error fault)
      (inside : SameReached natives scope (room + 1) head other)
      (arguments replaced : List (Expr F)) :
      SameReached natives scope (room + 1) (list (head :: arguments)) (list (other :: replaced))
  | notAFunction {room : Nat} {head value : Expr F}
      (found : (evalWithin natives scope (room + 1) head).result = .ok value)
      (other : ∀ function, value ≠ native function) (arguments replaced : List (Expr F)) :
      SameReached natives scope (room + 1) (list (head :: arguments)) (list (head :: replaced))
  | argument {room : Nat} {head argument other : Expr F} {before values : List (Expr F)} {function : F}
      {fault : EvalFault}
      (called : (evalWithin natives scope (room + 1) head).result = .ok (native function))
      (reached : (argumentsWithin natives scope room before).result = .ok values)
      (failed : (argumentWithin natives scope room argument).result = .error fault)
      (inside : SameReached natives scope room argument other) (after replaced : List (Expr F)) :
      SameReached natives scope (room + 1) (list (head :: (before ++ argument :: after)))
        (list (head :: (before ++ other :: replaced)))

section Unreached

variable {natives : Natives F L} {scope : Scope F} {room : Nat}

/-- A symbol is only the same as itself, so it is passed on as an argument or is not, on both sides. -/
theorem SameReached.argumentWithin_eq {argument other : Expr F}
    (same : SameReached natives scope room argument other)
    (again : evalWithin natives scope room other = evalWithin natives scope room argument) :
    argumentWithin natives scope room other = argumentWithin natives scope room argument := by
  cases same with
  | refl => rfl
  | head => exact again
  | notAFunction => exact again
  | argument => exact again

/-- An argument that fails ends the evaluation of the arguments, whatever follows it. -/
theorem argumentsWithin_of_failed {before values : List (Expr F)} {argument : Expr F}
    {fault : EvalFault} (reached : (argumentsWithin natives scope room before).result = .ok values)
    (failed : (argumentWithin natives scope room argument).result = .error fault)
    (after : List (Expr F)) :
    argumentsWithin natives scope room (before ++ argument :: after) =
      ⟨(argumentsWithin natives scope room before).log
        ++ (argumentWithin natives scope room argument).log, .error fault⟩ := by
  have stopped : argumentsWithin natives scope room (argument :: after) =
      ⟨(argumentWithin natives scope room argument).log, .error fault⟩ := by
    rw [argumentsWithin]
    exact Logged.andThen_of_error failed _
  rw [argumentsWithin_append, Logged.andThen_of_ok reached, stopped]
  rfl

/-- What is not reached does not matter for the fault, nor for the log. -/
theorem SameReached.evalWithin_eq {expr other : Expr F} (same : SameReached natives scope room expr other) :
    evalWithin natives scope room other = evalWithin natives scope room expr := by
  induction same with
  | refl room expr => rfl
  | head failed inside arguments replaced ih =>
    rw [evalWithin, evalWithin, ih, Logged.andThen_of_error failed, Logged.andThen_of_error failed]
  | @notAFunction room head value found other arguments replaced =>
    rw [evalWithin, evalWithin, Logged.andThen_of_ok found, Logged.andThen_of_ok found]
    cases value with
    | native function => exact absurd rfl (other function)
    | _ => rfl
  | @argument room head argument other before values function fault called reached failed inside after
      replaced ih =>
    have again := inside.argumentWithin_eq ih
    have stopped := again ▸ failed
    rw [evalWithin, evalWithin, Logged.andThen_of_ok called, Logged.andThen_of_ok called]
    simp only [argumentsWithin_of_failed reached failed, argumentsWithin_of_failed reached stopped, again]

end Unreached

/-- Evaluation goes head first and from left to right, and stops at the first fault. Where it fails,
whatever stands in the parts that it did not reach leads to the same fault and the same log. Where it
succeeds, the log is for each call the log of its head, then those of its arguments in order, then that
of the call itself, each of them once; and within the limit on nesting every expression whose parts
evaluate in this way does succeed, with this log. All this holds under the limit of `eval` and under
every other. -/
theorem eval_in_order (natives : Natives F L) (scope : Scope F) (expr : Expr F) :
    eval natives scope expr = evalWithin natives scope callLimit expr ∧
    ∀ limit,
      (∀ fault other, (evalWithin natives scope limit expr).result = .error fault →
        SameReached natives scope limit expr other →
          (evalWithin natives scope limit other).result = .error fault ∧
          (evalWithin natives scope limit other).log = (evalWithin natives scope limit expr).log) ∧
      (∀ log value, evalWithin natives scope limit expr = ⟨log, .ok value⟩ →
        Evaluates natives scope expr log value) ∧
      (expr.callDepth ≤ limit → ∀ log value, Evaluates natives scope expr log value →
        evalWithin natives scope limit expr = ⟨log, .ok value⟩) := by
  refine ⟨rfl, ?_⟩
  intro limit
  refine ⟨?_, ?_, ?_⟩
  · intro fault other failed same
    rw [same.evalWithin_eq]
    exact ⟨failed, rfl⟩
  · intro log value success
    exact evaluates_of_evalWithin expr limit success
  · intro within log value evaluates
    exact evalWithin_of_evaluates expr limit within evaluates

/-- A sum that logs the number of its arguments, and a difference that logs a zero and refuses. The
argument after a difference is not reached, so that even an empty call may stand there. -/
theorem eval_in_order_refused :
    let natives : Natives Builtin Nat := fun function arguments =>
      match function with
      | .add => ⟨[arguments.length], .ok (.native .add)⟩
      | .sub => ⟨[0], .error (.refused Builtin.sub.expectsNumbers)⟩
    let sum : Expr Builtin := list [symbol ['+'], symbol ['x']]
    let failing : Expr Builtin := list [symbol ['+'], sum, list [symbol ['-']], symbol ['y']]
    let other : Expr Builtin := list [symbol ['+'], sum, list [symbol ['-']], list [], number 1]
    let whole : Expr Builtin := list [sum, sum, symbol ['y']]
    ((eval natives Builtin.scope failing).result = .error (.refused Builtin.sub.expectsNumbers) ∧
      (eval natives Builtin.scope failing).log = [1, 0] ∧
      (eval natives Builtin.scope other).result = .error (.refused Builtin.sub.expectsNumbers) ∧
      (eval natives Builtin.scope other).log = (eval natives Builtin.scope failing).log) ∧
    eval natives Builtin.scope whole = ⟨[1, 1, 2], .ok (native .add)⟩ ∧
    Evaluates natives Builtin.scope whole [1, 1, 2] (native .add) := by
  intro natives sum failing other whole
  have failed : (eval natives Builtin.scope failing).result =
      .error (.refused Builtin.sub.expectsNumbers) := by rfl
  have called : (evalWithin natives Builtin.scope (309 + 1) (symbol ['+'])).result =
      .ok (native .add) := by rfl
  have reached : (argumentsWithin natives Builtin.scope 309 [sum]).result = .ok [native .add] := by rfl
  have refused : (argumentWithin natives Builtin.scope 309 (list [symbol ['-']])).result =
      .error (.refused Builtin.sub.expectsNumbers) := by rfl
  have same : SameReached natives Builtin.scope callLimit failing other :=
    .argument called reached refused (.refl _ _) [symbol ['y']] [list [], number 1]
  have success : eval natives Builtin.scope whole = ⟨[1, 1, 2], .ok (native .add)⟩ := by rfl
  obtain ⟨-, failures⟩ := eval_in_order natives Builtin.scope failing
  obtain ⟨-, successes⟩ := eval_in_order natives Builtin.scope whole
  exact ⟨⟨failed, rfl, (failures callLimit).1 _ other failed same⟩, success,
    (successes callLimit).2.1 _ _ success⟩

end Expr

end ParenCalc
