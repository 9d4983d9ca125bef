import ParenCalc.Proofs.Evaluation.Faults
import ParenCalc.Proofs.Evaluation.Order

/-! # An expression and its value in context

A number or a native function has itself for value wherever it stands. So an expression that
evaluates to one may be replaced by it, as the head or as an argument of a call and however deep in
other calls: the value of the whole stays the same, and a fault stays the same but for the text of a
head that is not a function. The reason that is complained of does not give that text.
-/

namespace ParenCalc

/-- Native functions that log nothing and fail with complaints only. -/
def Natives.ofPure {F : Type} (apply : F → List (Expr F) → Except Complaint (Expr F)) :
    Natives F Empty :=
  fun function arguments => ⟨[], (apply function arguments).mapError .refused⟩

/-- Lists inside each other with a hole in place of one head or argument. -/
inductive Context (F : Type) where
  | hole
  | head (inner : Context F) (arguments : List (Expr F))
  | argument (first : Expr F) (before : List (Expr F)) (inner : Context F) (after : List (Expr F))

/-- The expression that has the given one in the hole. -/
def Context.fill {F : Type} : Context F → Expr F → Expr F
  | hole, expr => expr
  | head inner arguments, expr => .list (inner.fill expr :: arguments)
  | argument first before inner after, expr => .list (first :: (before ++ inner.fill expr :: after))

/-- Equal results, except for the text of a head that is not a function. -/
inductive Agree {α : Type} : Except EvalFault α → Except EvalFault α → Prop
  | refl (result : Except EvalFault α) : Agree result result
  | notAFunction (first second : Text) :
      Agree (.error (.notAFunction first)) (.error (.notAFunction second))

theorem Agree.eq_ok {α : Type} {value : α} {other : Except EvalFault α}
    (agree : Agree (.ok value) other) : other = .ok value := by
  cases agree
  rfl

/-- What is done with values that agree agrees. -/
theorem Agree.bind {α β : Type} {first second : Except EvalFault α}
    {next next' : α → Except EvalFault β} (agree : Agree first second)
    (later : ∀ value, Agree (next value) (next' value)) :
    Agree (first >>= next) (second >>= next') := by
  cases agree with
  | notAFunction => exact .notAFunction ..
  | refl =>
    cases first with
    | error fault => exact .refl _
    | ok value => exact later value

namespace Expr

variable {F L : Type}

/-- A number or a native function. -/
def IsAtomic (value : Expr F) : Prop :=
  (∃ double, value = number double) ∨ ∃ function, value = native function

variable {natives : Natives F L} {scope : Scope F}

theorem IsAtomic.evaluates {value : Expr F} (atomic : value.IsAtomic) :
    Evaluates natives scope value [] value := by
  obtain ⟨double, rfl⟩ | ⟨function, rfl⟩ := atomic
  · exact .number double
  · exact .native function

/-- With an expression that has a value in the hole, an argument is not a symbol without one. -/
theorem Evaluates.fill_not_isUnbound {expr value : Expr F} {log : List L}
    (evaluates : Evaluates natives scope expr log value) (context : Context F) :
    ¬isUnbound scope (context.fill expr) = true := by
  cases context with
  | hole => exact evaluates.not_isUnbound
  | head => exact Bool.false_ne_true
  | argument => exact Bool.false_ne_true

variable [Named F]

theorem IsAtomic.evalWithin_eq {value : Expr F} (atomic : value.IsAtomic) (room : Nat) :
    evalWithin natives scope room value = .done value := by
  obtain ⟨double, rfl⟩ | ⟨function, rfl⟩ := atomic
  · rw [evalWithin]
  · rw [evalWithin]

theorem argumentWithin_of_not_isUnbound {argument : Expr F} (room : Nat)
    (bound : ¬isUnbound scope argument = true) :
    argumentWithin natives scope room argument = evalWithin natives scope room argument :=
  if_neg bound

/-- The values of arguments before and after a place, with the argument at that place in between. -/
theorem argumentsWithin_around (before after : List (Expr F)) (argument : Expr F) (room : Nat) :
    (argumentsWithin natives scope room (before ++ argument :: after)).result =
      (argumentsWithin natives scope room before).result >>= fun values =>
        ((argumentWithin natives scope room argument).result >>= fun value =>
          (argumentsWithin natives scope room after).result >>= fun others =>
            .ok (value :: others)) >>= fun others => .ok (values ++ others) := by
  rw [argumentsWithin_append, Logged.andThen_result]
  congr 1
  funext values
  rw [Logged.andThen_result, argumentsWithin_cons]
  rfl

/-- What comes of a call when its head is replaced by one that agrees with it. -/
theorem agree_callWithin_of_head (room : Nat) (head other : Expr F) (arguments : List (Expr F))
    (value : Expr F) :
    Agree (callWithin natives scope room head arguments value)
      (callWithin natives scope room other arguments value) := by
  cases value with
  | native function => exact .refl _
  | _ => exact .notAFunction ..

/-- What comes of a call when its arguments are replaced by ones that agree with them. -/
theorem agree_callWithin_of_arguments {room : Nat} {arguments others : List (Expr F)}
    (agree : Agree (argumentsWithin natives scope room arguments).result
      (argumentsWithin natives scope room others).result) (head value : Expr F) :
    Agree (callWithin natives scope room head arguments value)
      (callWithin natives scope room head others value) := by
  cases value with
  | native function => exact agree.bind fun values => .refl _
  | _ => exact .refl _

/-- In a context, an expression and its value lead to results that agree. -/
theorem agree_evalWithin_fill {expr value : Expr F} {log : List L}
    (evaluates : Evaluates natives scope expr log value) (atomic : value.IsAtomic)
    (context : Context F) (room : Nat) (within : (context.fill expr).callDepth ≤ room) :
    Agree (evalWithin natives scope room (context.fill expr)).result
      (evalWithin natives scope room (context.fill value)).result := by
  have self : Evaluates natives scope value [] value := atomic.evaluates
  induction context generalizing room with
  | hole =>
    have found := evalWithin_of_evaluates expr room within evaluates
    have again : evalWithin natives scope room value = .done value := atomic.evalWithin_eq room
    rw [Context.fill, Context.fill, found, again]
    exact .refl _
  | head inner arguments ih =>
    rw [Context.fill, callDepth, Nat.max_le] at within
    obtain ⟨rest, rfl⟩ : ∃ rest, room = rest + 1 := ⟨room - 1, by omega⟩
    rw [Context.fill, Context.fill, evalWithin_call, evalWithin_call]
    exact (ih (rest + 1) within.1).bind fun head => agree_callWithin_of_head ..
  | argument first before inner after ih =>
    rw [Context.fill, callDepth, Nat.max_le] at within
    obtain ⟨rest, rfl⟩ : ∃ rest, room = rest + 1 := ⟨room - 1, by omega⟩
    have inside : (inner.fill expr).callDepth ≤ rest :=
      Nat.le_trans (callDepth_le_of_mem (by simp)) (Nat.le_of_succ_le_succ within.2)
    -- neither is passed on unevaluated, so both places are evaluated as the induction says
    have agree : Agree
        (argumentsWithin natives scope rest (before ++ inner.fill expr :: after)).result
        (argumentsWithin natives scope rest (before ++ inner.fill value :: after)).result := by
      rw [argumentsWithin_around, argumentsWithin_around,
        argumentWithin_of_not_isUnbound rest (evaluates.fill_not_isUnbound inner),
        argumentWithin_of_not_isUnbound rest (self.fill_not_isUnbound inner)]
      apply (Agree.refl _).bind
      intro values
      apply Agree.bind _ fun others => .refl _
      exact (ih rest inside).bind fun value => .refl _
    rw [Context.fill, Context.fill, evalWithin_call, evalWithin_call]
    exact (Agree.refl _).bind fun head => agree_callWithin_of_arguments agree first head

/-! ## Pure functions -/

/-- Within the limit on nesting, no evaluation with pure functions overflows. -/
theorem ne_tooDeep_of_pure {apply : F → List (Expr F) → Except Complaint (Expr F)} {expr : Expr F}
    {limit : Nat} {fault : EvalFault} (within : expr.callDepth ≤ limit)
    (failed : (evalWithin (Natives.ofPure apply) scope limit expr).result = .error fault) :
    fault ≠ .tooDeep := by
  have covers : Covers (Natives.ofPure apply) (· ≠ .tooDeep) := by
    constructor
    · intro name
      exact EvalFault.noConfusion
    · exact EvalFault.noConfusion
    · intro head
      exact EvalFault.noConfusion
    · exact EvalFault.noConfusion
    · intro function arguments fault refused
      unfold Natives.ofPure at refused
      cases applied : apply function arguments with
      | ok value =>
        rw [applied] at refused
        cases refused
      | error complaint =>
        rw [applied] at refused
        cases refused
        exact EvalFault.noConfusion
  exact expected_of_evalWithin covers scope expr limit (.inl within) failed

/-- Faults that agree are complained of with the same reason, unless evaluation ran out of room. -/
theorem exists_equal_complaints {α : Type} {fault : EvalFault} {other : Except EvalFault α}
    (agree : Agree (.error fault) other) (enough : fault ≠ .tooDeep) :
    ∃ second complaint same, fault.signal = .complaint complaint ∧ other = .error second ∧
      second.signal = .complaint same ∧ complaint.equals (some same) = true := by
  cases agree with
  | notAFunction first second => exact ⟨.notAFunction second, _, _, rfl, rfl, rfl, rfl⟩
  | refl =>
    obtain ⟨complaint, signalled⟩ : ∃ complaint, fault.signal = .complaint complaint := by
      cases fault with
      | tooDeep => exact absurd rfl enough
      | _ => exact ⟨_, rfl⟩
    exact ⟨fault, complaint, complaint, signalled, rfl, signalled, beq_self_eq_true _⟩

/-- An expression may be replaced by its value wherever it stands in calls, if that is a number or a
native function: both lead to the same value, or both to complaints that are equal. This holds under
the limit of `eval` and under every other. -/
theorem eval_fill_value (apply : F → List (Expr F) → Except Complaint (Expr F)) (scope : Scope F)
    (limit : Nat) (context : Context F) (expr value : Expr F)
    (found : (evalWithin (Natives.ofPure apply) scope limit expr).result = .ok value)
    (atomic : value.IsAtomic) (within : (context.fill expr).callDepth ≤ limit) :
    (∀ other, eval (Natives.ofPure apply) scope other =
      evalWithin (Natives.ofPure apply) scope callLimit other) ∧
    let before := (evalWithin (Natives.ofPure apply) scope limit (context.fill expr)).result
    let after := (evalWithin (Natives.ofPure apply) scope limit (context.fill value)).result
    (∃ result, before = .ok result ∧ after = .ok result) ∨
    ∃ fault second complaint same, before = .error fault ∧ fault.signal = .complaint complaint ∧
      after = .error second ∧ second.signal = .complaint same ∧ complaint.equals (some same) = true := by
  refine ⟨fun other => rfl, ?_⟩
  intro before after
  have evaluates : Evaluates (Natives.ofPure apply) scope expr
      (evalWithin (Natives.ofPure apply) scope limit expr).log value :=
    evaluates_of_evalWithin expr limit (congrArg (Logged.mk _) found)
  have agree : Agree before after := agree_evalWithin_fill evaluates atomic context limit within
  cases outcome : before with
  | ok result =>
    rw [outcome] at agree
    exact .inl ⟨result, rfl, agree.eq_ok⟩
  | error fault =>
    rw [outcome] at agree
    obtain ⟨second, complaint, same, signalled, failed, again, equal⟩ :=
      exists_equal_complaints agree (ne_tooDeep_of_pure within outcome)
    exact .inr ⟨fault, second, complaint, same, rfl, signalled, failed, again, equal⟩

/-- As the head of a call inside a sum, the name of the difference leads to the value that the
function leads to, and an empty sum to the complaint that zero leads to. -/
theorem eval_fill_value_inner_head :
    let result := fun expr => (eval (Natives.ofPure Builtin.apply) Builtin.scope expr).result
    let context : Context Builtin := .argument (symbol ['+']) [number 1] (.head .hole [number 2]) []
    let sum : Expr Builtin := list [symbol ['+']]
    (result (symbol ['-']) = .ok (native .sub) ∧ result sum = .ok (number 0)) ∧
    ((context.fill (symbol ['-'])).callDepth ≤ callLimit ∧ (context.fill sum).callDepth ≤ callLimit) ∧
    (∃ value, result (context.fill (symbol ['-'])) = .ok value ∧
      result (context.fill (native .sub)) = .ok value) ∧
    ∃ fault second complaint same, result (context.fill sum) = .error fault ∧
      fault.signal = .complaint complaint ∧ result (context.fill (number 0)) = .error second ∧
      second.signal = .complaint same ∧ complaint.equals (some same) = true := by
  intro result context sum
  have shallow : (context.fill (symbol ['-'])).callDepth ≤ callLimit := by decide
  have within : (context.fill sum).callDepth ≤ callLimit := by decide
  have named := eval_fill_value Builtin.apply Builtin.scope callLimit context (symbol ['-'])
    (native .sub) rfl (.inr ⟨_, rfl⟩) shallow
  have added := eval_fill_value Builtin.apply Builtin.scope callLimit context sum
    (number 0) rfl (.inl ⟨_, rfl⟩) within
  refine ⟨⟨rfl, rfl⟩, ⟨shallow, within⟩, ?_, ?_⟩
  · apply named.2.resolve_right
    rintro ⟨fault, -, -, -, failed, -⟩
    cases failed
  · apply added.2.resolve_left
    rintro ⟨value, success, -⟩
    cases success

end Expr

end ParenCalc
