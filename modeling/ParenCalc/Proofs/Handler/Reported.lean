import ParenCalc.Handler

/-! # What the handler reports

Faults of reading and of evaluation are reported: as the complaint they are signalled with or, where
nesting went too far, with a reason of its own. One report is printed; a fatal handler then ends the
run and keeps its lines, any other forgets them and goes on.
-/

namespace ParenCalc

namespace Trace

/-- Only the latest place of a path is kept. -/
@[simp] theorem set_set (trace : Trace) (path : Text) (first second : Place) :
    (trace.set path first).set path second = trace.set path second := by
  induction trace with
  | nil => simp [set]
  | cons entry rest ih =>
    by_cases same : entry.1 = path
    · simp [set, same]
    · simp [set, same, ih]

@[simp] theorem lookup_set_self (trace : Trace) (path : Text) (place : Place) :
    (trace.set path place).lookup path = some place := by
  induction trace with
  | nil => simp [set]
  | cons entry rest ih =>
    by_cases same : entry.1 = path
    · simp [set, same]
    · obtain ⟨known, old⟩ := entry
      rw [set, if_neg same, List.lookup_cons, beq_false_of_ne (Ne.symm same)]
      exact ih

/-- The entries of other paths. -/
def without (trace : Trace) (path : Text) : Trace := trace.filter fun entry => entry.1 ≠ path

@[simp] theorem without_set (trace : Trace) (path : Text) (place : Place) :
    (trace.set path place).without path = trace.without path := by
  unfold without
  induction trace with
  | nil => simp [set]
  | cons entry rest ih =>
    by_cases same : entry.1 = path
    · simp [set, same]
    · rw [set, if_neg same, List.filter_cons, List.filter_cons, ih]

end Trace

/-- The complaint that is reported for a signal. -/
inductive Reported : Signal → Complaint → Prop
  | complaint (complaint : Complaint) : Reported (.complaint complaint) complaint
  | overflow : Reported .overflow { reason := "maximum recursion depth exceeded".toList }

/-- The reason that is given for a failure to read. -/
def ReadFault.reason : ReadFault → Text
  | emptyInput => "empty input".toList
  | unexpectedClose => "unexpected )".toList
  | unclosedList => "could not parse list".toList
  | tooDeep => "maximum recursion depth exceeded".toList

/-- The reason that is given for a failure to evaluate; a function gives its own. -/
def EvalFault.reason : EvalFault → Text
  | unbound name => "unbound symbol: ".toList ++ name
  | emptyCall => "empty list".toList
  | notAFunction _ => "not a function".toList
  | emptyPlace => "cannot evaluate 'None'".toList
  | tooDeep => "maximum recursion depth exceeded".toList
  | refused complaint => complaint.reason

theorem ReadFault.reason_of_reported {fault : ReadFault} {complaint : Complaint}
    (reported : Reported fault.signal complaint) : complaint.reason = fault.reason := by
  cases fault <;> cases reported <;> rfl

theorem EvalFault.reason_of_reported {fault : EvalFault} {complaint : Complaint}
    (reported : Reported fault.signal complaint) : complaint.reason = fault.reason := by
  cases fault <;> cases reported <;> rfl

/-- No failure to read is an internal one. -/
theorem ReadFault.internal_of_reported {fault : ReadFault} {complaint : Complaint}
    (reported : Reported fault.signal complaint) : complaint.internal = false := by
  cases fault <;> cases reported <;> rfl

theorem ReadFault.exists_reported (fault : ReadFault) :
    ∃ complaint, Reported fault.signal complaint := by
  cases fault with
  | tooDeep => exact ⟨_, .overflow⟩
  | _ => exact ⟨_, .complaint _⟩

theorem EvalFault.exists_reported (fault : EvalFault) :
    ∃ complaint, Reported fault.signal complaint := by
  cases fault with
  | tooDeep => exact ⟨_, .overflow⟩
  | _ => exact ⟨_, .complaint _⟩

namespace Handler

@[simp] theorem removeLine_registerLine (handler : Handler) (path line : Text) (number : Option Int) :
    (handler.registerLine path line number).removeLine path = handler.removeLine path := by
  simp [registerLine, removeLine]

theorem settle_of_reported (handler : Handler) {signal : Signal} {complaint : Complaint}
    (reported : Reported signal complaint) : handler.settle signal = handler.throw complaint := by
  have thrown : handler.settle signal =
      (handler.throw complaint).andThen fun state _ => .done state () := by
    cases reported <;> rfl
  rw [thrown, throw]
  split
  · rfl
  · simp [Outcome.andThen, Outcome.done]

section Guarded

variable {σ α : Type} [Handled σ] {outcome : Outcome σ α} {signal : Signal} {complaint : Complaint}

/-- The report of a complaint about work that was interrupted. -/
def reportOn (outcome : Outcome σ α) (complaint : Complaint) : Notice :=
  .report ⟨(Handled.handler outcome.state).trace.headings, complaint⟩

theorem guarded_of_ok {value : α} (success : outcome.ending = .ok value) :
    guarded outcome = ⟨outcome.state, outcome.printed, .ok (some value)⟩ := by
  rw [guarded, success]

/-- A fatal handler ends the run with its report. -/
theorem guarded_of_fatal (failure : outcome.ending = .error signal)
    (reported : Reported signal complaint) (fatal : (Handled.handler outcome.state).fatal = true) :
    guarded outcome =
      ⟨Handled.withHandler outcome.state (Handled.handler outcome.state),
        outcome.printed ++ [reportOn outcome complaint], .error (.exit (.code 1))⟩ := by
  simp only [guarded, failure, settle_of_reported _ reported, throw, fatal, if_true]
  rfl

/-- Whatever a fatal handler reports ends the run, expected or not. -/
theorem ending_guarded_of_fatal (failure : outcome.ending = .error signal)
    (told : complaintFor signal = some complaint)
    (fatal : (Handled.handler outcome.state).fatal = true) :
    (guarded outcome).ending = .error (.exit (.code 1)) := by
  simp only [guarded, failure, settle, told, throw, fatal, if_true]
  rfl

/-- Any other handler goes on after its report, and forgets the lines. -/
theorem guarded_of_not_fatal (failure : outcome.ending = .error signal)
    (reported : Reported signal complaint) (mild : (Handled.handler outcome.state).fatal = false) :
    guarded outcome =
      ⟨Handled.withHandler outcome.state
          { fatal := false, trace := (Handled.handler outcome.state).trace.cleared },
        outcome.printed ++ [reportOn outcome complaint], .ok none⟩ := by
  simp only [guarded, failure, settle_of_reported _ reported, throw, mild, Bool.false_eq_true,
    if_false]
  rfl

end Guarded

end Handler

end ParenCalc
