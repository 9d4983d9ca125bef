import ParenCalc.Outcome

/-! # The error handler

The handler remembers, for each path, the line that is being worked on. Paths keep the order of
their first mention for ever. A complaint is reported with all the lines remembered; a fatal
handler then ends the run, any other forgets the lines and goes on.
-/

namespace ParenCalc

/-- The line of a path that is being worked on, if any. -/
structure Place where
  line : Option Text := none
  number : Option Int := none
deriving DecidableEq, Repr

/-- Paths with their places, in the order of first mention. -/
abbrev Trace := List (Text × Place)

namespace Trace

/-- A path already mentioned keeps its position; a new one goes to the end. -/
def set (trace : Trace) (path : Text) (place : Place) : Trace :=
  match trace with
  | [] => [(path, place)]
  | entry :: rest =>
    if entry.1 = path then (path, place) :: rest else entry :: set rest path place

/-- Forgets every line and keeps every path. -/
def cleared (trace : Trace) : Trace := trace.map fun entry => (entry.1, {})

/-- The lines remembered, unless they are empty. -/
def headings (trace : Trace) : List Heading :=
  trace.filterMap fun entry =>
    match entry.2.line with
    | none | some [] => none
    | some line => some ⟨entry.1, line, entry.2.number⟩

/-- The paths after an update are those before it, and the new one if it is new. -/
theorem paths_set (trace : Trace) (path : Text) (place : Place) :
    (trace.set path place).map Prod.fst =
      if path ∈ trace.map Prod.fst then trace.map Prod.fst else trace.map Prod.fst ++ [path] := by
  induction trace with
  | nil => simp [set]
  | cons entry rest ih =>
    by_cases same : entry.1 = path
    · simp [set, same]
    · simp only [set, same, if_false, List.map_cons, ih, List.mem_cons, Ne.symm same, false_or]
      split <;> rfl

@[simp] theorem paths_cleared (trace : Trace) : trace.cleared.map Prod.fst = trace.map Prod.fst := by
  simp [cleared]

end Trace

/-- Whether complaints end the run, and the lines that are being worked on. -/
structure Handler where
  fatal : Bool := true
  trace : Trace := []
deriving DecidableEq, Repr

namespace Handler

/-- Mentions a path, with no line being worked on. -/
def registerFile (handler : Handler) (path : Text) : Handler :=
  { handler with trace := handler.trace.set path {} }

/-- Remembers the line that is being worked on. -/
def registerLine (handler : Handler) (path line : Text) (number : Option Int) : Handler :=
  { handler with trace := handler.trace.set path ⟨some line, number⟩ }

/-- Forgets the line of a path. -/
def removeLine (handler : Handler) (path : Text) : Handler :=
  { handler with trace := handler.trace.set path {} }

/-- Reports a complaint, then ends the run or forgets the lines. -/
def throw (handler : Handler) (complaint : Complaint) : Outcome Handler Unit :=
  let printed := [.report ⟨handler.trace.headings, complaint⟩]
  if handler.fatal then ⟨handler, printed, .error (.exit (.code 1))⟩
  else ⟨{ handler with trace := handler.trace.cleared }, printed, .ok ()⟩

/-- The complaint that stands for a signal in reports; the end of a run is not reported. -/
def complaintFor : Signal → Option Complaint
  | .complaint complaint => some complaint
  | .overflow => some { reason := "maximum recursion depth exceeded".toList }
  | .interrupt => some { reason := "keyboard interrupt".toList }
  | .exit _ => none
  | .unexpected kind message =>
    some {
      reason := "unknown error: '".toList ++ kind ++ ": ".toList ++ message ++ ['\x27']
      internal := true }

/-- Signals that are over once they have been reported. -/
def settles : Signal → Bool
  | .complaint _ | .overflow | .interrupt => true
  | .exit _ | .unexpected _ _ => false

/-- Deals with a signal that reaches the handler: the end of a run passes, anything else is
reported, and what is unexpected passes all the same. -/
def settle (handler : Handler) (signal : Signal) : Outcome Handler Unit :=
  match complaintFor signal with
  | none => .interrupted handler signal
  | some complaint =>
    (handler.throw complaint).andThen fun state _ =>
      if settles signal then .done state () else .interrupted state signal

/-- States of work that is done under a handler. -/
class Handled (σ : Type) where
  handler : σ → Handler
  withHandler : σ → Handler → σ

/-- Guards work with the handler of its state, which deals with what interrupts the work. Nothing
is left of the value of work that was interrupted. -/
def guarded {σ α : Type} [Handled σ] (outcome : Outcome σ α) : Outcome σ (Option α) :=
  match outcome.ending with
  | .ok value => ⟨outcome.state, outcome.printed, .ok (some value)⟩
  | .error signal =>
    let settled := (Handled.handler outcome.state).settle signal
    ⟨Handled.withHandler outcome.state settled.state, outcome.printed ++ settled.printed,
      settled.ending.map fun _ => none⟩

/-- What can be asked of a handler. -/
inductive Action where
  | registerFile (path : Text)
  | registerLine (path line : Text) (number : Option Int)
  | removeLine (path : Text)
  | setFatal (fatal : Bool)
  | throw (complaint : Complaint)
  /-- Guarded work that is interrupted. -/
  | raise (signal : Signal)
  /-- Guarded work that succeeds. -/
  | pass
deriving DecidableEq, Repr

/-- The outcome of one action. -/
def perform (handler : Handler) : Action → Outcome Handler Unit
  | .registerFile path => .done (handler.registerFile path) ()
  | .registerLine path line number => .done (handler.registerLine path line number) ()
  | .removeLine path => .done (handler.removeLine path) ()
  | .setFatal fatal => .done { handler with fatal } ()
  | .throw complaint => handler.throw complaint
  | .raise signal => handler.settle signal
  | .pass => .done handler ()

end Handler

end ParenCalc
