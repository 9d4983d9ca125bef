import ParenCalc.Proofs.Evaluation.Arithmetic
import ParenCalc.Proofs.Evaluation.Faults
import ParenCalc.Proofs.Handler.Actions
import ParenCalc.Proofs.Reader.Grammar
import ParenCalc.Proofs.Report.Located
import ParenCalc.Proofs.Session.Calls
import ParenCalc.Proofs.Token.Boundaries

/-! # Names without a value are shown

A run complains of a name without a value while the line that the name comes from is registered. The
name is a symbol of an expression that was read from the line, so it is a token of the line and stands
in it, and the report underlines it there.
-/

namespace ParenCalc

namespace Expr

variable {F : Type}

/-- The symbols of an expression are atoms among its tokens. -/
theorem Derives.atom_mem {expr : Expr F} {tokens : List Token} (derived : Derives expr tokens)
    {name : Text} (occurs : name ∈ expr.symbols) : .atom name ∈ tokens := by
  induction derived with
  | atom other =>
    obtain ⟨value, numeral⟩ | itself := ofAtom_cases (F := F) other
    · rw [numeral] at occurs
      cases occurs
    · rw [itself] at occurs
      rw [List.mem_singleton.mp occurs]
      exact List.mem_singleton_self _
  | list parts _ ih =>
    rw [symbols, symbolsOfAll_eq_flatMap] at occurs
    obtain ⟨element, member, inside⟩ := List.mem_flatMap.mp occurs
    obtain ⟨part, present, rfl⟩ := List.mem_map.mp member
    have inner := List.mem_flatMap_of_mem (f := Prod.snd) present (ih part present inside)
    exact List.mem_append_left _ (List.mem_cons_of_mem _ inner)

/-- Every symbol that is read from a text is a token of it. -/
theorem atom_mem_of_readAll {tokens : List Token} {exprs : List (Expr F)}
    (read : readAll tokens = .ok exprs) {expr : Expr F} (member : expr ∈ exprs) {name : Text}
    (occurs : name ∈ expr.symbols) : .atom name ∈ tokens := by
  obtain ⟨⟨parts, each, rfl, rfl⟩, -⟩ := derivesAll_of_readAllFrom read
  obtain ⟨part, present, rfl⟩ := List.mem_map.mp member
  exact List.mem_flatMap_of_mem present ((each part present).atom_mem occurs)

end Expr

namespace Builtin

open ParenCalc.Expr

/-- No other fault is complained of with the reason that a name has no value. -/
theorem unbound_of_reason {expr : Expr Builtin} {fault : EvalFault}
    (failed : evaluate expr = .error fault) {complaint : Complaint}
    (signalled : fault.signal = .complaint complaint) {name : Text}
    (reason : complaint.reason = "unbound symbol: ".toList ++ name) : fault = .unbound name := by
  cases fault with
  | unbound other =>
    cases signalled
    exact congrArg EvalFault.unbound (List.append_cancel_left reason)
  | emptyCall =>
    cases signalled
    cases (List.cons.inj reason).1
  | notAFunction head =>
    cases signalled
    cases (List.cons.inj reason).1
  | emptyPlace =>
    cases signalled
    cases (List.cons.inj reason).1
  | tooDeep => cases signalled
  | refused refusal =>
    obtain ⟨function, rfl⟩ := refused_of_evaluate failed
    cases signalled
    cases function <;> cases (List.cons.inj reason).1

/-- A name whose value is missed has none, and is the expression or heads a list in it. -/
theorem unbound_of_evaluate {expr : Expr Builtin} {name : Text}
    (failed : evaluate expr = .error (.unbound name)) :
    scope.lookup name = none ∧ (expr = symbol name ∨ HeadsList name expr) := by
  refine (arises_of_evalWithin scope expr callLimit failed).position_of_unbound ?_
  intro function values other missed
  cases refused_of_natives missed

end Builtin

namespace Session

/-- A line that is added to an empty queue and run fails only at one of the expressions that are read
from it, with the line registered. -/
theorem exists_of_add_run {session : Session} (idle : session.queue = []) {statement : Statement}
    {signal : Signal} (failed : (session.add statement).state.run.ending = .error signal) :
    ∃ exprs expr fault, statement.exprs = .ok exprs ∧ expr ∈ exprs ∧
      Builtin.evaluate expr = .error fault ∧ fault.signal = signal ∧
      (session.add statement).state.run.state.handler.trace =
        session.handler.trace.set session.settings.path statement.place := by
  cases read : statement.exprs with
  | error fault =>
    rw [add_of_fault session read, run] at failed
    have nothing : (session.register statement).queue = [] := idle
    rw [nothing] at failed
    cases failed
  | ok exprs =>
    let waiting : Session := { session.release with queue := statement.queued exprs }
    have rested : waiting.AtRest := session.atRest_release
    have ran : (session.add statement).state.run = waiting.runQueue (statement.queued exprs) := by
      rw [add_eq_of_read session read, idle]
      rfl
    rw [ran] at failed ⊢
    obtain ⟨values, each⟩ | ⟨before, item, after, values, fault, split, each, failure⟩ :=
      values_or_first_fault (fun item : Queued => Builtin.evaluate item.expr) (statement.queued exprs)
    · rw [waiting.runQueue_of_yields rested each] at failed
      cases failed
    · have member : item ∈ statement.queued exprs := by simp [split]
      obtain ⟨expr, present, rfl⟩ := List.mem_map.mp member
      rw [split, waiting.runQueue_of_fault rested each failure after] at failed ⊢
      exact ⟨exprs, expr, fault, rfl, present, failure, Except.error.inj failed, Trace.set_set ..⟩

end Session

end ParenCalc
