import ParenCalc.Builtin
import ParenCalc.Proofs.Evaluation.Calls

/-! # What evaluation sees of a scope

Evaluation asks a scope for the values of the symbols that stand in the expression, and for nothing
else: what a name is bound to is not evaluated again, so the names inside bound values do not matter.
Two scopes that give these symbols the same values lead to the same result and the same log. Hence a
chain of frames can be replaced by the one frame that keeps, of all the bindings of a name, the
innermost. A name bound to an empty place hides its outer bindings in the chain, and the one frame
binds it to an empty place as well.
-/

namespace ParenCalc

namespace Scope

variable {F : Type}

/-- The two scopes give each of the names the same value, or both give it none. -/
def AgreeOn (names : List Text) (first second : Scope F) : Prop :=
  ∀ name ∈ names, first.lookup name = second.lookup name

theorem AgreeOn.left {names others : List Text} {first second : Scope F}
    (agree : AgreeOn (names ++ others) first second) : AgreeOn names first second :=
  fun name member => agree name (List.mem_append_left _ member)

theorem AgreeOn.right {names others : List Text} {first second : Scope F}
    (agree : AgreeOn (names ++ others) first second) : AgreeOn others first second :=
  fun name member => agree name (List.mem_append_right _ member)

/-! ## One frame for a chain of frames -/

/-- Of the frames that bind the name, the innermost binds it to the value. -/
def BindsInnermost (scope : Scope F) (name : Text) (value : Expr F) : Prop :=
  ∃ inner frame outer, scope = inner ++ frame :: outer ∧ frame.lookup name = some value ∧
    ∀ other ∈ inner, other.lookup name = none

theorem binding?_eq_some_iff (scope : Scope F) (name : Text) (value : Expr F) :
    scope.binding? name = some value ↔ scope.BindsInnermost name value :=
  List.findSome?_eq_some_iff

theorem binding?_cons (frame : Frame F) (outer : Scope F) (name : Text) :
    binding? (frame :: outer) name = (frame.lookup name).or (binding? outer name) := by
  rw [binding?, List.findSome?_cons]
  cases frame.lookup name <;> rfl

/-- The bindings of all the frames, except for those of names that a frame further in binds. -/
def flattened : Scope F → Frame F
  | [] => []
  | frame :: outer => frame ++ (flattened outer).filter fun entry => (frame.lookup entry.1).isNone

/-- Entries that are left out by their names are not found, and the others are found as before. -/
theorem lookup_filter_name (frame : Frame F) (keep : Text → Bool) (name : Text) :
    List.lookup name (frame.filter fun entry => keep entry.1) =
      if keep name then frame.lookup name else none := by
  induction frame with
  | nil => simp
  | cons entry rest ih =>
    obtain ⟨known, value⟩ := entry
    by_cases same : name = known
    · subst same
      cases kept : keep name <;> simp [kept, ih]
    · cases kept : keep known <;> simp [kept, ih, List.lookup_cons, beq_false_of_ne same]

theorem lookup_flattened (scope : Scope F) (name : Text) :
    scope.flattened.lookup name = scope.binding? name := by
  induction scope with
  | nil => rfl
  | cons frame outer ih =>
    have outside := lookup_filter_name (flattened outer) (fun other => (frame.lookup other).isNone) name
    rw [flattened, List.lookup_append, outside, ih, binding?_cons]
    cases frame.lookup name <;> rfl

/-- The one frame gives every name the value that the chain gives it. -/
theorem lookup_singleton_flattened (scope : Scope F) (name : Text) :
    Scope.lookup [scope.flattened] name = scope.lookup name := by
  have same : binding? [scope.flattened] name = scope.binding? name := by
    rw [← lookup_flattened scope, binding?, List.findSome?_singleton]
  rw [lookup, lookup, same]

/-- Frames that bind no name twice become a frame that binds no name twice. -/
theorem nodup_flattened {scope : Scope F} (distinct : ∀ frame ∈ scope, (frame.map Prod.fst).Nodup) :
    (scope.flattened.map Prod.fst).Nodup := by
  induction scope with
  | nil => exact List.nodup_nil
  | cons frame outer ih =>
    obtain ⟨first, others⟩ := List.forall_mem_cons.mp distinct
    rw [flattened, List.map_append, List.nodup_append]
    refine ⟨first, (ih others).sublist (List.filter_sublist.map _), ?_⟩
    rintro name inside _ outside rfl
    obtain ⟨entry, member, rfl⟩ := List.mem_map.mp inside
    obtain ⟨other, kept, same⟩ := List.mem_map.mp outside
    -- what is kept of the outer frames has a name that the inner frame does not bind
    have missing := (List.mem_filter.mp kept).2
    rw [same, Option.isNone_iff_eq_none, List.lookup_eq_none_iff] at missing
    simpa using missing entry member

end Scope

namespace Expr

variable {F L : Type}

open Scope

theorem isUnbound_congr {first second : Scope F} {expr : Expr F}
    (agree : AgreeOn expr.symbols first second) : isUnbound first expr = isUnbound second expr := by
  cases expr with
  | symbol name =>
    have same := agree name (List.mem_singleton_self name)
    rw [isUnbound, isUnbound, binds, binds, same]
  | _ => rfl

variable [Named F] (natives : Natives F L) {first second : Scope F}

mutual

/-- Scopes that agree on the symbols of an expression evaluate it alike, with however much room. -/
theorem evalWithin_congr : ∀ (expr : Expr F) (room : Nat), AgreeOn expr.symbols first second →
    evalWithin natives first room expr = evalWithin natives second room expr
  | number value, room, _ => by rw [evalWithin, evalWithin]
  | native function, room, _ => by rw [evalWithin, evalWithin]
  | symbol name, room, agree => by
    have same := agree name (List.mem_singleton_self name)
    rw [evalWithin, evalWithin, same]
  | list [], room, _ => by rw [evalWithin, evalWithin]
  | list (head :: arguments), 0, _ => by rw [evalWithin, evalWithin]
  | list (head :: arguments), inner + 1, agree => by
    rw [symbols, symbolsOfAll] at agree
    have heads := evalWithin_congr head (inner + 1) agree.left
    have values := argumentsWithin_congr arguments inner agree.right
    rw [evalWithin, evalWithin, heads, values]
  | empty, room, _ => by rw [evalWithin, evalWithin]

theorem argumentsWithin_congr : ∀ (arguments : List (Expr F)) (room : Nat),
    AgreeOn (symbolsOfAll arguments) first second →
      argumentsWithin natives first room arguments = argumentsWithin natives second room arguments
  | [], room, _ => by rw [argumentsWithin, argumentsWithin]
  | argument :: rest, room, agree => by
    rw [symbolsOfAll] at agree
    have passed := isUnbound_congr agree.left
    have value := evalWithin_congr argument room agree.left
    have others := argumentsWithin_congr rest room agree.right
    rw [argumentsWithin, argumentsWithin, passed, value, others]

end

theorem argumentWithin_congr {expr : Expr F} (room : Nat) (agree : AgreeOn expr.symbols first second) :
    argumentWithin natives first room expr = argumentWithin natives second room expr := by
  have value := evalWithin_congr natives expr room agree
  rw [argumentWithin, argumentWithin, isUnbound_congr agree, value]

/-- Evaluation sees a scope only through the values of the expression's own symbols. Where two scopes
agree on these, the expression has the same result and the same log in both, alone or as an argument.
In particular any chain of frames may be replaced by one frame, which binds each name to what the
innermost frame with that name binds it to, and binds no name twice if no frame of the chain does. A
name that is bound to an empty place there is unbound in both. All this holds under the limit of `eval`
and under every other. -/
theorem eval_sees_lookups_only (natives : Natives F L) :
    (∀ (expr : Expr F) (scope : Scope F),
      eval natives scope expr = evalWithin natives scope callLimit expr ∧
      evalArgument natives scope expr = argumentWithin natives scope callLimit expr) ∧
    (∀ (expr : Expr F) (first second : Scope F),
      (∀ name ∈ expr.symbols, first.lookup name = second.lookup name) → ∀ limit,
        evalWithin natives first limit expr = evalWithin natives second limit expr ∧
        argumentWithin natives first limit expr = argumentWithin natives second limit expr) ∧
    ∀ scope : Scope F,
      (∀ name value, scope.flattened.lookup name = some value ↔ scope.BindsInnermost name value) ∧
      ((∀ frame ∈ scope, (frame.map Prod.fst).Nodup) → (scope.flattened.map Prod.fst).Nodup) ∧
      (∀ name, scope.BindsInnermost name .empty →
        scope.lookup name = none ∧ Scope.lookup [scope.flattened] name = none) ∧
      ∀ (expr : Expr F) (limit : Nat),
        evalWithin natives [scope.flattened] limit expr = evalWithin natives scope limit expr ∧
        argumentWithin natives [scope.flattened] limit expr =
          argumentWithin natives scope limit expr := by
  refine ⟨fun expr scope => ⟨rfl, rfl⟩, ?_, ?_⟩
  · intro expr first second agree limit
    exact ⟨evalWithin_congr natives expr limit agree, argumentWithin_congr natives limit agree⟩
  · intro scope
    refine ⟨?_, nodup_flattened, ?_, ?_⟩
    · intro name value
      rw [lookup_flattened]
      exact binding?_eq_some_iff scope name value
    · intro name hidden
      have unbound : scope.lookup name = none := by
        rw [Scope.lookup, (binding?_eq_some_iff scope name .empty).mpr hidden]
      exact ⟨unbound, (scope.lookup_singleton_flattened name).trans unbound⟩
    · intro expr limit
      have agree : AgreeOn expr.symbols [scope.flattened] scope :=
        fun name _ => scope.lookup_singleton_flattened name
      exact ⟨evalWithin_congr natives expr limit agree, argumentWithin_congr natives limit agree⟩

/-- The inner frame of the chain hides the `x` of the outer one, and the other scope has no `x` but
binds `z` to that symbol. The call of the symbol bound to `f` does not tell them apart, and logs one
argument in each; neither does the hidden symbol as an argument. -/
theorem eval_sees_lookups_only_hidden :
    let natives : Natives Builtin Nat := fun function arguments =>
      ⟨[arguments.length], .ok (.native function)⟩
    let chain : Scope Builtin :=
      [[(['x'], .empty)], [(['x'], .native .sub), (['f'], .native .add)]]
    let other : Scope Builtin := [[], [(['z'], .symbol ['x']), (['f'], .native .add)]]
    let call : Expr Builtin := list [symbol ['f'], symbol ['x']]
    (∀ name ∈ call.symbols, chain.lookup name = other.lookup name) ∧
    eval natives chain call = ⟨[1], .ok (native .add)⟩ ∧
    eval natives chain call = eval natives other call ∧
    chain.BindsInnermost ['x'] .empty ∧
    chain.flattened = [(['x'], .empty), (['f'], .native .add)] ∧
    (chain.flattened.map Prod.fst).Nodup ∧
    Scope.lookup [chain.flattened] ['x'] = none ∧
    evalArgument natives [chain.flattened] (symbol ['x']) = evalArgument natives chain (symbol ['x']) := by
  intro natives chain other call
  have agree : ∀ name ∈ call.symbols, chain.lookup name = other.lookup name := by
    intro name member
    rcases List.mem_cons.mp member with rfl | member
    · rfl
    · obtain rfl := List.mem_singleton.mp member
      rfl
  have innermost : chain.BindsInnermost ['x'] .empty :=
    ⟨[], [(['x'], .empty)], [[(['x'], .native .sub), (['f'], .native .add)]], rfl, rfl, by simp⟩
  have distinct : ∀ frame ∈ chain, (frame.map Prod.fst).Nodup := by
    intro frame member
    rcases List.mem_cons.mp member with rfl | member
    · decide
    · obtain rfl := List.mem_singleton.mp member
      decide
  obtain ⟨-, congruent, one⟩ := eval_sees_lookups_only natives
  obtain ⟨-, nodup, hidden, same⟩ := one chain
  exact ⟨agree, rfl, (congruent call chain other agree callLimit).1, innermost, rfl, nodup distinct,
    (hidden _ innermost).2, (same (symbol ['x']) callLimit).2⟩

end Expr

end ParenCalc
