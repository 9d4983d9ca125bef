import ParenCalc.Proofs.Evaluation.Calls

/-! # Where faults come from

An evaluation fails with a fault of its own or with one that a native function gives. `Arises` says in
which part of the expression that is: the fault of a head or of an argument is that of the call around
it, except that a symbol without a value is no fault as an argument. So what holds of a fault where it
arises holds of every fault, however deep in the expression it is; room is lacking only where calls
nest further than there is room for; and the value of a name can be missed only where the name is the
whole expression or the head of a list in it.
-/

namespace ParenCalc.Expr

variable {F L : Type}

/-- The name is the head of a list in the expression. -/
inductive HeadsList (name : Text) : Expr F → Prop
  | here (arguments : List (Expr F)) : HeadsList name (list (symbol name :: arguments))
  | inside {element : Expr F} {elements : List (Expr F)} (member : element ∈ elements)
      (inner : HeadsList name element) : HeadsList name (list elements)

theorem HeadsList.mem_symbols {name : Text} {expr : Expr F} (heads : HeadsList name expr) :
    name ∈ expr.symbols := by
  induction heads with
  | here arguments => exact List.mem_cons_self ..
  | inside member _ ih =>
    rw [symbols, symbolsOfAll_eq_flatMap]
    exact List.mem_flatMap_of_mem member ih

variable [Named F] {natives : Natives F L} {expected : EvalFault → Prop}

/-- The fault arises in the expression, where there is room for so many calls inside arguments. -/
inductive Arises (natives : Natives F L) (scope : Scope F) : Nat → Expr F → EvalFault → Prop
  | unbound {room : Nat} {name : Text} (missing : scope.lookup name = none) :
      Arises natives scope room (symbol name) (.unbound name)
  | emptyCall {room : Nat} : Arises natives scope room (list []) .emptyCall
  | emptyPlace {room : Nat} : Arises natives scope room empty .emptyPlace
  | tooDeep {head : Expr F} {arguments : List (Expr F)} :
      Arises natives scope 0 (list (head :: arguments)) .tooDeep
  | notAFunction {room : Nat} {head : Expr F} {arguments : List (Expr F)} :
      Arises natives scope (room + 1) (list (head :: arguments)) (.notAFunction head.text)
  | native {room : Nat} {head : Expr F} {arguments values : List (Expr F)} {function : F}
      {fault : EvalFault} (failed : (natives function values).result = .error fault) :
      Arises natives scope (room + 1) (list (head :: arguments)) fault
  | head {room : Nat} {head : Expr F} {arguments : List (Expr F)} {fault : EvalFault}
      (inside : Arises natives scope (room + 1) head fault) :
      Arises natives scope (room + 1) (list (head :: arguments)) fault
  | argument {room : Nat} {head argument : Expr F} {arguments : List (Expr F)} {fault : EvalFault}
      (member : argument ∈ arguments) (needed : ¬isUnbound scope argument = true)
      (inside : Arises natives scope room argument fault) :
      Arises natives scope (room + 1) (list (head :: arguments)) fault

/-- A sequence fails in its first part or, with a value of that, in its second. -/
theorem bind_eq_error {α β : Type} {first : Except EvalFault α} {next : α → Except EvalFault β}
    {fault : EvalFault} (failed : (first >>= next) = .error fault) :
    first = .error fault ∨ ∃ value, first = .ok value ∧ next value = .error fault := by
  cases first with
  | error other => exact .inl (congrArg Except.error (Except.error.inj failed))
  | ok value => exact .inr ⟨value, rfl, failed⟩

mutual

/-- The fault of an evaluation arises in its expression. -/
theorem arises_of_evalWithin (scope : Scope F) : ∀ (expr : Expr F) (room : Nat) {fault : EvalFault},
    (evalWithin natives scope room expr).result = .error fault →
      Arises natives scope room expr fault
  | number value, room, fault, failed => by
    rw [evalWithin] at failed
    cases failed
  | native function, room, fault, failed => by
    rw [evalWithin] at failed
    cases failed
  | symbol name, room, fault, failed => by
    rw [evalWithin] at failed
    cases found : scope.lookup name with
    | some value =>
      rw [found] at failed
      cases failed
    | none =>
      rw [found] at failed
      cases failed
      exact .unbound found
  | list [], room, fault, failed => by
    rw [evalWithin] at failed
    cases failed
    exact .emptyCall
  | list (head :: arguments), 0, fault, failed => by
    rw [evalWithin] at failed
    cases failed
    exact .tooDeep
  | list (head :: arguments), inner + 1, fault, failed => by
    rw [evalWithin_call] at failed
    obtain first | ⟨value, -, called⟩ := bind_eq_error failed
    · exact .head (arises_of_evalWithin scope head (inner + 1) first)
    · cases value with
      | native function =>
        obtain inside | ⟨values, -, refused⟩ := bind_eq_error called
        · obtain ⟨argument, member, needed, arises⟩ :=
            arises_of_argumentsWithin scope arguments inner inside
          exact .argument member needed arises
        · exact .native refused
      | _ =>
        cases called
        exact .notAFunction
  | empty, room, fault, failed => by
    rw [evalWithin] at failed
    cases failed
    exact .emptyPlace

/-- The fault of arguments arises in one of them, which is not passed on. -/
theorem arises_of_argumentsWithin (scope : Scope F) : ∀ (arguments : List (Expr F)) (room : Nat)
    {fault : EvalFault}, (argumentsWithin natives scope room arguments).result = .error fault →
      ∃ argument ∈ arguments, ¬isUnbound scope argument = true ∧
        Arises natives scope room argument fault
  | [], room, fault, failed => by
    rw [argumentsWithin] at failed
    cases failed
  | argument :: rest, room, fault, failed => by
    rw [argumentsWithin_cons] at failed
    obtain first | ⟨value, -, later⟩ := bind_eq_error failed
    · unfold argumentWithin at first
      split at first
      · cases first
      · next needed =>
        exact ⟨argument, List.mem_cons_self .., needed, arises_of_evalWithin scope argument room first⟩
    · obtain others | ⟨values, -, impossible⟩ := bind_eq_error later
      · obtain ⟨other, member, rest⟩ := arises_of_argumentsWithin scope rest room others
        exact ⟨other, List.mem_cons_of_mem _ member, rest⟩
      · cases impossible

end

/-- A property of the faults that can arise while there is room. -/
structure Covers (natives : Natives F L) (expected : EvalFault → Prop) : Prop where
  unbound : ∀ name, expected (.unbound name)
  emptyCall : expected .emptyCall
  notAFunction : ∀ head, expected (.notAFunction head)
  emptyPlace : expected .emptyPlace
  native : ∀ function arguments fault,
    (natives function arguments).result = .error fault → expected fault

/-- Every fault of an expression is expected, unless it runs out of room and that is not. -/
theorem expected_of_evalWithin (covers : Covers natives expected) (scope : Scope F) (expr : Expr F)
    (room : Nat) {fault : EvalFault} (enough : expr.callDepth ≤ room ∨ expected .tooDeep)
    (failed : (evalWithin natives scope room expr).result = .error fault) : expected fault := by
  have arises := arises_of_evalWithin scope expr room failed
  clear failed
  induction arises with
  | unbound missing => exact covers.unbound _
  | emptyCall => exact covers.emptyCall
  | emptyPlace => exact covers.emptyPlace
  | tooDeep =>
    refine enough.resolve_left ?_
    rw [callDepth]
    omega
  | notAFunction => exact covers.notAFunction _
  | native failed => exact covers.native _ _ _ failed
  | head inside ih =>
    rw [callDepth, Nat.max_le] at enough
    exact ih (enough.imp_left And.left)
  | argument member needed inside ih =>
    rw [callDepth, Nat.max_le, Nat.add_le_add_iff_right] at enough
    exact ih (enough.imp_left fun within => Nat.le_trans (callDepth_le_of_mem member) within.2)

/-- Where functions do not miss names themselves, a name whose value is missed has none, and is the
expression or heads a list in it. -/
theorem Arises.position_of_unbound {scope : Scope F} {room : Nat} {expr : Expr F} {name : Text}
    (bound : ∀ function values name, (natives function values).result ≠ .error (.unbound name))
    (arises : Arises natives scope room expr (.unbound name)) :
    scope.lookup name = none ∧ (expr = symbol name ∨ HeadsList name expr) := by
  generalize missed : EvalFault.unbound name = fault at arises
  induction arises with
  | unbound missing =>
    cases missed
    exact ⟨missing, .inl rfl⟩
  | emptyCall => cases missed
  | emptyPlace => cases missed
  | tooDeep => cases missed
  | notAFunction => cases missed
  | native failed =>
    cases missed
    exact absurd failed (bound _ _ name)
  | head inside ih =>
    obtain ⟨missing, rfl | heads⟩ := ih missed
    · exact ⟨missing, .inr (.here _)⟩
    · exact ⟨missing, .inr (.inside (List.mem_cons_self ..) heads)⟩
  | argument member needed inside ih =>
    obtain ⟨missing, rfl | heads⟩ := ih missed
    · exact absurd (isUnbound_of_missing missing) needed
    · exact ⟨missing, .inr (.inside (List.mem_cons_of_mem _ member) heads)⟩

/-- Where functions do not come upon an empty place themselves, none is come upon in an expression that
leaves no place empty. -/
theorem Arises.ne_emptyPlace {scope : Scope F} {room : Nat} {expr : Expr F} {fault : EvalFault}
    (silent : ∀ function values, (natives function values).result ≠ .error .emptyPlace)
    (arises : Arises natives scope room expr fault) (filled : expr.isFilled = true) :
    fault ≠ .emptyPlace := by
  induction arises with
  | unbound missing => exact EvalFault.noConfusion
  | emptyCall => exact EvalFault.noConfusion
  | emptyPlace => cases filled
  | tooDeep => exact EvalFault.noConfusion
  | notAFunction => exact EvalFault.noConfusion
  | native failed =>
    rintro rfl
    exact silent _ _ failed
  | head inside ih =>
    rw [isFilled, areFilled_iff] at filled
    exact ih (filled _ (List.mem_cons_self ..))
  | argument member needed inside ih =>
    rw [isFilled, areFilled_iff] at filled
    exact ih (filled _ (List.mem_cons_of_mem _ member))

end ParenCalc.Expr
