import ParenCalc.Proofs.Reader.Grammar

/-! # The reader and the recursive descent

The reader that keeps open lists and the recursive descent have the same outcome, be it an expression
with the tokens after it or a fault. Reading the elements of an open list is an induction on the
tokens, for any elements read so far and any lists around it: after an element, fewer tokens are left
and the element stands in the list. The room of the descent is what the limit leaves beyond the lists
that are open.
-/

namespace ParenCalc.Expr

variable {F : Type}

theorem descendList_cons (room : Nat) (elements : List (Expr F)) {token : Token}
    (inside : token ≠ .closing) (rest : List Token) :
    descendList room elements (token :: rest) =
      descend room (token :: rest) >>= fun (expr, ⟨left, shorter⟩) =>
        (descendList room (elements ++ [expr]) left).map fun (found, ⟨last, less⟩) =>
          (found, ⟨last, Nat.lt_trans less shorter⟩) := by
  rw [descendList]
  exact inside

/-- An element that is read stands in the list, and the list is read on. -/
theorem descendList_of_descend {α : Type} {room : Nat} {elements : List (Expr F)} {token : Token}
    (inside : token ≠ .closing) {rest : List Token} {expr : Expr F} {left : Rest (token :: rest)}
    (read : descend room (token :: rest) = .ok (expr, left))
    (next : Expr F → List Token → Except ReadFault α) :
    (descendList room elements (token :: rest) >>= fun (found, last) => next found last) =
      descendList room (elements ++ [expr]) left >>= fun (found, last) => next found last := by
  rw [descendList_cons _ _ inside, read]
  simp only [bind, Except.bind]
  cases descendList room (elements ++ [expr]) left.val <;> rfl

/-- Inside an open list, the reader goes to the end of that list and puts it where it belongs. -/
theorem readFrom_eq_descendList : ∀ (tokens : List Token) (room : Nat) (elements : List (Expr F))
    (outer : Open F),
    readFrom (outer.length + 1 + room) (elements :: outer) tokens =
      descendList room elements.reverse tokens >>= fun (expr, rest) =>
        resume (outer.length + 1 + room) rest (place expr outer)
  | [], room, elements, outer => by
    rw [descendList]
    rfl
  | .closing :: rest, room, elements, outer => by
    rw [descendList]
    exact readFrom_of_step rfl rest
  | .atom name :: rest, room, elements, outer => by
    have added : step (outer.length + 1 + room) (elements :: outer) (.atom name) =
        .ok (.reading ((ofAtom name :: elements) :: outer)) := rfl
    have read : descend room (.atom name :: rest) =
        .ok (ofAtom (F := F) name, ⟨rest, Nat.lt_succ_self _⟩) := by
      rw [descend]
    rw [descendList_of_descend Token.noConfusion read fun expr last =>
      resume (outer.length + 1 + room) last (place expr outer), ← List.reverse_cons]
    exact (readFrom_of_step added rest).trans (readFrom_eq_descendList rest room _ outer)
  | .opening :: rest, 0, elements, outer => by
    have full : step (outer.length + 1) (elements :: outer) .opening = .error .tooDeep :=
      if_neg (Nat.lt_irrefl _)
    rw [Nat.add_zero, readFrom, full, descendList_cons _ _ Token.noConfusion, descend]
    rfl
  | .opening :: rest, inner + 1, elements, outer => by
    have opened : step (outer.length + 1 + (inner + 1)) (elements :: outer) .opening =
        .ok (.reading ([] :: elements :: outer)) := if_pos (by rw [List.length_cons]; omega)
    -- the list that is opened takes one place of the room
    have charged : outer.length + 1 + (inner + 1) = (elements :: outer).length + 1 + inner := by
      rw [List.length_cons]
      omega
    have within := readFrom_eq_descendList rest inner [] (elements :: outer)
    rw [← charged, List.reverse_nil] at within
    rw [readFrom_of_step opened, resume, within]
    cases found : descendList inner ([] : List (Expr F)) rest with
    | error fault =>
      rw [descendList_cons _ _ Token.noConfusion, descend, found]
      rfl
    | ok closed =>
      obtain ⟨expr, left, shorter⟩ := closed
      have read : descend (inner + 1) (.opening :: rest) =
          .ok (expr, ⟨left, Nat.lt_succ_of_lt shorter⟩) := by
        rw [descend, found]
        rfl
      rw [descendList_of_descend Token.noConfusion read fun expr last =>
        resume (outer.length + 1 + (inner + 1)) last (place expr outer), ← List.reverse_cons]
      exact readFrom_eq_descendList left (inner + 1) (expr :: elements) outer
termination_by tokens => tokens.length

/-- The first expression is read as the descent reads it. -/
theorem readFrom_eq_descend : ∀ (limit : Nat) (tokens : List Token),
    readFrom (F := F) limit [] tokens =
      (descend limit tokens).map fun (expr, rest) => (expr, rest.val)
  | _, [] | _, .closing :: _ | _, .atom _ :: _ | 0, .opening :: _ => by
    rw [descend]
    rfl
  | inner + 1, .opening :: rest => by
    have opened : step (F := F) (inner + 1) [] .opening = .ok (.reading [[]]) := rfl
    have within := readFrom_eq_descendList rest inner ([] : List (Expr F)) []
    rw [List.length_nil, Nat.zero_add, Nat.add_comm, List.reverse_nil] at within
    rw [readFrom_of_step opened, resume, within, descend]
    cases descendList inner ([] : List (Expr F)) rest <;> rfl

/-- All the expressions are read as the descent reads them. -/
theorem readAllFrom_eq_descendAll (limit : Nat) : ∀ tokens : List Token,
    readAllFrom (F := F) limit [] tokens = descendAll limit tokens
  | [] => by
    rw [descendAll]
    rfl
  | token :: rest => by
    rw [readAllFrom_eq_readFrom _ _ _ (.inl (List.cons_ne_nil token rest)), readFrom_eq_descend,
      descendAll]
    cases descend (F := F) limit (token :: rest) with
    | error fault => rfl
    | ok found =>
      obtain ⟨expr, left, shorter⟩ := found
      have others := readAllFrom_eq_descendAll limit left
      simp only [Except.map, bind, Except.bind, others]
termination_by tokens => tokens.length
decreasing_by exact shorter

/-- A list whose opening parenthesis was taken away is read as the descent reads it. The list is open
from the start, so that one place less is left of the limit. -/
theorem readList_eq_descendList (tokens : List Token) :
    readList (F := F) tokens =
      (descendList (nestingLimit - 1) [] tokens).map fun (expr, rest) => (expr, rest.val) := by
  refine (readFrom_eq_descendList tokens (nestingLimit - 1) [] []).trans ?_
  rw [List.reverse_nil]
  cases descendList (nestingLimit - 1) ([] : List (Expr F)) tokens <;> rfl

end ParenCalc.Expr
