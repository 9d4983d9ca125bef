import ParenCalc.Token
import ParenCalc.Expr.Basic

/-! # How deep parentheses and lists nest

The nesting of tokens is the greatest surplus of opening over closing parentheses in any front part
of them; it is defined for unbalanced tokens too. The nesting of an expression is how many lists
stand inside each other.
-/

namespace ParenCalc

namespace Token

/-- The greatest surplus of opening over closing parentheses in a front part of the tokens. -/
def nesting : List Token → Nat
  | [] => 0
  | opening :: rest => nesting rest + 1
  | closing :: rest => nesting rest - 1
  | atom _ :: rest => nesting rest

/-- A front part of two lists together is one of the first, or the first and one of the second. -/
theorem nesting_append (first second : List Token) :
    nesting (first ++ second) =
      max (nesting first) (first.count .opening + nesting second - first.count .closing) := by
  induction first with
  | nil => simp [nesting]
  | cons token rest ih =>
    cases token with
    | opening =>
      simp only [List.cons_append, nesting, ih, List.count_cons_self,
        List.count_cons_of_ne (show opening ≠ closing by decide)]
      omega
    | closing =>
      simp only [List.cons_append, nesting, ih, List.count_cons_self,
        List.count_cons_of_ne (show closing ≠ opening by decide)]
      omega
    | atom name =>
      have notOpening : (atom name == opening) = false := rfl
      have notClosing : (atom name == closing) = false := rfl
      simp only [List.cons_append, nesting, ih, List.count_cons, notOpening, notClosing,
        Bool.false_eq_true, if_false, Nat.add_zero]

/-- Fewer tokens nest no deeper. -/
theorem nesting_le_append (first second : List Token) : nesting first ≤ nesting (first ++ second) := by
  rw [nesting_append]
  exact Nat.le_max_left ..

end Token

namespace Expr

variable {F : Type}

mutual

/-- How many lists stand inside each other. -/
def nesting : Expr F → Nat
  | list elements => nestings elements + 1
  | number _ => 0
  | symbol _ => 0
  | native _ => 0
  | empty => 0

def nestings : List (Expr F) → Nat
  | [] => 0
  | element :: rest => max (nesting element) (nestings rest)

end

theorem nestings_le_iff (elements : List (Expr F)) (bound : Nat) :
    nestings elements ≤ bound ↔ ∀ element ∈ elements, element.nesting ≤ bound := by
  induction elements with
  | nil => simp [nestings]
  | cons element rest ih => rw [nestings, Nat.max_le, ih, List.forall_mem_cons]

end Expr

end ParenCalc
