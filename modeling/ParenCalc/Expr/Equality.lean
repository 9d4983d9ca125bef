import ParenCalc.Expr.Basic

/-! # Equality and sets of expressions

Two expressions that were built apart are equal when they have the same shape and equal leaves.
Numbers are compared as doubles, so zero equals negative zero, and a NaN differs from every number.
A native function is equal to itself only, hence never to one that was built apart. A set keeps the
first of the expressions that are equal.
-/

namespace ParenCalc.Expr

variable {F : Type}

mutual

/-- Equality of two expressions that were built apart. They share no object: not their native
functions, and not the objects that hold their doubles. So a NaN differs from its own copy, which need
not hold where the two expressions have one NaN object in common. -/
def alike : Expr F → Expr F → Bool
  | number left, number right => left == right
  | symbol left, symbol right => left == right
  | list left, list right => allAlike left right
  | empty, empty => true
  | _, _ => false

def allAlike : List (Expr F) → List (Expr F) → Bool
  | [], [] => true
  | left :: lefts, right :: rights => alike left right && allAlike lefts rights
  | _, _ => false

end

theorem allAlike_self_iff (elements : List (Expr F)) :
    allAlike elements elements = true ↔ ∀ element ∈ elements, element.alike element = true := by
  induction elements with
  | nil => simp [allAlike]
  | cons element rest ih => simp [allAlike, ih]

/-- Equality with another expression, or with itself where no other is given. -/
def equals (left : Expr F) : Option (Expr F) → Bool
  | none => true
  | some right => left.alike right

/-- The first of each set of equal expressions, all built apart. -/
def distinct (exprs : List (Expr F)) : List (Expr F) :=
  exprs.foldl (fun kept expr => if kept.any (alike expr) then kept else kept ++ [expr]) []

/-- The last expression is kept unless it equals one that was kept before it. -/
theorem distinct_concat (exprs : List (Expr F)) (expr : Expr F) :
    distinct (exprs ++ [expr]) =
      if (distinct exprs).any expr.alike then distinct exprs else distinct exprs ++ [expr] := by
  rw [distinct, List.foldl_append]
  rfl

end ParenCalc.Expr
