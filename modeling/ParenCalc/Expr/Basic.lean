import ParenCalc.Text.Basic

/-! # Expressions

An expression is a number, a symbol or a list of expressions. Values also include native
functions, which no source text can write; they are drawn from a type that the evaluator's caller
chooses. A place may also be empty: an empty place can be bound or stand in a list, and has no
value.
-/

namespace ParenCalc

/-- Functions that have a name to be shown by. -/
class Named (F : Type) where
  name : F → Text

/-- Expressions over the native functions of `F`. -/
inductive Expr (F : Type) where
  | number (value : Float)
  | symbol (name : Text)
  | list (elements : List (Expr F))
  | native (function : F)
  | empty
deriving Inhabited

namespace Expr

variable {F : Type}

mutual

/-- Source expressions hold numbers, symbols and lists only. -/
def isSource : Expr F → Bool
  | number _ => true
  | symbol _ => true
  | list elements => areSource elements
  | native _ => false
  | empty => false

def areSource : List (Expr F) → Bool
  | [] => true
  | element :: rest => isSource element && areSource rest

end

theorem areSource_iff (elements : List (Expr F)) :
    areSource elements = true ↔ ∀ element ∈ elements, element.isSource = true := by
  induction elements with
  | nil => simp [areSource]
  | cons element rest ih => simp [areSource, ih]

mutual

/-- No place in the expression is empty. -/
def isFilled : Expr F → Bool
  | list elements => areFilled elements
  | empty => false
  | number _ | symbol _ | native _ => true

def areFilled : List (Expr F) → Bool
  | [] => true
  | element :: rest => isFilled element && areFilled rest

end

theorem areFilled_iff (elements : List (Expr F)) :
    areFilled elements = true ↔ ∀ element ∈ elements, element.isFilled = true := by
  induction elements with
  | nil => simp [areFilled]
  | cons element rest ih => simp [areFilled, ih]

/-- Source expressions leave no place empty. -/
theorem isFilled_of_isSource : ∀ expr : Expr F, expr.isSource = true → expr.isFilled = true
  | number _, _ => rfl
  | symbol _, _ => rfl
  | list elements, source => by
    rw [isFilled, areFilled_iff]
    rw [isSource, areSource_iff] at source
    exact fun element member => isFilled_of_isSource element (source element member)
  | native _, source => by simp [isSource] at source
  | empty, source => by simp [isSource] at source

end Expr

end ParenCalc
