import ParenCalc.Expr.Basic

/-! # Elements and parts

The elements of a list are selected by position. Positions count from zero; negative ones count from
the end. A single position must exist, while the bounds of a section are brought into range.

The parts of an expression are the expression itself and, for a list, the parts of its elements, in
the order of the text. A part is a leaf unless it is a list with elements.
-/

namespace ParenCalc.Expr

variable {F : Type}

/-! ## Elements by position -/

/-- The element at a position, if there is one. -/
def elementAt? (elements : List (Expr F)) (position : Int) : Option (Expr F) :=
  let start := if position < 0 then position + elements.length else position
  if start < 0 then none else elements[start.toNat]?

/-- A bound of a section, brought into the range from zero to the length. -/
def bound (length : Nat) (position : Int) : Nat :=
  min (if position < 0 then position + length else position).toNat length

/-- The elements from one position up to another; a missing bound is the end of the list. -/
def slice (elements : List (Expr F)) (start stop : Option Int) : List (Expr F) :=
  let first := (start.map (bound elements.length)).getD 0
  let last := (stop.map (bound elements.length)).getD elements.length
  (elements.take last).drop first

/-! ## Parts -/

mutual

/-- An expression and all that it holds, at any depth. -/
def parts : Expr F → List (Expr F)
  | list elements => list elements :: partsOfAll elements
  | leaf => [leaf]

def partsOfAll : List (Expr F) → List (Expr F)
  | [] => []
  | element :: rest => parts element ++ partsOfAll rest

end

theorem partsOfAll_eq_flatMap (elements : List (Expr F)) :
    partsOfAll elements = elements.flatMap parts := by
  induction elements with
  | nil => rfl
  | cons element rest ih => rw [partsOfAll, ih, List.flatMap_cons]

@[simp] theorem parts_number (value : Float) : (number value : Expr F).parts = [number value] := rfl

@[simp] theorem parts_symbol (name : Text) : (symbol name : Expr F).parts = [symbol name] := rfl

@[simp] theorem parts_native (function : F) : (native function).parts = [native function] := rfl

@[simp] theorem parts_empty : (empty : Expr F).parts = [empty] := rfl

@[simp] theorem parts_list (elements : List (Expr F)) :
    (list elements).parts = list elements :: elements.flatMap parts := by
  rw [← partsOfAll_eq_flatMap]
  rfl

/-- Lists with elements branch, and everything else is a leaf. -/
def isLeaf : Expr F → Bool
  | list (_ :: _) => false
  | _ => true

theorem isLeaf_cons (first : Expr F) (rest : List (Expr F)) : (list (first :: rest)).isLeaf = false := rfl

theorem parts_of_isLeaf {expr : Expr F} (leaf : expr.isLeaf = true) : expr.parts = [expr] := by
  match expr with
  | number _ | symbol _ | list [] | native _ | empty => rfl
  | list (_ :: _) => cases leaf

/-- What holds of every leaf, and of a list when it holds of its elements, holds of every
expression. -/
@[elab_as_elim]
theorem branchInduction {motive : Expr F → Prop} (leaf : ∀ expr, expr.isLeaf = true → motive expr)
    (branch : ∀ first rest, (∀ element ∈ first :: rest, motive element) →
      motive (list (first :: rest))) : ∀ expr, motive expr
  | number _ => leaf _ rfl
  | symbol _ => leaf _ rfl
  | list [] => leaf _ rfl
  | list (first :: rest) => branch first rest fun element _ => branchInduction leaf branch element
  | native _ => leaf _ rfl
  | empty => leaf _ rfl

end ParenCalc.Expr
