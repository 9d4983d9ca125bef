import Mathlib.Data.List.Induction
import ParenCalc.Builtin
import ParenCalc.Expr.Equality
import ParenCalc.Expr.Selection
import ParenCalc.Proofs.Decimal.Double

/-! # Equality and sets of expressions

Equality of expressions that were built apart is symmetric and transitive, as equality of doubles is,
but an expression with a NaN or a native function in it does not equal its copy. Two expressions that
are equal are equal to the same expressions, so the size of a set grows with an expression that equals
none before it, and does not depend on the order in which expressions are put into the set.
-/

namespace ParenCalc.Expr

variable {F : Type}

/-! ## Equality -/

mutual

/-- Equality is symmetric. -/
theorem alike_comm : ∀ left right : Expr F, left.alike right = right.alike left
  | number x, right => by
    cases right with
    | number y => exact Decimal.beq_comm x y
    | _ => rfl
  | symbol name, right => by
    cases right with
    | symbol other => exact BEq.comm
    | _ => rfl
  | list lefts, right => by
    cases right with
    | list rights => exact allAlike_comm lefts rights
    | _ => rfl
  | native _, right => by cases right <;> rfl
  | empty, right => by cases right <;> rfl

theorem allAlike_comm : ∀ lefts rights : List (Expr F), allAlike lefts rights = allAlike rights lefts
  | [], [] => rfl
  | [], _ :: _ => rfl
  | _ :: _, [] => rfl
  | left :: lefts, right :: rights => by
    rw [allAlike, allAlike, alike_comm left right, allAlike_comm lefts rights]

end

mutual

/-- Equality is transitive. -/
theorem alike_trans : ∀ {left middle right : Expr F}, left.alike middle = true →
    middle.alike right = true → left.alike right = true
  | number x, middle, right, first, second => by
    cases middle with
    | number y =>
      cases right with
      | number z => exact Decimal.beq_trans first second
      | _ => cases second
    | _ => cases first
  | symbol name, middle, right, first, second => by
    cases middle with
    | symbol other =>
      cases right with
      | symbol third => exact BEq.trans first second
      | _ => cases second
    | _ => cases first
  | list lefts, middle, right, first, second => by
    cases middle with
    | list middles =>
      cases right with
      | list rights => exact allAlike_trans first second
      | _ => cases second
    | _ => cases first
  | empty, middle, right, first, second => by
    cases middle with
    | empty => exact second
    | _ => cases first

theorem allAlike_trans : ∀ {lefts middles rights : List (Expr F)}, allAlike lefts middles = true →
    allAlike middles rights = true → allAlike lefts rights = true
  | [], [], _, _, second => second
  | left :: lefts, middle :: middles, right :: rights, first, second => by
    rw [allAlike, Bool.and_eq_true] at first second ⊢
    exact ⟨alike_trans first.1 second.1, allAlike_trans first.2 second.2⟩

end

/-- Equal expressions are equal to the same expressions. -/
theorem alike_congr {left right : Expr F} (equal : left.alike right = true) (other : Expr F) :
    left.alike other = right.alike other := by
  apply Bool.eq_iff_iff.mpr
  constructor
  · exact alike_trans (alike_comm left right ▸ equal)
  · exact alike_trans equal

/-- An expression equals its copy when it holds neither a NaN nor a native function. -/
theorem alike_self_iff : ∀ expr : Expr F, expr.alike expr = true ↔
    (∀ value, number value ∈ expr.parts → value.isNaN = false) ∧ ∀ function, native function ∉ expr.parts
  | number value => by simp [alike, Decimal.beq_self]
  | symbol name => by simp [alike]
  | native function => by simp [alike]
  | empty => by simp [alike]
  | list elements => by
    rw [alike, allAlike_self_iff, parts_list]
    simp only [List.mem_cons, reduceCtorEq, false_or, List.mem_flatMap]
    constructor
    · intro each
      constructor
      · rintro value ⟨element, member, inside⟩
        exact ((alike_self_iff element).mp (each element member)).1 value inside
      · rintro function ⟨element, member, inside⟩
        exact ((alike_self_iff element).mp (each element member)).2 function inside
    · rintro ⟨numbers, natives⟩ element member
      refine (alike_self_iff element).mpr ⟨?_, ?_⟩
      · exact fun value inside => numbers value ⟨element, member, inside⟩
      · exact fun function inside => natives function ⟨element, member, inside⟩

/-! ## Sets -/

/-- An expression equals one of a list exactly when it equals one that is kept of the list. -/
theorem any_distinct (exprs : List (Expr F)) (expr : Expr F) :
    (distinct exprs).any expr.alike = exprs.any expr.alike := by
  induction exprs using List.reverseRecOn with
  | nil => rfl
  | append_singleton exprs last ih =>
    rw [distinct_concat, List.any_append, ← ih]
    split
    · next present =>
      -- what equals the last expression equals the one that was kept in its place
      obtain ⟨kept, member, equal⟩ := List.any_eq_true.mp present
      by_cases same : expr.alike last = true
      · have found : (distinct exprs).any expr.alike = true :=
          List.any_eq_true.mpr ⟨kept, member, alike_trans same equal⟩
        rw [found, Bool.true_or]
      · simp [same]
    · rw [List.any_append]

/-- A set grows with an expression that equals none of those before it. -/
theorem length_distinct_concat (exprs : List (Expr F)) (expr : Expr F) :
    (distinct (exprs ++ [expr])).length =
      (distinct exprs).length + if exprs.any expr.alike then 0 else 1 := by
  rw [distinct_concat, any_distinct]
  split
  · rfl
  · exact List.length_append

/-- The size of a set of expressions that are put into it from the last to the first. -/
theorem length_distinct_reverse_cons (expr : Expr F) (exprs : List (Expr F)) :
    (distinct (expr :: exprs).reverse).length =
      (distinct exprs.reverse).length + if exprs.any expr.alike then 0 else 1 := by
  rw [List.reverse_cons, length_distinct_concat, List.any_reverse]

/-- The size of a set does not depend on the order of its expressions. -/
theorem length_distinct_reverse_perm {exprs others : List (Expr F)} (same : exprs.Perm others) :
    (distinct exprs.reverse).length = (distinct others.reverse).length := by
  induction same with
  | nil => rfl
  | cons expr rest ih =>
    rw [length_distinct_reverse_cons, length_distinct_reverse_cons, ih, rest.any_eq]
  | swap first second rest =>
    simp only [length_distinct_reverse_cons, List.any_cons, alike_comm second first]
    -- of two that are equal only the earlier one counts, and it meets the same equals as the other
    by_cases equal : first.alike second = true
    · simp only [equal, funext (alike_congr equal)]
    · simp only [equal, Bool.false_or]
      omega
  | trans _ _ first second => exact first.trans second

theorem length_distinct_perm {exprs others : List (Expr F)} (same : exprs.Perm others) :
    (distinct exprs).length = (distinct others).length := by
  have reversed := (exprs.reverse_perm.trans same).trans others.reverse_perm.symm
  simpa using length_distinct_reverse_perm reversed

/-- Equality of expressions that were built apart is symmetric and transitive, and an expression equals
its copy exactly when it holds neither a NaN nor a native function. The size of a set of expressions is
the same for every order of them, and grows by one with an expression that equals none of the members,
which is to say none of the expressions that were put into the set, and by none with any other. -/
theorem equality_and_set_sizes :
    (∀ left right : Expr F, left.alike right = right.alike left) ∧
    (∀ left middle right : Expr F, left.alike middle = true → middle.alike right = true →
      left.alike right = true) ∧
    (∀ expr : Expr F, expr.alike expr = true ↔
      (∀ value, number value ∈ expr.parts → value.isNaN = false) ∧
        ∀ function, native function ∉ expr.parts) ∧
    (∀ exprs others : List (Expr F), exprs.Perm others →
      (distinct exprs).length = (distinct others).length) ∧
    ∀ (exprs : List (Expr F)) (expr : Expr F),
      (distinct (exprs ++ [expr])).length =
        (distinct exprs).length + (if (distinct exprs).any expr.alike then 0 else 1) ∧
      (distinct exprs).any expr.alike = exprs.any expr.alike := by
  refine ⟨alike_comm, fun _ _ _ => alike_trans, alike_self_iff, fun _ _ => length_distinct_perm, ?_⟩
  intro exprs expr
  refine ⟨?_, any_distinct exprs expr⟩
  rw [length_distinct_concat, any_distinct]

/-- The two zeros are one member of a set, while two NaNs, here in lists, and two copies of a native
function are two members each, in this order and in the opposite one. -/
theorem equality_and_set_sizes_copies :
    let zero : Expr Builtin := number 0
    let negative : Expr Builtin := number (-0)
    let undefined : Expr Builtin := list [number (Float.ofBits Decimal.nanBits)]
    let exprs : List (Expr Builtin) :=
      [zero, undefined, native .add, list [zero], negative, list [negative], undefined, native .add]
    zero.alike negative = true ∧ negative.alike zero = true ∧ zero.alike zero = true ∧
      exprs.reverse.Perm exprs ∧ (distinct exprs).length = 6 ∧ (distinct exprs.reverse).length = 6 := by
  intro zero negative undefined exprs
  obtain ⟨comm, trans, -, perm, -⟩ := equality_and_set_sizes (F := Builtin)
  have equal : zero.alike negative = true := by decide
  have back : negative.alike zero = true := (comm negative zero).trans equal
  have size : (distinct exprs).length = 6 := by decide
  exact ⟨equal, back, trans zero negative zero equal back, exprs.reverse_perm, size,
    (perm exprs.reverse exprs exprs.reverse_perm).trans size⟩

end ParenCalc.Expr
