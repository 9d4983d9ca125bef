import ParenCalc.Proofs.Decimal.Sums
import ParenCalc.Proofs.Evaluation.Arithmetic

/-! # Sums of sums, differences of differences

A call that has a call of the same function for its first argument can be written as one call. For a
difference nothing changes, as the inner one ends where the outer one starts. A sum starts at zero
once more, and adding to zero would change the negative zero; but no running total is one.
-/

namespace ParenCalc

namespace Expr

open Decimal

variable {F : Type}

theorem amounts_append (first second : List (Expr F)) :
    amounts (first ++ second) = amounts first ++ amounts second := by
  induction first with
  | nil => rfl
  | cons argument rest ih => simp only [List.cons_append, amounts, ih]

theorem callDepths_append (first second : List (Expr F)) :
    callDepths (first ++ second) = max (callDepths first) (callDepths second) := by
  induction first with
  | nil => simp [callDepths]
  | cons argument rest ih => simp only [List.cons_append, callDepths, ih, Nat.max_assoc]

theorem foldl_add_ne_negativeZero (numbers : List Float) {total : Float} (other : total ≠ negativeZero) :
    numbers.foldl (· + ·) total ≠ negativeZero := by
  induction numbers generalizing total with
  | nil => exact other
  | cons number rest ih =>
    apply ih
    intro zero
    exact other (add_eq_negativeZero zero).1

/-- No sum that starts at zero is the negative zero. -/
theorem sum_ne_negativeZero (numbers : List Float) : sum numbers ≠ negativeZero :=
  foldl_add_ne_negativeZero numbers (by decide)

theorem sum_cons_sum (inner outer : List Float) : sum (sum inner :: outer) = sum (inner ++ outer) := by
  have restart : 0 + sum inner = sum inner := zero_add_of_ne (sum_ne_negativeZero inner)
  calc
    sum (sum inner :: outer) = outer.foldl (· + ·) (0 + sum inner) := rfl
    _ = outer.foldl (· + ·) (sum inner) := by rw [restart]
    _ = sum (inner ++ outer) := List.foldl_append.symm

theorem difference_cons_difference {inner : List Float} (begins : inner ≠ []) (outer : List Float) :
    difference (difference inner :: outer) = difference (inner ++ outer) := by
  obtain ⟨first, others, rfl⟩ := List.exists_cons_of_ne_nil begins
  exact List.foldl_append.symm

end Expr

namespace Builtin

open ParenCalc.Expr ParenCalc.Decimal

/-- A call of a function by its name. -/
def call (function : Builtin) (arguments : List (Expr Builtin)) : Expr Builtin :=
  list (symbol (Named.name function) :: arguments)

/-- A call is arithmetic when its arguments are; a difference needs one. -/
theorem arithmetic_call_iff (function : Builtin) (arguments : List (Expr Builtin)) :
    Arithmetic (call function arguments) ↔
      (function = sub → arguments ≠ []) ∧ ∀ argument ∈ arguments, Arithmetic argument := by
  constructor
  · intro arithmetic
    refine ⟨?_, (arithmetic_call arithmetic).2⟩
    rintro rfl rfl
    cases arithmetic
  · rintro ⟨begins, each⟩
    cases function with
    | add => exact .sum arguments each
    | sub =>
      obtain ⟨first, others, rfl⟩ := List.exists_cons_of_ne_nil (begins rfl)
      exact .difference first others each

/-- A call within the limit has a value exactly when it is arithmetic, namely its amount. -/
theorem evalWithin_call_eq_ok_iff {limit : Nat} {function : Builtin} {arguments : List (Expr Builtin)}
    (source : areSource arguments = true) (within : (call function arguments).callDepth ≤ limit)
    (value : Expr Builtin) :
    (evalWithin natives scope limit (call function arguments)).result = .ok value ↔
      Arithmetic (call function arguments) ∧ number (call function arguments).amount = value := by
  have verdict : Verdict (call function arguments)
      (evalWithin natives scope limit (call function arguments)).result :=
    verdict_evalWithin _ limit source within
  generalize (evalWithin natives scope limit (call function arguments)).result = result at verdict ⊢
  cases verdict with
  | amount arithmetic => simp [arithmetic]
  | function other named => exact absurd named (list_ne_symbol _ other)
  | fault _ other _ => simp [other]

/-- A call of a call has the amount of one call. -/
theorem amount_nested {function : Builtin} {inner : List (Expr Builtin)}
    (begins : function = sub → inner ≠ []) (outer : List (Expr Builtin)) :
    (call function (call function inner :: outer)).amount = (call function (inner ++ outer)).amount := by
  cases function with
  | add =>
    calc
      (call add (call add inner :: outer)).amount = sum (sum (amounts inner) :: amounts outer) := rfl
      _ = sum (amounts (inner ++ outer)) := by rw [sum_cons_sum, amounts_append]
      _ = (call add (inner ++ outer)).amount := rfl
  | sub =>
    have inhabited : amounts inner ≠ [] := by
      obtain ⟨first, others, rfl⟩ := List.exists_cons_of_ne_nil (begins rfl)
      exact List.cons_ne_nil _ _
    calc
      (call sub (call sub inner :: outer)).amount =
          difference (difference (amounts inner) :: amounts outer) := rfl
      _ = difference (amounts (inner ++ outer)) := by
        rw [difference_cons_difference inhabited, amounts_append]
      _ = (call sub (inner ++ outer)).amount := rfl

/-- A call of a call has a value exactly when one call of all the arguments has it. -/
theorem evalWithin_nested_iff (function : Builtin) {limit : Nat} {inner outer : List (Expr Builtin)}
    (begins : function = sub → inner ≠ []) (source : areSource (inner ++ outer) = true)
    (within : (call function (call function inner :: outer)).callDepth ≤ limit)
    (value : Expr Builtin) :
    (evalWithin natives scope limit (call function (call function inner :: outer))).result = .ok value ↔
      (evalWithin natives scope limit (call function (inner ++ outer))).result = .ok value := by
  have nested : areSource (call function inner :: outer) = true := by
    rw [areSource_iff] at source ⊢
    obtain ⟨before, after⟩ := List.forall_mem_append.mp source
    have elements : areSource (symbol (Named.name function) :: inner) = true :=
      (areSource_iff _).mpr (List.forall_mem_cons.mpr ⟨rfl, before⟩)
    exact List.forall_mem_cons.mpr ⟨elements, after⟩
  have flat : (call function (inner ++ outer)).callDepth ≤ limit := by
    simp only [call, callDepth, callDepths, callDepths_append] at within ⊢
    omega
  have arithmetic : Arithmetic (call function (call function inner :: outer)) ↔
      Arithmetic (call function (inner ++ outer)) := by
    simp only [arithmetic_call_iff, List.forall_mem_cons, List.forall_mem_append]
    constructor
    · rintro ⟨-, ⟨-, before⟩, after⟩
      exact ⟨fun difference => List.append_ne_nil_of_left_ne_nil (begins difference) _, before, after⟩
    · rintro ⟨-, before, after⟩
      exact ⟨fun _ => List.cons_ne_nil _ _, ⟨begins, before⟩, after⟩
  rw [evalWithin_call_eq_ok_iff nested within, evalWithin_call_eq_ok_iff source flat, arithmetic,
    amount_nested begins]

/-- Nested sums and differences flatten, under the limit of `evaluate` and under every other. A
difference that starts with a difference, which has an argument, has a value exactly when the
difference of all the arguments has it; and a sum that starts with a sum has a value exactly when the
sum of all the arguments has it. The value is the same double, whether it is a zero of either sign, an
infinity or a NaN. -/
theorem nested_calls_flatten (inner outer : List (Expr Builtin))
    (source : ∀ expr ∈ inner ++ outer, expr.isSource = true) :
    (∀ expr, evaluate expr = (evalWithin natives scope callLimit expr).result) ∧
    ∀ limit,
      let result := fun expr => (evalWithin natives scope limit expr).result
      (inner ≠ [] →
        (list (symbol ['-'] :: list (symbol ['-'] :: inner) :: outer)).callDepth ≤ limit →
        ∀ value, result (list (symbol ['-'] :: list (symbol ['-'] :: inner) :: outer)) = .ok value ↔
          result (list (symbol ['-'] :: (inner ++ outer))) = .ok value) ∧
      ((list (symbol ['+'] :: list (symbol ['+'] :: inner) :: outer)).callDepth ≤ limit →
        ∀ value, result (list (symbol ['+'] :: list (symbol ['+'] :: inner) :: outer)) = .ok value ↔
          result (list (symbol ['+'] :: (inner ++ outer))) = .ok value) := by
  have elements := (areSource_iff _).mpr source
  refine ⟨fun expr => rfl, ?_⟩
  intro limit result
  refine ⟨?_, ?_⟩
  · intro begins within
    exact evalWithin_nested_iff sub (fun _ => begins) elements within
  · intro within
    exact evalWithin_nested_iff add nofun elements within

/-- Zeros with their signs: a difference starts at the negative zero and keeps it, a sum loses it at
once, and neither is changed by the inner call. -/
theorem nested_calls_flatten_zeros :
    let inner : List (Expr Builtin) := [number negativeZero]
    let outer : List (Expr Builtin) := [number 0, list [symbol ['+']]]
    let nested (name : Text) := list (symbol name :: list (symbol name :: inner) :: outer)
    let flat (name : Text) := list (symbol name :: (inner ++ outer))
    ((∀ expr ∈ inner ++ outer, expr.isSource = true) ∧ inner ≠ [] ∧
      (nested ['-']).callDepth ≤ callLimit ∧ (nested ['+']).callDepth ≤ callLimit) ∧
    (evaluate (nested ['-']) = .ok (number negativeZero) ∧
      evaluate (flat ['-']) = .ok (number negativeZero)) ∧
    (evaluate (nested ['+']) = .ok (number 0) ∧ evaluate (flat ['+']) = .ok (number 0)) ∧
    (0 : Float) ≠ negativeZero := by
  intro inner outer nested flat
  have source : ∀ expr ∈ inner ++ outer, expr.isSource = true := (areSource_iff _).mp rfl
  have begins : inner ≠ [] := List.cons_ne_nil _ _
  have differenceDepth : (nested ['-']).callDepth ≤ callLimit := by decide
  have sumDepth : (nested ['+']).callDepth ≤ callLimit := by decide
  have difference : evaluate (nested ['-']) = .ok (number negativeZero) := by rfl
  have sum : evaluate (nested ['+']) = .ok (number 0) := by rfl
  obtain ⟨differences, sums⟩ := (nested_calls_flatten inner outer source).2 callLimit
  refine ⟨⟨source, begins, differenceDepth, sumDepth⟩, ⟨difference, ?_⟩, ⟨sum, ?_⟩, by decide⟩
  · exact (differences begins differenceDepth _).mp difference
  · exact (sums sumDepth _).mp sum

end Builtin

end ParenCalc
