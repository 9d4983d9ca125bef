import ParenCalc.Expr.Basic
import ParenCalc.Text.Quoted

/-! # Scopes

A scope is a chain of frames, innermost first, each of which binds names. The innermost frame that
binds a name decides. A name bound to an empty place hides every outer binding of it and counts as
unbound.
-/

namespace ParenCalc

/-- The bindings of one level. -/
abbrev Frame (F : Type) := List (Text × Expr F)

/-- Frames from the innermost outwards. -/
abbrev Scope (F : Type) := List (Frame F)

namespace Scope

variable {F : Type}

/-- What the innermost frame that binds the name binds it to, an empty place included. -/
def binding? (scope : Scope F) (name : Text) : Option (Expr F) :=
  scope.findSome? fun frame => frame.lookup name

/-- The value of a name, if it has one. -/
def lookup (scope : Scope F) (name : Text) : Option (Expr F) :=
  match scope.binding? name with
  | some .empty => none
  | found => found

/-- A name has a value. -/
def binds (scope : Scope F) (name : Text) : Bool := (scope.lookup name).isSome

/-- A scope binds exactly the names whose value it knows. -/
theorem binds_iff (scope : Scope F) (name : Text) :
    scope.binds name = true ↔ ∃ value, scope.lookup name = some value := by
  simp [binds, Option.isSome_iff_exists]

/-- A name never has an empty place as its value. -/
theorem lookup_ne_empty (scope : Scope F) (name : Text) : scope.lookup name ≠ some .empty := by
  unfold lookup
  intro found
  split at found
  · contradiction
  · next other => exact other found

/-- The bindings of a frame in the order of their names. -/
def sorted (frame : Frame F) : Frame F :=
  frame.mergeSort fun left right => !decide (right.1 < left.1)

/-- The names of each frame, in order, and the description of the frames around it. -/
def description : Scope F → Text
  | [] => "None".toList
  | frame :: outer =>
    "Environment(bindings=".toList
      ++ Text.bracketed ((sorted frame).map fun entry => Text.quoted entry.1)
      ++ ", parent=".toList ++ description outer ++ [')']

end Scope

end ParenCalc
