import ParenCalc.Expr.Basic
import ParenCalc.Number
import ParenCalc.Text.Quoted

/-! # Expressions as text

An expression is shown in three ways: as source text, as a one-line description of its
structure, and as an indented tree with one leaf to a line.
-/

namespace ParenCalc.Expr

variable {F : Type} [Named F]

mutual

/-- Source text: elements are divided by one space. -/
def text : Expr F → Text
  | number value => Number.text value
  | symbol name => name
  | list elements => '(' :: List.intercalate [' '] (texts elements) ++ [')']
  | native function => "<native ".toList ++ Named.name function ++ ['>']
  | empty => "None".toList

def texts : List (Expr F) → List Text
  | [] => []
  | element :: rest => text element :: texts rest

end

theorem texts_eq_map (elements : List (Expr F)) : texts elements = elements.map text := by
  induction elements with
  | nil => rfl
  | cons element rest ih => simp [texts, ih]

theorem text_number (value : Float) : (number value : Expr F).text = Number.text value := rfl

theorem text_symbol (name : Text) : (symbol name : Expr F).text = name := rfl

theorem text_list (elements : List (Expr F)) :
    (list elements).text = '(' :: List.intercalate [' '] (elements.map text) ++ [')'] := by
  rw [← texts_eq_map]
  rfl

/-- Elements between parentheses; a single element keeps a comma. -/
def grouped : List Text → Text
  | [single] => '(' :: single ++ [',', ')']
  | items => '(' :: List.intercalate [',', ' '] items ++ [')']

mutual

/-- A description on one line, in which every kind of expression is named. -/
def description : Expr F → Text
  | number value => "Number(value=".toList ++ Number.text value ++ [')']
  | symbol name => "Symbol(name=".toList ++ Text.quoted name ++ [')']
  | list elements => "List(elements=".toList ++ grouped (descriptions elements) ++ [')']
  | native function => "NativeFunction(name=".toList ++ Text.quoted (Named.name function) ++ [')']
  | empty => "None".toList

def descriptions : List (Expr F) → List Text
  | [] => []
  | element :: rest => description element :: descriptions rest

end

theorem description_number (value : Float) :
    (number value : Expr F).description = "Number(value=".toList ++ Number.text value ++ [')'] := rfl

theorem description_symbol (name : Text) :
    (symbol name : Expr F).description = "Symbol(name=".toList ++ Text.quoted name ++ [')'] := rfl

theorem description_native (function : F) :
    (native function).description =
      "NativeFunction(name=".toList ++ Text.quoted (Named.name function) ++ [')'] := rfl

/-- Four spaces for each level; there is no indentation below level zero. -/
def indentation (level : Int) : Text := Text.spaces (4 * level.toNat)

mutual

/-- The tree of an expression: a list that is not empty takes a line to open, the trees of its
elements one level deeper, and a line to close. -/
def tree (level : Int) : Expr F → Text
  | list [] => indentation level ++ "List(nodes=[])".toList
  | list (first :: rest) =>
    indentation level ++ "List(nodes=[\n".toList
      ++ List.intercalate [',', '\n'] (trees (level + 1) (first :: rest))
      ++ '\n' :: indentation level ++ "])".toList
  | leaf => indentation level ++ description leaf

def trees (level : Int) : List (Expr F) → List Text
  | [] => []
  | element :: rest => tree level element :: trees level rest

end

theorem trees_eq_map (level : Int) (elements : List (Expr F)) :
    trees level elements = elements.map (tree level) := by
  induction elements with
  | nil => rfl
  | cons element rest ih => simp [trees, ih]

theorem tree_nil (level : Int) :
    (list [] : Expr F).tree level = indentation level ++ "List(nodes=[])".toList := rfl

theorem tree_cons (level : Int) (first : Expr F) (rest : List (Expr F)) :
    (list (first :: rest)).tree level =
      indentation level ++ "List(nodes=[\n".toList
        ++ List.intercalate [',', '\n'] ((first :: rest).map (tree (level + 1)))
        ++ '\n' :: indentation level ++ "])".toList := by
  rw [← trees_eq_map]
  rfl

/-- The tree of an expression in which no place is empty; an empty place has none. -/
def tree? (level : Int) (expr : Expr F) : Option Text :=
  if expr.isFilled then some (expr.tree level) else none

/-- What was read from source text always has a tree. -/
theorem tree?_of_isSource (level : Int) (expr : Expr F) (source : expr.isSource = true) :
    expr.tree? level = some (expr.tree level) := by
  simp [tree?, isFilled_of_isSource expr source]

end ParenCalc.Expr
