import ParenCalc.Text.Basic

/-! # Statements

A statement is one or more lines whose parentheses belong together. A line loses its comment and
the blanks around it. While a statement has more opening than closing parentheses, the next line
goes on with it.
-/

namespace ParenCalc

/-- The text of a statement and the number of the line it starts on. -/
structure Statement where
  text : Text
  number : Int
deriving DecidableEq, Repr

namespace Statement

/-- A line without its comment and the blanks around what is left. -/
def tidy (line : Text) : Text := Text.trim (line.takeWhile (· != ';'))

/-- Text with more opening than closing parentheses. -/
def isOpen (text : Text) : Bool := text.count ')' < text.count '('

/-- Text followed by the text of a further line. -/
def joined (text further : Text) : Text := Text.trim (text ++ ' ' :: further)

/-- Takes in a line, where `collected` are the statements so far, the latest one first. The first
component is the text that the line belongs to. -/
def absorb (continued : Bool) (collected : List Statement) (line : Text) (number : Int) :
    Text × List Statement :=
  let piece := tidy line
  match continued, collected with
  | true, latest :: earlier =>
    let text := joined latest.text piece
    (text, ⟨text, latest.number⟩ :: earlier)
  | _, _ => (piece, if piece.isEmpty then collected else ⟨piece, number⟩ :: collected)

/-- Takes in lines with consecutive numbers; each line says whether the next one goes on. -/
def absorbAll (continued : Bool) (collected : List Statement) (number : Int) :
    List Text → List Statement
  | [] => collected
  | line :: rest =>
    let (text, collected') := absorb continued collected line number
    absorbAll (isOpen text) collected' (number + 1) rest

/-- The statements of a file, in order. -/
def group (lines : List Text) : List Statement := (absorbAll false [] 1 lines).reverse

end Statement

end ParenCalc
