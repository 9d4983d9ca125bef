import ParenCalc.Expr.Reader

/-! # Complaints

A complaint is an error of the language: a reason for the reader, and perhaps the text of the
culprit, which a report underlines. Two complaints are equal when they give the same reason.
-/

namespace ParenCalc

/-- An error of the language. `culprit` is looked for in the source line when `locatable`;
`internal` marks what no source text should bring about. -/
structure Complaint where
  reason : Text
  culprit : Text := []
  locatable : Bool := true
  internal : Bool := false
deriving DecidableEq, Repr

namespace Complaint

/-- Equality with something that may be no complaint at all. -/
def equals (complaint : Complaint) : Option Complaint → Bool
  | some other => complaint.reason == other.reason
  | none => false

end Complaint

/-- How a run may be told to end. -/
inductive ExitStatus where
  | unspecified
  | code (number : Int)
  | message (text : Text)
deriving DecidableEq, Repr

/-- What interrupts a piece of work. -/
inductive Signal where
  /-- An error of the language. -/
  | complaint (complaint : Complaint)
  /-- Nesting beyond the limit. -/
  | overflow
  /-- A request of the user to stop. -/
  | interrupt
  /-- The end of the whole run. -/
  | exit (status : ExitStatus)
  /-- Anything else, by its kind and its message. -/
  | unexpected (kind message : Text)
deriving DecidableEq, Repr

namespace Signal

/-- A text was given for a number and is no numeral. -/
def notANumber (text : Text) : Signal :=
  .unexpected "ValueError".toList
    ("could not convert string to float: ".toList ++ Text.quoted text)

/-- An integer was given for a number and is beyond every finite double. -/
def integerTooLarge : Signal :=
  .unexpected "OverflowError".toList "int too large to convert to float".toList

/-- A position does not exist. -/
def outOfRange : Signal :=
  .unexpected "IndexError".toList "tuple index out of range".toList

/-- A tree was asked for where a place is empty. -/
def noTree : Signal :=
  .unexpected "AttributeError".toList "'NoneType' object has no attribute 'display'".toList

end Signal

/-- How a failure to read is signalled. -/
def ReadFault.signal : ReadFault → Signal
  | emptyInput => .complaint { reason := "empty input".toList }
  | unexpectedClose => .complaint { reason := "unexpected )".toList, culprit := [')'] }
  | unclosedList => .complaint { reason := "could not parse list".toList }
  | tooDeep => .overflow

end ParenCalc
