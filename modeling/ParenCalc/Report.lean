import ParenCalc.Complaint

/-! # Reports

A report gives the source lines that were being worked on, the reason of a complaint, and, where
the culprit is found in the last of these lines, the line again with the culprit underlined. The
underlined occurrence is the first one.
-/

namespace ParenCalc

/-- What is put around emphasised text. -/
structure Emphasis where
  before : Text
  after : Text
deriving DecidableEq, Repr

namespace Emphasis

def plain : Emphasis := ⟨[], []⟩

def escape : Char := '\x1b'

/-- Bold and red, by terminal control sequences. -/
def boldRed : Emphasis :=
  ⟨escape :: "[1m".toList ++ escape :: "[31m".toList, escape :: "[0m".toList⟩

/-- Emphasised text, even where it is empty. -/
def mark (emphasis : Emphasis) (text : Text) : Text :=
  emphasis.before ++ text ++ emphasis.after

@[simp] theorem mark_plain (text : Text) : plain.mark text = text := by
  simp [mark, plain]

end Emphasis

/-- A source line cut at the first occurrence of a culprit. -/
structure Diagnosis where
  before : Text
  culprit : Text
  after : Text
deriving DecidableEq, Repr

namespace Diagnosis

/-- The first occurrence of a culprit in a line. -/
def locate? (culprit : Text) : Text → Option Diagnosis
  | [] => if culprit.isEmpty then some ⟨[], culprit, []⟩ else none
  | c :: rest =>
    if culprit.isPrefixOf (c :: rest) then
      some ⟨[], culprit, (c :: rest).drop culprit.length⟩
    else (locate? culprit rest).map fun found => { found with before := c :: found.before }

/-- The line, and below it a mark under each character of the culprit, at least one. -/
def render (emphasis : Emphasis) (diagnosis : Diagnosis) : Text :=
  "  ".toList ++ diagnosis.before ++ emphasis.mark diagnosis.culprit ++ diagnosis.after
    ++ '\n' :: "  ".toList ++ Text.spaces diagnosis.before.length
    ++ emphasis.mark ('^' :: List.replicate (diagnosis.culprit.length - 1) '~')

end Diagnosis

/-- A source line that was being worked on. -/
structure Heading where
  path : Text
  line : Text
  number : Option Int
deriving DecidableEq, Repr

/-- The path and number of a line, and the line itself below them. -/
def Heading.render (heading : Heading) : Text :=
  "  File '".toList ++ heading.path ++ "', line ".toList
    ++ (heading.number.map Text.ofInt).getD "None".toList ++ ":\n    ".toList
    ++ heading.line ++ ['\n']

/-- A complaint with the lines it arose from. -/
structure Report where
  headings : List Heading
  complaint : Complaint
deriving DecidableEq, Repr

namespace Report

/-- The culprit in the last line, for a complaint that is to be located and names one. -/
def diagnosis? (report : Report) : Option Diagnosis :=
  let complaint := report.complaint
  if complaint.internal || complaint.culprit.isEmpty || !complaint.locatable then none
  else report.headings.getLast?.bind fun heading =>
    Diagnosis.locate? complaint.culprit heading.line

/-- The headings, the reason and the diagnosis, each ending its line. -/
def render (emphasis : Emphasis) (report : Report) : Text :=
  report.headings.flatMap Heading.render
    ++ (if report.complaint.internal then emphasis.mark "[internal] ".toList else [])
    ++ emphasis.mark "error: ".toList ++ report.complaint.reason ++ ['\n']
    ++ match report.diagnosis? with
      | some diagnosis => diagnosis.render emphasis ++ ['\n']
      | none => []

end Report

end ParenCalc
