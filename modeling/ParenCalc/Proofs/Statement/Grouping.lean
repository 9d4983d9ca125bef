import ParenCalc.Proofs.Token.Scan
import ParenCalc.Statement

/-! # Statements and their tokens

While lines are taken in, a line goes on with the latest statement exactly when that statement is
open, so the flag that is carried from line to line can be read off what has been collected. All
statements but the latest are then closed, and the tokens of the statements, one after the other,
are the tokens of the lines without their comments.
-/

namespace ParenCalc.Statement

/-- The tokens of a statement. -/
def tokens (statement : Statement) : List Token := Token.tokenize statement.text

/-- A line without its comment. -/
def uncommented (line : Text) : Text := line.takeWhile (· != ';')

theorem isOpen_iff (text : Text) : isOpen text = true ↔ text.count ')' < text.count '(' :=
  decide_eq_true_iff

/-- The next line goes on with the latest of the statements collected so far. -/
def goesOn : List Statement → Bool
  | [] => false
  | latest :: _ => isOpen latest.text

/-- The statements collected, with a line taken in. -/
def extended (collected : List Statement) (line : Text) (number : Int) : List Statement :=
  (absorb (goesOn collected) collected line number).2

/-- A line continues the latest statement, starts a new one, or leaves nothing. -/
theorem absorb_cases (collected : List Statement) (line : Text) (number : Int) :
    (∃ latest earlier, collected = latest :: earlier ∧ isOpen latest.text = true ∧
      absorb (goesOn collected) collected line number =
        (joined latest.text (tidy line),
          ⟨joined latest.text (tidy line), latest.number⟩ :: earlier)) ∨
    (goesOn collected = false ∧ tidy line ≠ [] ∧
      absorb (goesOn collected) collected line number =
        (tidy line, ⟨tidy line, number⟩ :: collected)) ∨
    (goesOn collected = false ∧ tidy line = [] ∧
      absorb (goesOn collected) collected line number = ([], collected)) := by
  cases continued : goesOn collected with
  | true =>
    cases collected with
    | nil => contradiction
    | cons latest earlier => exact .inl ⟨latest, earlier, rfl, continued, rfl⟩
  | false =>
    by_cases blank : tidy line = []
    · exact .inr (.inr ⟨rfl, blank, by simp [absorb, blank]⟩)
    · exact .inr (.inl ⟨rfl, blank, by simp [absorb, blank]⟩)

/-- What a line says about the next one is what the statements say about it. -/
theorem isOpen_absorb (collected : List Statement) (line : Text) (number : Int) :
    isOpen (absorb (goesOn collected) collected line number).1 =
      goesOn (extended collected line number) := by
  unfold extended
  obtain ⟨latest, earlier, -, -, taken⟩ | ⟨-, -, taken⟩ | ⟨settled, -, taken⟩ :=
    absorb_cases collected line number
  · rw [taken, goesOn]
  · rw [taken, goesOn]
  · rw [taken, settled]
    rfl

/-- All the statements but the latest are closed. -/
theorem closed_extended {collected : List Statement} (line : Text) (number : Int)
    (closed : ∀ statement ∈ collected.tail, isOpen statement.text = false) :
    ∀ statement ∈ (extended collected line number).tail, isOpen statement.text = false := by
  unfold extended
  obtain ⟨latest, earlier, rfl, -, taken⟩ | ⟨settled, -, taken⟩ | ⟨-, -, taken⟩ :=
    absorb_cases collected line number
  · rw [taken]
    exact closed
  · rw [taken]
    intro statement member
    cases collected with
    | nil => contradiction
    | cons latest earlier =>
      rcases List.mem_cons.mp member with rfl | earlier
      · exact settled
      · exact closed statement earlier
  · rw [taken]
    exact closed

theorem tokenize_tidy (line : Text) :
    Token.tokenize (tidy line) = Token.tokenize (uncommented line) :=
  Token.tokenize_trim (uncommented line)

theorem tokenize_joined (text further : Text) :
    Token.tokenize (joined text further) = Token.tokenize text ++ Token.tokenize further := by
  rw [joined, Token.tokenize_trim, Token.tokenize_append_blank _ _ _ (by decide)]

/-- A line adds its tokens to those of the statements. -/
theorem tokens_extended (collected : List Statement) (line : Text) (number : Int) :
    (extended collected line number).reverse.flatMap tokens =
      collected.reverse.flatMap tokens ++ Token.tokenize (uncommented line) := by
  rw [← tokenize_tidy, extended]
  obtain ⟨latest, earlier, rfl, -, taken⟩ | ⟨-, -, taken⟩ | ⟨-, blank, taken⟩ :=
    absorb_cases collected line number
  · simp [taken, tokens, tokenize_joined]
  · simp [taken, tokens]
  · simp [taken, blank, Token.tokenize]

/-- Lines are taken in one after the other. -/
theorem absorbAll_cons (collected : List Statement) (number : Int) (line : Text) (rest : List Text) :
    absorbAll (goesOn collected) collected number (line :: rest) =
      absorbAll (goesOn (extended collected line number)) (extended collected line number)
        (number + 1) rest := by
  change absorbAll (isOpen (absorb (goesOn collected) collected line number).1) _ _ _ = _
  rw [isOpen_absorb]
  rfl

theorem closed_absorbAll {collected : List Statement} (number : Int) (lines : List Text)
    (closed : ∀ statement ∈ collected.tail, isOpen statement.text = false) :
    ∀ statement ∈ (absorbAll (goesOn collected) collected number lines).tail,
      isOpen statement.text = false := by
  induction lines generalizing collected number with
  | nil => exact closed
  | cons line rest ih =>
    rw [absorbAll_cons]
    exact ih (number + 1) (closed_extended line number closed)

theorem tokens_absorbAll (collected : List Statement) (number : Int) (lines : List Text) :
    (absorbAll (goesOn collected) collected number lines).reverse.flatMap tokens =
      collected.reverse.flatMap tokens ++ lines.flatMap fun line => Token.tokenize (uncommented line) := by
  induction lines generalizing collected number with
  | nil => simp [absorbAll]
  | cons line rest ih => rw [absorbAll_cons, ih, tokens_extended, List.flatMap_cons, List.append_assoc]

/-- Only the last statement of a file can be open. -/
theorem closed_group (lines : List Text) :
    ∀ statement ∈ (group lines).dropLast, isOpen statement.text = false := by
  intro statement member
  rw [group, List.dropLast_reverse, List.mem_reverse] at member
  have none : ∀ other ∈ ([] : List Statement).tail, isOpen other.text = false := by simp
  exact closed_absorbAll 1 lines none statement member

/-- The statements of a file have the tokens of its lines. -/
theorem tokens_group (lines : List Text) :
    (group lines).flatMap tokens = lines.flatMap fun line => Token.tokenize (uncommented line) := by
  rw [group]
  exact (tokens_absorbAll [] 1 lines).trans (List.nil_append _)

end ParenCalc.Statement
