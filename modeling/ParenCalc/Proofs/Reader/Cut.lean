import ParenCalc.Expr.Reader

/-! # Reading in pieces

Reading all the tokens is a fold: each token takes what has been reached, the finished expressions
and the lists still open, to what is reached after it. As long as nothing fails, the number of open
lists is the surplus of opening parentheses. Hence tokens may be cut wherever the opening
parentheses do not outnumber the closing ones, and the two parts read on their own.
-/

namespace ParenCalc.Expr

variable {F : Type}

/-- The number of lists that are open after a token. -/
def Progress.depth : Progress F → Nat
  | finished _ => 0
  | reading openLists => openLists.length

/-- An expression that is placed opens no list and closes none. -/
@[simp] theorem place_depth (expr : Expr F) (openLists : Open F) :
    (place expr openLists).depth = openLists.length := by
  cases openLists <;> rfl

/-- A token that is accepted opens a list, closes the innermost one, or is an atom. -/
theorem step_eq_ok {limit : Nat} {openLists : Open F} {token : Token} {progress : Progress F}
    (accepted : step limit openLists token = .ok progress) :
    (token = .opening ∧ openLists.length < limit ∧ progress = .reading ([] :: openLists)) ∨
    (∃ elements outer, token = .closing ∧ openLists = elements :: outer ∧
      progress = place (list elements.reverse) outer) ∨
    ∃ name, token = .atom name ∧ progress = place (ofAtom name) openLists := by
  cases token with
  | opening =>
    rw [step] at accepted
    split at accepted
    · next room => exact .inl ⟨rfl, room, (Except.ok.inj accepted).symm⟩
    · contradiction
  | closing =>
    cases openLists with
    | nil => contradiction
    | cons elements outer =>
      exact .inr (.inl ⟨elements, outer, rfl, rfl, (Except.ok.inj accepted).symm⟩)
  | atom name => exact .inr (.inr ⟨name, rfl, (Except.ok.inj accepted).symm⟩)

/-- A parenthesis changes the number of open lists by one, an atom does not change it. -/
theorem step_depth {limit : Nat} {openLists : Open F} {token : Token} {progress : Progress F}
    (accepted : step limit openLists token = .ok progress) :
    progress.depth + [token].count .closing = openLists.length + [token].count .opening := by
  obtain ⟨rfl, -, rfl⟩ | ⟨elements, outer, rfl, rfl, rfl⟩ | ⟨name, rfl, rfl⟩ := step_eq_ok accepted
  · simp [Progress.depth]
  · simp
  · simp

/-- The expressions finished so far, in order, and the lists still open. -/
structure Reached (F : Type) where
  exprs : List (Expr F) := []
  openLists : Open F := []

namespace Reached

/-- What is reached when a token has led to some progress. -/
def extend (reached : Reached F) : Progress F → Reached F
  | .finished expr => ⟨reached.exprs ++ [expr], []⟩
  | .reading openLists => ⟨reached.exprs, openLists⟩

@[simp] theorem extend_openLists_length (reached : Reached F) (progress : Progress F) :
    (reached.extend progress).openLists.length = progress.depth := by
  cases progress <;> rfl

/-- The expressions, where no list is open at the end. -/
def close (reached : Reached F) : Except ReadFault (List (Expr F)) :=
  if reached.openLists.isEmpty then .ok reached.exprs else .error .unclosedList

end Reached

/-- What is reached after one more token. -/
def advance (limit : Nat) (reached : Reached F) (token : Token) : Except ReadFault (Reached F) :=
  (step limit reached.openLists token).map reached.extend

/-- Reading on from what has been reached is the fold over the tokens. -/
theorem foldlM_advance_close (limit : Nat) (reached : Reached F) (tokens : List Token) :
    tokens.foldlM (advance limit) reached >>= Reached.close =
      (readAllFrom limit reached.openLists tokens).map (reached.exprs ++ ·) := by
  induction tokens generalizing reached with
  | nil =>
    change reached.close = _
    unfold Reached.close readAllFrom
    split <;> simp [Except.map]
  | cons token rest ih =>
    rw [List.foldlM_cons, bind_assoc, advance, readAllFrom]
    cases step limit reached.openLists token with
    | error fault => rfl
    | ok progress =>
      refine (ih (reached.extend progress)).trans ?_
      cases progress with
      | finished expr => cases rested : readAllFrom limit [] rest <;> simp [Reached.extend, rested, Except.map]
      | reading openLists => rfl

theorem readAllFrom_eq_foldlM (limit : Nat) (tokens : List Token) :
    readAllFrom (F := F) limit [] tokens = tokens.foldlM (advance limit) {} >>= Reached.close := by
  rw [foldlM_advance_close]
  cases readAllFrom (F := F) limit [] tokens <;> rfl

theorem advance_length {limit : Nat} {reached next : Reached F} {token : Token}
    (success : advance limit reached token = .ok next) :
    next.openLists.length + [token].count .closing =
      reached.openLists.length + [token].count .opening := by
  unfold advance at success
  cases accepted : step limit reached.openLists token with
  | error fault => rw [accepted] at success; contradiction
  | ok progress =>
    rw [accepted] at success
    obtain rfl := Except.ok.inj success
    rw [Reached.extend_openLists_length]
    exact step_depth accepted

/-- After any tokens, the open lists are those that were opened and not closed. -/
theorem foldlM_advance_length {limit : Nat} {reached last : Reached F} {tokens : List Token}
    (success : tokens.foldlM (advance limit) reached = .ok last) :
    last.openLists.length + tokens.count .closing =
      reached.openLists.length + tokens.count .opening := by
  induction tokens generalizing reached with
  | nil =>
    cases success
    rfl
  | cons token rest ih =>
    rw [List.foldlM_cons] at success
    cases taken : advance limit reached token with
    | error fault => rw [taken] at success; contradiction
    | ok next =>
      rw [taken] at success
      have one := advance_length taken
      have others := ih success
      rw [← List.singleton_append, List.count_append, List.count_append]
      omega

/-- Tokens may be cut where the opening parentheses do not outnumber the closing ones. -/
theorem readAllFrom_append (limit : Nat) (first second : List Token)
    (balanced : first.count .opening ≤ first.count .closing) :
    readAllFrom (F := F) limit [] (first ++ second) =
      readAllFrom limit [] first >>= fun exprs => (readAllFrom limit [] second).map (exprs ++ ·) := by
  rw [readAllFrom_eq_foldlM, readAllFrom_eq_foldlM _ first, List.foldlM_append, bind_assoc]
  cases front : first.foldlM (advance limit) ({} : Reached F) with
  | error fault => rfl
  | ok reached =>
    have depth := foldlM_advance_length front
    have none : reached.openLists = [] := by
      apply List.length_eq_zero_iff.mp
      simp only [List.length_nil] at depth
      omega
    change second.foldlM (advance limit) reached >>= Reached.close = reached.close >>= _
    rw [foldlM_advance_close, none]
    simp [Reached.close, none, bind, Except.bind]

end ParenCalc.Expr
