import ParenCalc.Proofs.Reader.Cut
import ParenCalc.Proofs.Statement.Grouping
import ParenCalc.Session

/-! # A file is read as a whole

A session on a file adds one statement after the other, yet where the lines are divided, which of
them are blank and what the comments say makes no difference: what is queued, or the fault that is
signalled, is what reading the tokens of all the lines at once gives. All statements but the last
are closed, so the tokens are cut only where the reader has no list open.
-/

namespace ParenCalc.Session

/-- The outcome of adding statements to a session is what reading their tokens gives: the
expressions are put at the end of the queue, or the fault is signalled. -/
def Queues (session : Session) (outcome : Outcome Session Unit) :
    Except ReadFault (List (Expr Builtin)) → Prop
  | .ok exprs =>
    outcome.ending = .ok () ∧
      outcome.state.queue.map Queued.expr = session.queue.map Queued.expr ++ exprs
  | .error fault => outcome.ending = .error fault.signal

/-- Adding one statement. -/
theorem queues_add (session : Session) (statement : Statement) :
    session.Queues (session.add statement) (Expr.readAll statement.tokens) := by
  unfold Statement.tokens
  cases read : Expr.readAll (F := Builtin) (Token.tokenize statement.text) with
  | error fault => simp [Queues, add, read]
  | ok exprs => simp [Queues, add, read, release, Function.comp_def]

/-- Adding more after what has been added. -/
theorem Queues.andThen {session : Session} {first : Outcome Session Unit}
    {next : Session → Outcome Session Unit} {read others : Except ReadFault (List (Expr Builtin))}
    (one : session.Queues first read) (two : first.state.Queues (next first.state) others) :
    session.Queues (first.andThen fun state _ => next state)
      (read >>= fun exprs => others.map (exprs ++ ·)) := by
  unfold Outcome.andThen
  cases read with
  | error fault =>
    have failed : first.ending = .error fault.signal := one
    rw [failed]
    rfl
  | ok exprs =>
    obtain ⟨success, queued⟩ := one
    rw [success]
    cases others with
    | error fault => exact two
    | ok more =>
      obtain ⟨done, queue⟩ := two
      refine ⟨done, queue.trans ?_⟩
      rw [queued, List.append_assoc]

/-- The tokens of the first statement can be read apart from those of the others. -/
theorem readAll_statements_cons (statement : Statement) (rest : List Statement)
    (closed : ∀ other ∈ (statement :: rest).dropLast, Statement.isOpen other.text = false) :
    Expr.readAll (F := Builtin) ((statement :: rest).flatMap Statement.tokens) =
      Expr.readAll statement.tokens >>= fun exprs =>
        (Expr.readAll (rest.flatMap Statement.tokens)).map (exprs ++ ·) := by
  rw [List.flatMap_cons]
  cases rest with
  | nil =>
    rw [List.flatMap_nil, List.append_nil]
    cases Expr.readAll (F := Builtin) statement.tokens with
    | error fault => rfl
    | ok exprs => exact congrArg Except.ok (List.append_nil exprs).symm
  | cons next others =>
    apply Expr.readAllFrom_append
    have settled := closed statement (List.mem_cons_self ..)
    simp only [Statement.isOpen, decide_eq_false_iff_not, Nat.not_lt] at settled
    rw [Statement.tokens, Token.count_opening_tokenize, Token.count_closing_tokenize]
    exact settled

/-- Adding statements of which only the last may be open. -/
theorem queues_addAll (session : Session) (statements : List Statement)
    (closed : ∀ statement ∈ statements.dropLast, Statement.isOpen statement.text = false) :
    session.Queues (session.addAll statements)
      (Expr.readAll (statements.flatMap Statement.tokens)) := by
  induction statements generalizing session with
  | nil => exact ⟨rfl, (List.append_nil _).symm⟩
  | cons statement rest ih =>
    rw [readAll_statements_cons statement rest closed]
    apply (session.queues_add statement).andThen
    apply ih
    intro other member
    apply closed other
    cases rest with
    | nil => contradiction
    | cons next others => exact List.mem_cons_of_mem _ member

/-- Opening a session on a file queues the expressions that the tokens of all its lines give when
they are read at once, and fails exactly as that reading fails. -/
theorem start_reads_whole_file (handler : Handler) (documents : Documents) (settings : Settings)
    (lines : List Text) (named : settings.path ≠ typedPath)
    (readable : readLines documents settings.path = .ok lines) :
    let whole := lines.flatMap fun line => Token.tokenize (line.takeWhile (· != ';'))
    let outcome := start handler documents settings
    (∀ exprs, Expr.readAll whole = .ok exprs →
      outcome.ending = .ok () ∧ outcome.state.queue.map Queued.expr = exprs) ∧
    ∀ fault, Expr.readAll (F := Builtin) whole = .error fault →
      outcome.ending = .error fault.signal := by
  intro whole outcome
  have started : outcome = (fresh handler settings).addAll (Statement.group lines) := by
    simp only [outcome, start, if_neg named, readable]
  have queued := queues_addAll (fresh handler settings) _ (Statement.closed_group lines)
  rw [Statement.tokens_group, ← started] at queued
  change Queues _ outcome (Expr.readAll whole) at queued
  refine ⟨?_, ?_⟩
  · intro exprs read
    rw [read] at queued
    exact queued
  · intro fault read
    rw [read] at queued
    exact queued

/-- A list over three lines, of which one is blank and one has a parenthesis in its comment. -/
theorem start_reads_whole_file_divided :
    let documents : Documents := fun _ =>
      some ("(f ; (\n\n x) y\n".toList.map fun c => UInt8.ofNat c.toNat)
    let settings : Settings := { path := ['p'] }
    let lines := ["(f ; (".toList, [], " x) y".toList]
    let exprs := [.list [.symbol ['f'], .symbol ['x']], .symbol ['y']]
    settings.path ≠ typedPath ∧ readLines documents settings.path = .ok lines ∧
    Expr.readAll (lines.flatMap fun line => Token.tokenize (line.takeWhile (· != ';'))) = .ok exprs ∧
    (start {} documents settings).ending = .ok () ∧
    (start {} documents settings).state.queue.map Queued.expr = exprs := by
  intro documents settings lines exprs
  have named : settings.path ≠ typedPath := by decide
  have readable : readLines documents settings.path = .ok lines := by rfl
  have read : Expr.readAll (F := Builtin)
      (lines.flatMap fun line => Token.tokenize (line.takeWhile (· != ';'))) = .ok exprs := by rfl
  exact ⟨named, readable, read,
    (start_reads_whole_file {} documents settings lines named readable).1 exprs read⟩

end ParenCalc.Session
