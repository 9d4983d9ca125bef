import Mathlib.Data.List.Induction
import ParenCalc.Complaint
import ParenCalc.Proofs.Reader.Cut

/-! # Reading is decided by a depth counter

Whether tokens can be read is decided by their parentheses. A counter goes over the tokens from left
to right; it stops at a closing parenthesis that it meets at depth zero, and at an opening one that
would exceed the limit. At every token the reader has as many lists open as the counter says. So the
reader fails where the counter stops, and otherwise it lacks a closing parenthesis exactly when the
counter does not end at zero.
-/

namespace ParenCalc

namespace Token

/-- The depth after a token, unless the counter stops at the token. -/
def counted (limit depth : Nat) : Token → Option Nat
  | opening => if depth < limit then some (depth + 1) else none
  | closing => if depth = 0 then none else some (depth - 1)
  | atom _ => some depth

/-- The depth after all the tokens, unless the counter stops at one of them. -/
def depthAfter (limit : Nat) (tokens : List Token) : Option Nat :=
  tokens.foldlM (counted limit) 0

/-- What the counter finds wrong: it stops at a closing parenthesis, at an opening one, or goes over
all the tokens and does not end at zero. -/
def Finds (limit : Nat) (tokens : List Token) : ReadFault → Prop
  | .unexpectedClose =>
    ∃ front rest, tokens = front ++ closing :: rest ∧ depthAfter limit front = some 0
  | .tooDeep =>
    ∃ front rest, tokens = front ++ opening :: rest ∧ depthAfter limit front = some limit
  | .unclosedList => ∃ depth, depthAfter limit tokens = some (depth + 1)
  | .emptyInput => False

theorem depthAfter_concat (limit : Nat) (tokens : List Token) (token : Token) :
    depthAfter limit (tokens ++ [token]) =
      (depthAfter limit tokens).bind fun depth => counted limit depth token := by
  simp [depthAfter, List.foldlM_append]

theorem counted_le {limit depth next : Nat} {token : Token} (bounded : depth ≤ limit)
    (moved : counted limit depth token = some next) : next ≤ limit := by
  cases token with
  | opening =>
    obtain ⟨room, rfl⟩ : depth < limit ∧ depth + 1 = next := by simpa [counted] using moved
    exact room
  | closing =>
    obtain ⟨-, rfl⟩ : ¬depth = 0 ∧ depth - 1 = next := by simpa [counted] using moved
    omega
  | atom name =>
    cases moved
    exact bounded

/-- The counter never goes beyond the limit. -/
theorem depthAfter_le {limit depth : Nat} {tokens : List Token}
    (counted : depthAfter limit tokens = some depth) : depth ≤ limit := by
  induction tokens using List.reverseRecOn generalizing depth with
  | nil =>
    cases counted
    exact Nat.zero_le _
  | append_singleton tokens token ih =>
    rw [depthAfter_concat] at counted
    obtain ⟨before, earlier, moved⟩ := Option.bind_eq_some_iff.mp counted
    exact counted_le (ih earlier) moved

/-- The counter stops at a parenthesis, or it goes over all the tokens. -/
theorem depth_cases (limit : Nat) (tokens : List Token) :
    Finds limit tokens .unexpectedClose ∨ Finds limit tokens .tooDeep ∨
      ∃ depth, depthAfter limit tokens = some depth := by
  induction tokens using List.reverseRecOn with
  | nil => exact .inr (.inr ⟨0, rfl⟩)
  | append_singleton tokens token ih =>
    obtain ⟨front, rest, rfl, ground⟩ | ⟨front, rest, rfl, full⟩ | ⟨depth, earlier⟩ := ih
    · exact .inl ⟨front, rest ++ [token], by simp, ground⟩
    · exact .inr (.inl ⟨front, rest ++ [token], by simp, full⟩)
    · -- the last token is the first one that can stop the counter
      have moved := depthAfter_concat limit tokens token
      rw [earlier, Option.bind_some] at moved
      cases token with
      | opening =>
        by_cases room : depth < limit
        · exact .inr (.inr ⟨depth + 1, by simpa [counted, room] using moved⟩)
        · have full : depth = limit := by
            have bounded := depthAfter_le earlier
            omega
          exact .inr (.inl ⟨tokens, [], rfl, full ▸ earlier⟩)
      | closing =>
        by_cases ground : depth = 0
        · exact .inl ⟨tokens, [], rfl, ground ▸ earlier⟩
        · exact .inr (.inr ⟨depth - 1, by simpa [counted, ground] using moved⟩)
      | atom name => exact .inr (.inr ⟨depth, moved⟩)

/-- The counter finds something wrong, or it ends at zero. -/
theorem finds_or_depthAfter_eq_zero (limit : Nat) (tokens : List Token) :
    (∃ fault, Finds limit tokens fault) ∨ depthAfter limit tokens = some 0 := by
  obtain surplus | excess | ⟨depth, counted⟩ := depth_cases limit tokens
  · exact .inl ⟨_, surplus⟩
  · exact .inl ⟨_, excess⟩
  · cases depth with
    | zero => exact .inr counted
    | succ depth => exact .inl ⟨.unclosedList, depth, counted⟩

end Token

namespace Expr

variable {F : Type}

/-! ## The counter and the open lists -/

/-- The counter moves as the number of open lists does, and stops where the reader fails. -/
theorem counted_length (limit : Nat) (reached : Reached F) (token : Token) :
    Token.counted limit reached.openLists.length token =
      (advance limit reached token).toOption.map fun next => next.openLists.length := by
  obtain ⟨exprs, openLists⟩ := reached
  cases token with
  | opening =>
    by_cases room : openLists.length < limit
    · simp [Token.counted, advance, step, room, Except.map, Except.toOption, Progress.depth]
    · simp [Token.counted, advance, step, room, Except.map, Except.toOption]
  | closing =>
    cases openLists with
    | nil => rfl
    | cons elements outer => simp [Token.counted, advance, step, Except.map, Except.toOption]
  | atom name => simp [Token.counted, advance, step, Except.map, Except.toOption]

theorem foldlM_counted (limit : Nat) (reached : Reached F) (tokens : List Token) :
    tokens.foldlM (Token.counted limit) reached.openLists.length =
      (tokens.foldlM (advance limit) reached).toOption.map fun last => last.openLists.length := by
  induction tokens generalizing reached with
  | nil => rfl
  | cons token rest ih =>
    rw [List.foldlM_cons, List.foldlM_cons, counted_length]
    cases advance limit reached token with
    | error fault => rfl
    | ok next => exact ih next

/-- Where the counter does not stop, the reader has as many lists open as it says. -/
theorem exists_reached {limit depth : Nat} {tokens : List Token}
    (counted : Token.depthAfter limit tokens = some depth) :
    ∃ reached : Reached F, tokens.foldlM (advance limit) {} = .ok reached ∧
      reached.openLists.length = depth := by
  have same := foldlM_counted limit ({} : Reached F) tokens
  change Token.depthAfter limit tokens = _ at same
  rw [counted] at same
  cases read : tokens.foldlM (advance limit) ({} : Reached F) with
  | error fault => rw [read] at same; cases same
  | ok reached =>
    rw [read] at same
    exact ⟨reached, rfl, (Option.some.inj same).symm⟩

/-! ## What is read -/

/-- A token that the reader refuses ends the reading, whatever follows it. -/
theorem readAllFrom_of_refused {limit : Nat} {front rest : List Token} {token : Token}
    {reached : Reached F} {fault : ReadFault} (read : front.foldlM (advance limit) {} = .ok reached)
    (refused : step limit reached.openLists token = .error fault) :
    readAllFrom (F := F) limit [] (front ++ token :: rest) = .error fault := by
  have stopped : advance limit reached token = .error fault := by
    rw [advance, refused]
    rfl
  rw [readAllFrom_eq_foldlM, List.foldlM_append, read]
  change (token :: rest).foldlM (advance limit) reached >>= Reached.close = _
  rw [List.foldlM_cons, stopped]
  rfl

/-- Where the counter does not stop, the lists that are open at the end decide. -/
theorem readAllFrom_of_depth {limit depth : Nat} {tokens : List Token}
    (counted : Token.depthAfter limit tokens = some depth) :
    ∃ reached : Reached F, reached.openLists.length = depth ∧
      readAllFrom limit [] tokens = reached.close := by
  obtain ⟨reached, read, length⟩ := exists_reached (F := F) counted
  refine ⟨reached, length, ?_⟩
  rw [readAllFrom_eq_foldlM, read]
  rfl

/-- What the counter finds wrong is what the reader fails with. -/
theorem readAllFrom_of_finds {limit : Nat} {tokens : List Token} {fault : ReadFault}
    (found : Token.Finds limit tokens fault) : readAllFrom (F := F) limit [] tokens = .error fault := by
  cases fault with
  | emptyInput => exact found.elim
  | unexpectedClose =>
    obtain ⟨front, rest, rfl, ground⟩ := found
    obtain ⟨reached, read, none⟩ := exists_reached (F := F) ground
    apply readAllFrom_of_refused read
    rw [List.length_eq_zero_iff.mp none]
    rfl
  | tooDeep =>
    obtain ⟨front, rest, rfl, full⟩ := found
    obtain ⟨reached, read, all⟩ := exists_reached (F := F) full
    apply readAllFrom_of_refused read
    rw [step, if_neg (by omega)]
  | unclosedList =>
    obtain ⟨depth, counted⟩ := found
    obtain ⟨reached, length, read⟩ := readAllFrom_of_depth (F := F) counted
    have inside : reached.openLists ≠ [] := List.ne_nil_of_length_eq_add_one length
    simp [read, Reached.close, inside]

theorem exists_readAllFrom_eq_ok {limit : Nat} {tokens : List Token}
    (counted : Token.depthAfter limit tokens = some 0) :
    ∃ exprs : List (Expr F), readAllFrom limit [] tokens = .ok exprs := by
  obtain ⟨reached, length, read⟩ := readAllFrom_of_depth (F := F) counted
  refine ⟨reached.exprs, ?_⟩
  simp [read, Reached.close, List.length_eq_zero_iff.mp length]

theorem readAllFrom_eq_error_iff (limit : Nat) (tokens : List Token) (fault : ReadFault) :
    readAllFrom (F := F) limit [] tokens = .error fault ↔ Token.Finds limit tokens fault := by
  constructor
  · intro failed
    obtain ⟨other, found⟩ | counted := Token.finds_or_depthAfter_eq_zero limit tokens
    · cases failed.symm.trans (readAllFrom_of_finds found)
      exact found
    · obtain ⟨exprs, read⟩ := exists_readAllFrom_eq_ok (F := F) counted
      cases failed.symm.trans read
  · exact readAllFrom_of_finds

theorem exists_readAllFrom_eq_ok_iff (limit : Nat) (tokens : List Token) :
    (∃ exprs : List (Expr F), readAllFrom limit [] tokens = .ok exprs) ↔
      Token.depthAfter limit tokens = some 0 := by
  constructor
  · rintro ⟨exprs, read⟩
    obtain ⟨fault, found⟩ | counted := Token.finds_or_depthAfter_eq_zero limit tokens
    · cases read.symm.trans (readAllFrom_of_finds found)
    · exact counted
  · exact exists_readAllFrom_eq_ok

theorem signal_injective : Function.Injective ReadFault.signal := by
  intro first second
  cases first <;> cases second <;> decide

/-- Complaints with the same reason come from the same fault of reading. -/
theorem eq_of_reason {fault other : ReadFault} {complaint named : Complaint}
    (signal : fault.signal = .complaint complaint) (expected : other.signal = .complaint named)
    (same : complaint.reason = named.reason) : fault = other := by
  cases fault <;> cases other <;> cases signal <;> cases expected <;> revert same <;> decide

/-- A fault of reading can be told from what is signalled. -/
theorem mapError_signal_eq_error_iff (limit : Nat) (tokens : List Token) (fault : ReadFault) :
    (readAllFrom (F := F) limit [] tokens).mapError ReadFault.signal = .error fault.signal ↔
      Token.Finds limit tokens fault := by
  rw [← readAllFrom_eq_error_iff (F := F)]
  cases readAllFrom (F := F) limit [] tokens with
  | error other => simp [Except.mapError, signal_injective.eq_iff]
  | ok exprs => simp [Except.mapError]

/-- The outcome of reading is decided by the depth counter, under the limit of `readAll` and under every
other. A surplus closing parenthesis is signalled when the counter stops at one, too deep nesting when
it stops at an opening parenthesis, and an unclosed list when it does not stop and ends above zero. The
tokens are read exactly when it does not stop and ends at zero, and an empty input is never complained
of. -/
theorem readAll_decided_by_depth (tokens : List Token) :
    readAll (F := F) tokens = readAllFrom nestingLimit [] tokens ∧
    ∀ limit,
      let outcome := (readAllFrom (F := F) limit [] tokens).mapError ReadFault.signal
      (outcome = .error (.complaint { reason := "unexpected )".toList, culprit := [')'] }) ↔
        ∃ front rest, tokens = front ++ .closing :: rest ∧
          Token.depthAfter limit front = some 0) ∧
      (outcome = .error .overflow ↔
        ∃ front rest, tokens = front ++ .opening :: rest ∧
          Token.depthAfter limit front = some limit) ∧
      (outcome = .error (.complaint { reason := "could not parse list".toList, culprit := [] }) ↔
        ∃ depth, Token.depthAfter limit tokens = some (depth + 1)) ∧
      ((∃ exprs, outcome = .ok exprs) ↔ Token.depthAfter limit tokens = some 0) ∧
      outcome ≠ .error (.complaint { reason := "empty input".toList }) := by
  refine ⟨rfl, ?_⟩
  intro limit outcome
  refine ⟨?_, ?_, ?_, ?_, ?_⟩
  · exact mapError_signal_eq_error_iff limit tokens .unexpectedClose
  · exact mapError_signal_eq_error_iff limit tokens .tooDeep
  · exact mapError_signal_eq_error_iff limit tokens .unclosedList
  · rw [← exists_readAllFrom_eq_ok_iff (F := F)]
    apply exists_congr
    intro exprs
    cases read : readAllFrom (F := F) limit [] tokens <;> simp [outcome, read, Except.mapError]
  · exact fun asked => (mapError_signal_eq_error_iff limit tokens .emptyInput).mp asked

end Expr

end ParenCalc
