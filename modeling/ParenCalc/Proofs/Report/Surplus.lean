import ParenCalc.Builtin
import ParenCalc.Proofs.Reader.Depth
import ParenCalc.Proofs.Report.Marks
import ParenCalc.Proofs.Token.Scan

/-! # A surplus closing parenthesis in its line

The reader refuses the first closing parenthesis that closes no list. The complaint names a closing
parenthesis as its culprit, without its place, and the diagnosis looks for the first one in the line.
The two are the same exactly when no list is opened before the refused one. After a complete list, the
marks stand below a parenthesis that closes this list.
-/

namespace ParenCalc

namespace Text

/-- The number of open lists after a character; a closing parenthesis that closes none leaves none. -/
def level (depth : Nat) (c : Char) : Nat :=
  if c = '(' then depth + 1 else if c = ')' then depth - 1 else depth

/-- The columns of the closing parentheses that close no earlier opening one. -/
def strays (text : Text) : Set Nat :=
  {column | text[column]? = some ')' ∧ (text.take column).foldl level 0 = 0}

/-- Every closing parenthesis closes a list, when `depth` of them are open before the text. -/
def Closes (depth : Nat) (text : Text) : Prop :=
  ∀ column, text[column]? = some ')' → (text.take column).foldl level depth ≠ 0

theorem level_of_other {c : Char} (notOpening : c ≠ '(') (notClosing : c ≠ ')') (depth : Nat) :
    level depth c = depth := by
  simp [level, notOpening, notClosing]

theorem closes_nil (depth : Nat) : Closes depth [] := by
  simp [Closes]

theorem closes_cons_iff (depth : Nat) (c : Char) (rest : Text) :
    Closes depth (c :: rest) ↔ (c = ')' → depth ≠ 0) ∧ Closes (level depth c) rest := by
  constructor
  · intro closes
    refine ⟨?_, fun column => closes (column + 1)⟩
    rintro rfl
    exact closes 0 rfl
  · rintro ⟨first, others⟩ column closing
    cases column with
    | zero => exact first (Option.some.inj closing)
    | succ column => exact others column closing

/-- Without opening parentheses no list is open. -/
theorem level_of_not_mem_opening {text : Text} (none : '(' ∉ text) : text.foldl level 0 = 0 := by
  induction text with
  | nil => rfl
  | cons c rest ih =>
    obtain ⟨other, others⟩ : '(' ≠ c ∧ '(' ∉ rest := by simpa using none
    have ground : level 0 c = 0 := by simp [level, other.symm]
    rw [List.foldl_cons, ground, ih others]

/-- Without closing parentheses every list stays open. -/
theorem level_of_not_mem_closing {text : Text} (none : ')' ∉ text) (depth : Nat) :
    text.foldl level depth = depth + text.count '(' := by
  induction text generalizing depth with
  | nil => rfl
  | cons c rest ih =>
    obtain ⟨other, others⟩ : ')' ≠ c ∧ ')' ∉ rest := by simpa using none
    rw [List.foldl_cons, ih others, List.count_cons]
    by_cases opening : c = '('
    · subst opening
      have deeper : level depth '(' = depth + 1 := rfl
      rw [deeper, beq_self_eq_true, if_pos rfl]
      omega
    · simp [level_of_other opening other.symm, opening]

/-- The first closing parenthesis closes no list exactly when no list is opened before the first one
that closes none. -/
theorem first_eq_stray_iff {text : Text} {first stray : Nat}
    (leftmost : IsLeast {column | text[column]? = some ')'} first) (least : IsLeast (strays text) stray) :
    first = stray ↔ '(' ∉ text.take stray := by
  obtain ⟨⟨closing, ground⟩, earliest⟩ := least
  constructor
  · rintro rfl
    have none : ')' ∉ text.take first := by
      intro member
      obtain ⟨column, before⟩ := List.mem_iff_getElem?.mp member
      rw [List.getElem?_take] at before
      split at before
      · next inside => exact absurd (leftmost.2 before) (by omega)
      · cases before
    rw [level_of_not_mem_closing none, Nat.zero_add] at ground
    exact List.count_eq_zero.mp ground
  · intro none
    have before : first ≤ stray := leftmost.2 closing
    have level : (text.take first).foldl level 0 = 0 := by
      apply level_of_not_mem_opening
      exact fun opening => none ((List.take_sublist_take_left before).subset opening)
    exact le_antisymm before (earliest ⟨leftmost.1, level⟩)

end Text

namespace Token

/-- A run of ordinary characters does not move the counter. -/
theorem foldlM_counted_flush (limit depth : Nat) (run : Text) (tokens : List Token) :
    (flush run ++ tokens).foldlM (counted limit) depth = tokens.foldlM (counted limit) depth := by
  unfold flush
  split <;> rfl

/-- Where the counter goes over a text, every closing parenthesis closes a list, and the counter ends
at the number of open lists. -/
theorem closes_of_scan {limit depth last : Nat} {run text : Text}
    (count : (scan run text).foldlM (counted limit) depth = some last) :
    text.foldl Text.level depth = last ∧ text.Closes depth := by
  fun_induction scan run text generalizing depth with
  | case1 run =>
    rw [← List.append_nil (flush run), foldlM_counted_flush] at count
    exact ⟨Option.some.inj count, Text.closes_nil depth⟩
  | case2 run rest ih =>
    rw [foldlM_counted_flush, List.foldlM_cons] at count
    obtain ⟨next, moved, count⟩ := Option.bind_eq_some_iff.mp count
    obtain ⟨-, rfl⟩ : depth < limit ∧ depth + 1 = next := by simpa [counted] using moved
    obtain ⟨level, closes⟩ := ih count
    exact ⟨level, (Text.closes_cons_iff ..).mpr ⟨fun closing => absurd closing (by decide), closes⟩⟩
  | case3 run rest _ ih =>
    rw [foldlM_counted_flush, List.foldlM_cons] at count
    obtain ⟨next, moved, count⟩ := Option.bind_eq_some_iff.mp count
    obtain ⟨inside, rfl⟩ : ¬depth = 0 ∧ depth - 1 = next := by simpa [counted] using moved
    obtain ⟨level, closes⟩ := ih count
    exact ⟨level, (Text.closes_cons_iff ..).mpr ⟨fun _ => inside, closes⟩⟩
  | case4 run c rest notOpening notClosing _ ih =>
    rw [foldlM_counted_flush] at count
    rw [List.foldl_cons, Text.closes_cons_iff, Text.level_of_other notOpening notClosing]
    obtain ⟨level, closes⟩ := ih count
    exact ⟨level, fun closing => absurd closing notClosing, closes⟩
  | case5 run c rest notOpening notClosing _ ih =>
    rw [List.foldl_cons, Text.closes_cons_iff, Text.level_of_other notOpening notClosing]
    obtain ⟨level, closes⟩ := ih count
    exact ⟨level, fun closing => absurd closing notClosing, closes⟩

/-- A closing parenthesis among the tokens does not belong to a run of ordinary characters. -/
theorem exists_of_flush_append {run : Text} {tokens front rest : List Token}
    (split : flush run ++ tokens = front ++ closing :: rest) :
    ∃ between, front = flush run ++ between ∧ tokens = between ++ closing :: rest := by
  rcases List.append_eq_append_iff.mp split with ⟨between, here, there⟩ | ⟨between, here, there⟩
  · exact ⟨between, here, there⟩
  · cases between with
    | nil => exact ⟨[], by simpa using here.symm, there.symm⟩
    | cons token others =>
      obtain rfl := (List.cons.inj there).1
      have none := count_flush run closing (.inr rfl)
      rw [here, List.count_eq_zero] at none
      exact absurd (List.mem_append_right _ List.mem_cons_self) none

/-- Tokens before a closing parenthesis are the tokens of what stands before it in the text. -/
theorem exists_of_scan {run text : Text} {front rest : List Token}
    (split : scan run text = front ++ closing :: rest) :
    ∃ before after, text = before ++ ')' :: after ∧ scan run before = front := by
  fun_induction scan run text generalizing front with
  | case1 run =>
    rw [← List.append_nil (flush run)] at split
    obtain ⟨between, -, none⟩ := exists_of_flush_append split
    cases between <;> cases none
  | case2 run text ih =>
    obtain ⟨between, rfl, tokens⟩ := exists_of_flush_append split
    cases between with
    | nil => cases tokens
    | cons first others =>
      obtain ⟨rfl, later⟩ := List.cons.inj tokens
      obtain ⟨before, after, rfl, rfl⟩ := ih later
      exact ⟨'(' :: before, after, rfl, rfl⟩
  | case3 run text _ ih =>
    obtain ⟨between, rfl, tokens⟩ := exists_of_flush_append split
    cases between with
    | nil => exact ⟨[], text, rfl, by simp [scan]⟩
    | cons first others =>
      obtain ⟨rfl, later⟩ := List.cons.inj tokens
      obtain ⟨before, after, rfl, rfl⟩ := ih later
      exact ⟨')' :: before, after, rfl, rfl⟩
  | case4 run c text notOpening notClosing blank ih =>
    obtain ⟨between, rfl, tokens⟩ := exists_of_flush_append split
    obtain ⟨before, after, rfl, rfl⟩ := ih tokens
    exact ⟨c :: before, after, rfl, by simp [scan, notOpening, notClosing, blank]⟩
  | case5 run c text notOpening notClosing letter ih =>
    obtain ⟨before, after, rfl, rfl⟩ := ih split
    exact ⟨c :: before, after, rfl, by simp [scan, notOpening, notClosing, letter]⟩

end Token

namespace Expr

variable {F : Type}

/-- The parenthesis that the reader refuses is the first one that closes no list. -/
theorem exists_stray {line : Text}
    (refused : readAll (F := F) (Token.tokenize line) = .error .unexpectedClose) :
    ∃ stray, IsLeast (Text.strays line) stray ∧
      ∃ exprs : List (Expr F), readAll (Token.tokenize (line.take stray)) = .ok exprs := by
  obtain ⟨front, rest, split, ground⟩ := (readAllFrom_eq_error_iff _ _ .unexpectedClose).mp refused
  rw [Token.tokenize_eq_scan] at split
  obtain ⟨before, after, rfl, rfl⟩ := Token.exists_of_scan split
  obtain ⟨level, closes⟩ := Token.closes_of_scan ground
  have front : (before ++ ')' :: after).take before.length = before := List.take_left
  refine ⟨before.length, ⟨⟨?_, ?_⟩, ?_⟩, ?_⟩
  · simp
  · rw [front]
    exact level
  · rintro column ⟨closing, outside⟩
    by_contra! earlier
    rw [List.getElem?_append_left earlier] at closing
    rw [List.take_append_of_le_length earlier.le] at outside
    exact closes column closing outside
  · rw [front, Token.tokenize_eq_scan]
    exact exists_readAllFrom_eq_ok ground

/-- A surplus parenthesis is complained of where the reader refuses one. The culprit is the text of a
closing parenthesis, and could be any of them. -/
theorem refused_of_reason {tokens : List Token} {complaint : Complaint}
    (raised : (readAll (F := F) tokens).mapError ReadFault.signal = .error (.complaint complaint))
    (reason : complaint.reason = "unexpected )".toList) :
    readAll (F := F) tokens = .error .unexpectedClose ∧ complaint.culprit = [')'] := by
  cases read : readAll (F := F) tokens with
  | ok exprs =>
    rw [read] at raised
    cases raised
  | error fault =>
    rw [read] at raised
    have signal : fault.signal = .complaint complaint := Except.error.inj raised
    obtain rfl : fault = .unexpectedClose := eq_of_reason signal rfl reason
    obtain rfl := Signal.complaint.inj signal
    exact ⟨rfl, rfl⟩

/-- A complaint of a surplus parenthesis is located at the first closing parenthesis of the line. That is
the parenthesis that closes no list exactly when no list is opened before it. -/
theorem surplus_located_at_first_close (line : Text) (complaint : Complaint)
    (raised : (readAll (F := F) (Token.tokenize line)).mapError ReadFault.signal =
      .error (.complaint complaint))
    (surplus : complaint.reason = "unexpected )".toList) :
    ∃ stray caret, IsLeast (Text.strays line) stray ∧
      (∃ exprs : List (Expr F), readAll (Token.tokenize (line.take stray)) = .ok exprs) ∧
      IsLeast (Diagnosis.columns [')'] line) caret ∧
      (Diagnosis.locate? complaint.culprit line).map (Diagnosis.render .plain) =
        some ("  ".toList ++ line ++ '\n' :: "  ".toList ++ Text.spaces caret ++ ['^']) ∧
      (caret = stray ↔ '(' ∉ line.take stray) := by
  obtain ⟨refused, culprit⟩ := refused_of_reason raised surplus
  obtain ⟨stray, least, read⟩ := exists_stray refused
  have inside : [')'] <:+: line := by
    obtain ⟨before, after, parts⟩ := List.append_of_mem (List.mem_of_getElem? least.1.1)
    exact ⟨before, after, by simp [parts]⟩
  obtain ⟨found, located⟩ := Diagnosis.exists_locate? inside
  have leftmost := Diagnosis.isLeast_of_locate? located
  refine ⟨stray, found.before.length, least, read, leftmost, ?_, ?_⟩
  · rw [culprit, located]
    exact congrArg some (Diagnosis.render_plain_of_locate? located)
  · rw [Diagnosis.columns_singleton] at leftmost
    exact Text.first_eq_stray_iff leftmost least

theorem surplus_located_at_first_close_alone :
    let line := "7 ) (+)".toList
    let complaint : Complaint := { reason := "unexpected )".toList, culprit := [')'] }
    (readAll (F := Builtin) (Token.tokenize line)).mapError ReadFault.signal =
      .error (.complaint complaint) ∧
    ∃ stray, IsLeast (Text.strays line) stray ∧
      (Diagnosis.locate? complaint.culprit line).map (Diagnosis.render .plain) =
        some ("  ".toList ++ line ++ '\n' :: "  ".toList ++ Text.spaces stray ++ ['^']) := by
  intro line complaint
  have raised : (readAll (F := Builtin) (Token.tokenize line)).mapError ReadFault.signal =
    .error (.complaint complaint) := rfl
  obtain ⟨stray, caret, least, -, -, shown, same⟩ :=
    surplus_located_at_first_close line complaint raised rfl
  have early : stray ≤ 2 := least.2 ⟨rfl, rfl⟩
  have none : '(' ∉ line.take stray := fun opening =>
    absurd ((List.take_sublist_take_left early).subset opening) (by decide)
  rw [same.mpr none] at shown
  exact ⟨raised, stray, least, shown⟩

/-- The parenthesis that closes no list stands in column 8, and the marks below the one in column 6,
which closes the list. -/
theorem surplus_located_at_first_close_after_list :
    ¬∀ (line : Text) (complaint : Complaint) (stray : Nat),
      (readAll (F := Builtin) (Token.tokenize line)).mapError ReadFault.signal =
        .error (.complaint complaint) →
      complaint.reason = "unexpected )".toList → IsLeast (Text.strays line) stray →
      (Diagnosis.locate? complaint.culprit line).map (Diagnosis.render .plain) =
        some ("  ".toList ++ line ++ '\n' :: "  ".toList ++ Text.spaces stray ++ ['^']) := by
  intro claimed
  have least : IsLeast (Text.strays "(+ 1 2) )".toList) 8 := by
    have before : ∀ column < 8, ¬("(+ 1 2) )".toList[column]? = some ')' ∧
        ("(+ 1 2) )".toList.take column).foldl Text.level 0 = 0) := by
      decide
    refine ⟨⟨rfl, rfl⟩, ?_⟩
    intro column stray
    by_contra! earlier
    exact before column earlier stray
  have below := claimed "(+ 1 2) )".toList { reason := "unexpected )".toList, culprit := [')'] } 8
    rfl rfl least
  exact absurd below (by decide)

end Expr

end ParenCalc
