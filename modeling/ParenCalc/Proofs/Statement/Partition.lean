import ParenCalc.Proofs.Statement.Tidy

/-! # Statements as a partition of lines

The lines of a file that say something, tidied and numbered, are its pieces. Statements are made of
consecutive pieces: a portion goes on while what it has so far is open, and ends with the piece that
closes it. Only the last portion can be left open. These conditions leave one partition of the pieces,
and the statements that are collected line by line are its portions, each with one space between its
pieces and with the number of its first piece. Blank lines and comments are in no piece, and do not
interrupt a portion.
-/

namespace ParenCalc.Statement

open Text

/-! ## Pieces and portions -/

/-- A tidy line and its number. -/
structure Piece where
  text : Text
  number : Int
deriving DecidableEq, Repr

/-- Lines with their numbers, of which the first is one. -/
def numbered (lines : List Text) : List (Text × Int) :=
  (lines.zipIdx 1).map fun entry => (entry.1, (entry.2 : Int))

/-- The tidy lines, unless they are empty. -/
def pieces (lines : List (Text × Int)) : List Piece :=
  (lines.map fun line => Piece.mk (tidy line.1) line.2).filter fun piece => !piece.text.isEmpty

theorem pieces_cons (line : Text × Int) (rest : List (Text × Int)) :
    pieces (line :: rest) = pieces [line] ++ pieces rest := by
  rw [← List.singleton_append, pieces, List.map_append, List.filter_append]
  rfl

theorem pieces_of_blank {line : Text × Int} (blank : tidy line.1 = []) : pieces [line] = [] := by
  simp [pieces, blank]

theorem pieces_of_tidy {line : Text × Int} (some : tidy line.1 ≠ []) :
    pieces [line] = [⟨tidy line.1, line.2⟩] := by
  simp [pieces, some]

/-- The texts of pieces, with one space between them. -/
def spaced (pieces : List Piece) : Text := [' '].intercalate (pieces.map Piece.text)

/-- A further piece comes after a space. -/
theorem spaced_concat (first : Piece) (others : List Piece) (piece : Piece) :
    spaced (first :: others ++ [piece]) = spaced (first :: others) ++ ' ' :: piece.text := by
  unfold spaced
  induction others generalizing first with
  | nil => simp
  | cons second rest ih =>
    have later := ih second
    simp only [List.map_cons, List.cons_append, List.intercalate_cons_cons] at later ⊢
    rw [later]
    simp

/-- Consecutive pieces, at least one. -/
structure Portion where
  first : Piece
  others : List Piece
deriving DecidableEq, Repr

namespace Portion

def pieces (portion : Portion) : List Piece := portion.first :: portion.others

/-- The statement that a portion makes up. -/
def statement (portion : Portion) : Statement := ⟨spaced portion.pieces, portion.first.number⟩

/-- A portion with a further piece. -/
def concat (portion : Portion) (piece : Piece) : Portion :=
  { portion with others := portion.others ++ [piece] }

theorem pieces_concat (portion : Portion) (piece : Piece) :
    (portion.concat piece).pieces = portion.pieces ++ [piece] := rfl

theorem statement_concat (portion : Portion) (piece : Piece) :
    (portion.concat piece).statement =
      ⟨portion.statement.text ++ ' ' :: piece.text, portion.statement.number⟩ :=
  congrArg (Statement.mk · _) (spaced_concat portion.first portion.others piece)

theorem pieces_ne_nil (portion : Portion) : portion.pieces ≠ [] := List.cons_ne_nil _ _

theorem eq_of_pieces_eq {portion other : Portion} (same : portion.pieces = other.pieces) :
    portion = other := by
  obtain ⟨first, others⟩ := portion
  obtain ⟨rfl, rfl⟩ := List.cons.inj same
  rfl

end Portion

/-- The portions are made of all the pieces, in order. Each of them goes on as long as there are more
opening than closing parentheses, and only the last one may end before that changes. -/
structure GreedyPartition (pieces : List Piece) (portions : List Portion) : Prop where
  whole : portions.flatMap Portion.pieces = pieces
  goesOn : ∀ portion ∈ portions, ∀ size < portion.pieces.length, 0 < size →
    (spaced (portion.pieces.take size)).count ')' < (spaced (portion.pieces.take size)).count '('
  ends : ∀ portion ∈ portions.dropLast,
    (spaced portion.pieces).count '(' ≤ (spaced portion.pieces).count ')'

namespace GreedyPartition

variable {pieces : List Piece} {portions : List Portion}

theorem nil : GreedyPartition [] [] := ⟨rfl, by simp, by simp⟩

/-- A further piece goes to the last portion while that is open. -/
theorem concat_last {earlier : List Portion} {latest : Portion}
    (greedy : GreedyPartition pieces (earlier ++ [latest]))
    (unfinished : isOpen latest.statement.text = true) (piece : Piece) :
    GreedyPartition (pieces ++ [piece]) (earlier ++ [latest.concat piece]) := by
  obtain ⟨inside, outside⟩ := List.forall_mem_append.mp greedy.goesOn
  refine ⟨?_, ?_, ?_⟩
  · rw [← greedy.whole]
    simp [Portion.pieces_concat]
  · refine List.forall_mem_append.mpr ⟨inside, ?_⟩
    intro portion member size short positive
    rw [List.mem_singleton.mp member, Portion.pieces_concat] at short ⊢
    rw [List.length_append, List.length_singleton] at short
    rw [List.take_append_of_le_length (by omega)]
    by_cases part : size < latest.pieces.length
    · exact outside latest (List.mem_singleton_self _) size part positive
    · -- the front part is all that the portion was before
      rw [List.take_of_length_le (by omega)]
      exact (isOpen_iff _).mp unfinished
  · rw [List.dropLast_concat]
    have ends := greedy.ends
    rwa [List.dropLast_concat] at ends

/-- A further piece starts a portion once all the others are closed. -/
theorem concat_new (greedy : GreedyPartition pieces portions)
    (closed : ∀ portion ∈ portions, isOpen portion.statement.text = false) (piece : Piece) :
    GreedyPartition (pieces ++ [piece]) (portions ++ [⟨piece, []⟩]) := by
  refine ⟨?_, ?_, ?_⟩
  · rw [← greedy.whole]
    simp [Portion.pieces]
  · refine List.forall_mem_append.mpr ⟨greedy.goesOn, ?_⟩
    intro portion member size short positive
    rw [List.mem_singleton.mp member] at short
    simp only [Portion.pieces, List.length_singleton] at short
    omega
  · rw [List.dropLast_concat]
    intro portion member
    have fewer := (isOpen_iff _).not.mp (Bool.eq_false_iff.mp (closed portion member))
    exact Nat.le_of_not_lt fewer

theorem tail {first : Portion} {rest : List Portion} (greedy : GreedyPartition pieces (first :: rest)) :
    GreedyPartition (rest.flatMap Portion.pieces) rest := by
  refine ⟨rfl, (List.forall_mem_cons.mp greedy.goesOn).2, ?_⟩
  intro portion member
  have some : rest ≠ [] := by
    rintro rfl
    cases member
  apply greedy.ends
  rw [List.dropLast_cons_of_ne_nil some]
  exact List.mem_cons_of_mem _ member

/-- Where two partitions start with portions of which one is a front part of the other, there is
nothing left over: the shorter one would be closed as a whole and open as a front part. -/
theorem rest_eq_nil {first other : Portion} {rest more : List Portion} {surplus : List Piece}
    (one : GreedyPartition pieces (first :: rest)) (two : GreedyPartition pieces (other :: more))
    (longer : other.pieces = first.pieces ++ surplus)
    (left : rest.flatMap Portion.pieces = surplus ++ more.flatMap Portion.pieces) : surplus = [] := by
  by_contra some
  have further : rest ≠ [] := by
    rintro rfl
    exact some (List.append_eq_nil_iff.mp left.symm).1
  have closed := one.ends first (by simp [List.dropLast_cons_of_ne_nil further])
  have unfinished := two.goesOn other (List.mem_cons_self ..) first.pieces.length
    (by simpa [longer, List.length_pos_iff] using some) (List.length_pos_iff.mpr first.pieces_ne_nil)
  rw [longer, List.take_left] at unfinished
  omega

/-- Pieces have one greedy partition at most. -/
theorem unique {others : List Portion} (one : GreedyPartition pieces portions)
    (two : GreedyPartition pieces others) : portions = others := by
  induction portions generalizing pieces others with
  | nil =>
    cases others with
    | nil => rfl
    | cons other more => exact absurd (two.whole.trans one.whole.symm) (by simp [Portion.pieces])
  | cons first rest ih =>
    cases others with
    | nil => exact absurd (one.whole.trans two.whole.symm) (by simp [Portion.pieces])
    | cons other more =>
      have both := one.whole.trans two.whole.symm
      rw [List.flatMap_cons, List.flatMap_cons] at both
      have same : first.pieces = other.pieces := by
        obtain ⟨surplus, longer, left⟩ | ⟨surplus, longer, left⟩ := List.append_eq_append_iff.mp both
        · rw [longer, rest_eq_nil one two longer left, List.append_nil]
        · rw [longer, rest_eq_nil two one longer left, List.append_nil]
      have later : rest.flatMap Portion.pieces = more.flatMap Portion.pieces := by
        rw [same] at both
        exact List.append_cancel_left both
      rw [Portion.eq_of_pieces_eq same, ih one.tail (later ▸ two.tail)]

/-- The first pieces of the portions are some of the pieces, in order. -/
theorem firsts_sublist (portions : List Portion) :
    (portions.map Portion.first).Sublist (portions.flatMap Portion.pieces) := by
  induction portions with
  | nil => exact List.Sublist.refl _
  | cons portion rest ih =>
    rw [List.map_cons, List.flatMap_cons, Portion.pieces, List.cons_append]
    exact (ih.trans (List.sublist_append_right ..)).cons_cons _

end GreedyPartition

/-! ## Line by line -/

/-- What one more line makes of the flag for the next line and of the statements so far. -/
def takeIn (state : Bool × List Statement) (line : Text × Int) : Bool × List Statement :=
  let (text, collected) := absorb state.1 state.2 line.1 line.2
  (isOpen text, collected)

theorem takeIn_goesOn (collected : List Statement) (line : Text × Int) :
    takeIn (goesOn collected, collected) line =
      (goesOn (extended collected line.1 line.2), extended collected line.1 line.2) :=
  Prod.ext (isOpen_absorb collected line.1 line.2) rfl

/-- The statements collected are, latest first, those of a greedy partition of the pieces, and none of
them starts or ends with a blank. -/
def Collects (pieces : List Piece) (collected : List Statement) : Prop :=
  (∀ statement ∈ collected, HasNoBlankEnd statement.text) ∧
  ∃ portions, GreedyPartition pieces portions ∧ collected.reverse = portions.map Portion.statement

theorem Collects.nil : Collects [] [] := ⟨by simp, [], .nil, rfl⟩

/-- A piece is joined to an open text after one space. -/
theorem joined_of_open {text piece : Text} (ends : HasNoBlankEnd text) (unfinished : isOpen text = true)
    (tidied : HasNoBlankEnd piece) (some : piece ≠ []) : joined text piece = text ++ ' ' :: piece := by
  have inhabited := List.ne_nil_of_mem (opening_mem_of_isOpen unfinished)
  refine trim_of_hasNoBlankEnd ⟨?_, ?_⟩
  · rw [List.head?_append_of_ne_nil _ inhabited]
    exact ends.1
  · rw [List.getLast?_append_of_ne_nil _ (List.cons_ne_nil _ _), List.getLast?_cons_of_ne_nil some]
    exact tidied.2

/-- What a line adds to the pieces is added to the statements, whichever of the three ways it takes. -/
theorem Collects.extended {known : List Piece} {collected : List Statement}
    (collects : Collects known collected)
    (closed : ∀ statement ∈ collected.tail, isOpen statement.text = false) (line : Text × Int) :
    Collects (known ++ pieces [line]) (extended collected line.1 line.2) := by
  obtain ⟨trimmed, portions, greedy, split⟩ := collects
  have tidied : HasNoBlankEnd (tidy line.1) := hasNoBlankEnd_trim _
  unfold Statement.extended
  obtain ⟨latest, earlier, rfl, unfinished, taken⟩ | ⟨settled, some, taken⟩ | ⟨-, blank, taken⟩ :=
    absorb_cases collected line.1 line.2
  · rw [taken]
    obtain ⟨ends, others⟩ := List.forall_mem_cons.mp trimmed
    by_cases blank : tidy line.1 = []
    · rw [pieces_of_blank blank, blank, joined_nil_right ends, List.append_nil]
      exact ⟨trimmed, portions, greedy, split⟩
    · refine ⟨List.forall_mem_cons.mpr ⟨hasNoBlankEnd_trim _, others⟩, ?_⟩
      rw [List.reverse_cons] at split
      obtain ⟨before, last, rfl, front, back⟩ := List.map_eq_append_iff.mp split.symm
      obtain ⟨portion, rfl, rfl⟩ := List.map_eq_singleton_iff.mp back
      rw [pieces_of_tidy blank]
      refine ⟨_, greedy.concat_last unfinished _, ?_⟩
      rw [List.reverse_cons, List.map_append, front, List.map_singleton, Portion.statement_concat,
        joined_of_open ends unfinished tidied blank]
  · rw [taken, pieces_of_tidy some]
    refine ⟨List.forall_mem_cons.mpr ⟨tidied, trimmed⟩, _, greedy.concat_new ?_ _, ?_⟩
    · intro portion member
      have inside : portion.statement ∈ collected := by
        rw [← List.mem_reverse, split]
        exact List.mem_map_of_mem member
      cases collected with
      | nil => cases inside
      | cons latest earlier =>
        rcases List.mem_cons.mp inside with same | earlier
        · rw [same]
          exact settled
        · exact closed _ earlier
    · rw [List.reverse_cons, split, List.map_append]
      simp [Portion.statement, Portion.pieces, spaced]
  · rw [taken, pieces_of_blank blank, List.append_nil]
    exact ⟨trimmed, portions, greedy, split⟩

/-- After any lines, the flag says whether the latest statement is open, and the statements are those
of a greedy partition. -/
theorem Collects.foldl_takeIn {known : List Piece} {collected : List Statement}
    (collects : Collects known collected)
    (closed : ∀ statement ∈ collected.tail, isOpen statement.text = false) (lines : List (Text × Int)) :
    let state := lines.foldl takeIn (goesOn collected, collected)
    state.1 = goesOn state.2 ∧ Collects (known ++ pieces lines) state.2 := by
  induction lines generalizing known collected with
  | nil => exact ⟨rfl, by simpa [pieces] using collects⟩
  | cons line rest ih =>
    rw [List.foldl_cons, takeIn_goesOn, pieces_cons, ← List.append_assoc]
    exact ih (collects.extended closed line) (closed_extended line.1 line.2 closed)

/-- Taking in lines with consecutive numbers is taking them in one by one. -/
theorem absorbAll_eq_foldl (continued : Bool) (collected : List Statement) (first : Nat)
    (lines : List Text) :
    absorbAll continued collected first lines =
      (((lines.zipIdx first).map fun entry => (entry.1, (entry.2 : Int))).foldl takeIn
        (continued, collected)).2 := by
  induction lines generalizing continued collected first with
  | nil => rfl
  | cons line rest ih => exact ih _ _ (first + 1)

/-- Pieces are numbered in increasing order. -/
theorem pairwise_number_pieces (lines : List Text) :
    (pieces (numbered lines)).Pairwise fun piece other => piece.number < other.number := by
  refine List.Pairwise.filter _ ?_
  rw [numbered, List.map_map, List.pairwise_map]
  have increasing : ((lines.zipIdx 1).map Prod.snd).Pairwise (· < ·) := by
    rw [List.zipIdx_map_snd]
    exact List.pairwise_lt_range' 1
  refine (List.pairwise_map.mp increasing).imp ?_
  intro entry other less
  exact Int.ofNat_lt.mpr less

/-- The latest statement is that of the last portion. -/
theorem goesOn_iff {collected : List Statement} {portions : List Portion}
    (split : collected.reverse = portions.map Portion.statement) :
    goesOn collected = true ↔ ∃ last ∈ portions.getLast?, isOpen last.statement.text = true := by
  have latest : collected.head? = portions.getLast?.map Portion.statement := by
    rw [← List.getLast?_reverse, split, List.getLast?_map]
  cases collected with
  | nil =>
    have none : portions.getLast? = none := Option.map_eq_none_iff.mp latest.symm
    simp [goesOn, none]
  | cons statement earlier =>
    obtain ⟨last, found, rfl⟩ := Option.map_eq_some_iff.mp latest.symm
    simp [goesOn, found]

/-- Statements are the greedy partition of the lines. When the lines of a file are taken in one after
the other, the statements are the portions of the one partition of its pieces in which each portion
goes on as long as it is open and all but the last are closed. Their numbers increase, and the flag
that is left at the end says whether the last one is open. -/
theorem group_is_greedy_partition (lines : List Text) :
    let state := (numbered lines).foldl takeIn (false, [])
    group lines = state.2.reverse ∧
    ∃ portions, GreedyPartition (pieces (numbered lines)) portions ∧
      (∀ others, GreedyPartition (pieces (numbered lines)) others → others = portions) ∧
      group lines = portions.map (fun portion =>
        ⟨[' '].intercalate (portion.pieces.map Piece.text), portion.first.number⟩) ∧
      (group lines).Pairwise (fun statement other => statement.number < other.number) ∧
      (state.1 = true ↔ ∃ last ∈ portions.getLast?,
        (spaced last.pieces).count ')' < (spaced last.pieces).count '(') := by
  intro state
  obtain ⟨flag, -, portions, greedy, split⟩ :
      state.1 = goesOn state.2 ∧ Collects (pieces (numbered lines)) state.2 :=
    Collects.nil.foldl_takeIn (by simp) (numbered lines)
  have collected : group lines = state.2.reverse :=
    congrArg List.reverse (absorbAll_eq_foldl false [] 1 lines)
  refine ⟨collected, portions, greedy, fun others other => other.unique greedy,
    collected.trans split, ?_, ?_⟩
  · have firsts := GreedyPartition.firsts_sublist portions
    rw [greedy.whole] at firsts
    have increasing := (pairwise_number_pieces lines).sublist firsts
    rw [List.pairwise_map] at increasing
    rw [collected, split, List.pairwise_map]
    exact increasing
  · rw [flag, goesOn_iff split]
    simp only [isOpen_iff]
    rfl

/-- A statement over three lines of which one is blank, a surplus parenthesis, comments that hold
parentheses, and a list that is left open. -/
theorem group_is_greedy_partition_unfinished :
    let lines := ["(+ 1 ; (".toList, "  ".toList, "2)".toList, "; (".toList, "))".toList, "(f".toList]
    let portions : List Portion :=
      [⟨⟨"(+ 1".toList, 1⟩, [⟨"2)".toList, 3⟩]⟩, ⟨⟨"))".toList, 5⟩, []⟩, ⟨⟨"(f".toList, 6⟩, []⟩]
    GreedyPartition (pieces (numbered lines)) portions ∧
    group lines = [⟨"(+ 1 2)".toList, 1⟩, ⟨"))".toList, 5⟩, ⟨"(f".toList, 6⟩] ∧
    ((numbered lines).foldl takeIn (false, [])).1 = true := by
  intro lines portions
  have greedy : GreedyPartition (pieces (numbered lines)) portions := by
    refine ⟨?_, ?_, ?_⟩
    · decide +kernel
    · decide +kernel
    · decide +kernel
  obtain ⟨-, found, -, unique, split, -, flag⟩ := group_is_greedy_partition lines
  obtain rfl := unique portions greedy
  exact ⟨greedy, split, flag.mpr ⟨_, rfl, by decide +kernel⟩⟩

end ParenCalc.Statement
