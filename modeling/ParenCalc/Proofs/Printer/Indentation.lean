import Mathlib.Algebra.BigOperators.Ring.List
import ParenCalc.Builtin
import ParenCalc.Expr.Selection
import ParenCalc.Proofs.Number.ReadBack
import ParenCalc.Proofs.Text.Quoting

/-! # The lines of a tree

A margin is put in front of every line of a text when it stands in front of the text and behind every
end of a line. Put that way, it passes through concatenation, so a tree that is written at a deeper
level is the same tree with a margin, part by part. No leaf ends a line, so the lines of a tree are
those of its leaves and the two of each list that has elements.
-/

namespace ParenCalc

namespace Text

/-- Text with the given number of spaces in front of each of its lines. -/
def indented (count : Nat) (text : Text) : Text :=
  List.intercalate ['\n'] ((text.splitOn '\n').map (spaces count ++ ·))

/-- Text with a margin behind every end of a line. -/
def withMargin (margin text : Text) : Text :=
  text.flatMap fun c => if c = '\n' then '\n' :: margin else [c]

theorem withMargin_append (margin first second : Text) :
    withMargin margin (first ++ second) = withMargin margin first ++ withMargin margin second :=
  List.flatMap_append

theorem withMargin_newline (margin rest : Text) :
    withMargin margin ('\n' :: rest) = '\n' :: (margin ++ withMargin margin rest) := rfl

theorem withMargin_letter (margin rest : Text) {c : Char} (letter : c ≠ '\n') :
    withMargin margin (c :: rest) = c :: withMargin margin rest := by
  rw [withMargin, List.flatMap_cons, if_neg letter]
  rfl

theorem withMargin_of_not_mem (margin : Text) {line : Text} (single : '\n' ∉ line) :
    withMargin margin line = line := by
  induction line with
  | nil => rfl
  | cons c rest ih =>
    obtain ⟨letter, others⟩ : '\n' ≠ c ∧ '\n' ∉ rest := by simpa using single
    rw [withMargin_letter margin rest letter.symm, ih others]

/-- A margin is put into rows one by one. -/
theorem withMargin_intercalate (margin first : Text) (rest : List Text) :
    margin ++ withMargin margin (List.intercalate [',', '\n'] (first :: rest)) =
      List.intercalate [',', '\n'] ((first :: rest).map fun row => margin ++ withMargin margin row) := by
  induction rest generalizing first with
  | nil => simp only [List.map_cons, List.map_nil, List.intercalate_singleton]
  | cons second others ih =>
    have comma : withMargin margin [',', '\n'] = ',' :: '\n' :: margin := by
      rw [withMargin_letter _ _ (by decide), withMargin_newline]
      simp [withMargin]
    have rows := ih second
    rw [List.map_cons] at rows
    rw [List.intercalate_cons_cons, withMargin_append, withMargin_append, comma, List.map_cons,
      List.map_cons, List.intercalate_cons_cons, ← rows]
    simp only [List.append_assoc, List.cons_append, List.nil_append]

/-- A margin is put in front of the lines of a text by putting it in front of the text and behind
every end of a line. -/
theorem indented_eq_withMargin (count : Nat) (text : Text) :
    indented count text = spaces count ++ withMargin (spaces count) text := by
  unfold indented
  induction text with
  | nil => simp [withMargin]
  | cons c rest ih =>
    obtain ⟨line, others, shape⟩ := List.exists_cons_of_ne_nil (List.splitOn_ne_nil '\n' rest)
    rw [List.splitOn_cons_eq_if_modifyHead]
    rw [shape] at ih ⊢
    by_cases ended : c = '\n'
    · rw [ended, withMargin_newline, ← ih]
      simp
    · rw [withMargin_letter _ _ ended, if_neg (by simpa using ended), List.modifyHead_cons]
      cases others with
      | nil =>
        simp only [List.map_cons, List.map_nil, List.intercalate_singleton] at ih ⊢
        rw [List.append_cancel_left ih]
      | cons next more =>
        simp only [List.map_cons, List.intercalate_cons_cons, List.append_assoc, List.cons_append] at ih ⊢
        rw [List.append_cancel_left ih]

/-- A text has one line more than it has ends of lines. -/
theorem length_splitOn_newline (text : Text) : (text.splitOn '\n').length = text.count '\n' + 1 := by
  induction text with
  | nil => rfl
  | cons c rest ih =>
    rw [List.splitOn_cons_eq_if_modifyHead, List.count_cons]
    split
    · simp [ih]
    · simp [ih]

/-- Rows have their own ends of lines, and one between each two of them. -/
theorem count_intercalate (first : Text) (rest : List Text) :
    (List.intercalate [',', '\n'] (first :: rest)).count '\n' + 1 =
      ((first :: rest).map fun row => row.count '\n' + 1).sum := by
  induction rest generalizing first with
  | nil => simp
  | cons second others ih =>
    have between : [',', '\n'].count '\n' = 1 := by decide
    rw [List.intercalate_cons_cons, List.count_append, List.count_append, between, List.map_cons,
      List.sum_cons, ← ih second]
    omega

end Text

namespace Expr

variable {F : Type} [Named F]

/-! ## Indentation -/

theorem newline_not_mem_indentation (level : Int) : '\n' ∉ indentation level := by
  simp [indentation, Text.spaces]

theorem indentation_add {level count : Int} (levels : 0 ≤ level) (counted : 0 ≤ count) :
    indentation (level + count) = indentation count ++ indentation level := by
  have sum : 4 * (level + count).toNat = 4 * count.toNat + 4 * level.toNat := by omega
  rw [indentation, sum, Text.spaces, ← List.replicate_append_replicate]
  rfl

/-- A leaf stands on one line. -/
theorem exists_line_of_isLeaf {expr : Expr F} (leaf : expr.isLeaf = true) :
    ∃ line, '\n' ∉ line ∧ ∀ level, expr.tree level = indentation level ++ line := by
  match expr with
  | number value =>
    refine ⟨(number value : Expr F).description, ?_, fun _ => rfl⟩
    have newline : '\n' ∉ Number.alphabet := by decide
    simp [description_number, Number.not_mem_text newline value]
  | symbol name =>
    refine ⟨(symbol name : Expr F).description, ?_, fun _ => rfl⟩
    simp [description_symbol, Text.newline_not_mem_quoted name]
  | list [] => exact ⟨"List(nodes=[])".toList, by decide, fun _ => rfl⟩
  | native function =>
    refine ⟨(native function).description, ?_, fun _ => rfl⟩
    simp [description_native, Text.newline_not_mem_quoted (Named.name function)]
  | empty => exact ⟨"None".toList, by decide, fun _ => rfl⟩
  | list (_ :: _) => cases leaf

/-- A tree at a deeper level is the tree with a margin. -/
theorem tree_add (expr : Expr F) {level count : Int} (levels : 0 ≤ level) (counted : 0 ≤ count) :
    expr.tree (level + count) =
      indentation count ++ Text.withMargin (indentation count) (expr.tree level) := by
  induction expr using branchInduction generalizing level with
  | leaf expr leaf =>
    obtain ⟨line, single, shape⟩ := exists_line_of_isLeaf leaf
    rw [shape, shape, Text.withMargin_append, Text.withMargin_of_not_mem _ single,
      Text.withMargin_of_not_mem _ (newline_not_mem_indentation level), indentation_add levels counted,
      List.append_assoc]
  | branch first rest ih =>
    -- the elements stand one level deeper in both trees, so the margin between them is the same
    have deeper : level + count + 1 = level + 1 + count := by omega
    have elements : (first :: rest).map (tree (level + count + 1)) =
        ((first :: rest).map (tree (level + 1))).map fun row =>
          indentation count ++ Text.withMargin (indentation count) row := by
      rw [List.map_map, deeper]
      apply List.map_congr_left
      intro element member
      exact ih element member (by omega)
    have opening : Text.withMargin (indentation count) "List(nodes=[\n".toList =
        "List(nodes=[\n".toList ++ indentation count := by
      change Text.withMargin _ ("List(nodes=[".toList ++ ['\n']) = _
      rw [Text.withMargin_append, Text.withMargin_of_not_mem _ (by decide)]
      simp [Text.withMargin]
    have closing : Text.withMargin (indentation count) "])".toList = "])".toList :=
      Text.withMargin_of_not_mem _ (by decide)
    rw [tree_cons, tree_cons, elements, List.map_cons, ← Text.withMargin_intercalate,
      indentation_add levels counted]
    simp only [Text.withMargin_append, Text.withMargin_newline, opening, closing,
      Text.withMargin_of_not_mem _ (newline_not_mem_indentation level), List.append_assoc,
      List.cons_append]

/-- A tree has a line for each leaf and two for each branch. -/
theorem count_tree (expr : Expr F) (level : Int) :
    (expr.tree level).count '\n' + 1 =
      expr.parts.countP isLeaf + 2 * expr.parts.countP (fun part => !part.isLeaf) := by
  induction expr using branchInduction generalizing level with
  | leaf expr leaf =>
    obtain ⟨line, single, shape⟩ := exists_line_of_isLeaf leaf
    rw [shape, List.count_append, List.count_eq_zero_of_not_mem single,
      List.count_eq_zero_of_not_mem (newline_not_mem_indentation level), parts_of_isLeaf leaf]
    simp [leaf]
  | branch first rest ih =>
    have blank := List.count_eq_zero_of_not_mem (newline_not_mem_indentation level)
    have opening : "List(nodes=[\n".toList.count '\n' = 1 := by decide
    have closing : "])".toList.count '\n' = 0 := by decide
    have rows : (List.intercalate [',', '\n'] ((first :: rest).map (tree (level + 1)))).count '\n' + 1 =
        ((first :: rest).map fun element => element.parts.countP isLeaf +
          2 * element.parts.countP (fun part => !part.isLeaf)).sum := by
      rw [List.map_cons, Text.count_intercalate, ← List.map_cons, List.map_map]
      apply congrArg List.sum (List.map_congr_left _)
      intro element member
      exact ih element member (level + 1)
    rw [List.sum_map_add, List.sum_map_mul_left] at rows
    rw [tree_cons, parts_list]
    simp only [List.count_append, List.count_cons_self, blank, opening, closing, List.countP_cons,
      List.countP_flatMap, Function.comp_def, isLeaf_cons, Bool.false_eq_true, if_false, Bool.not_false,
      if_true]
    omega

/-- Indentation is uniform. An expression in which no place is empty has a tree at every level. It is
the tree of level zero with four spaces for each level in front of each of its lines, and it has a line
for each leaf and two lines for each list that has elements. -/
theorem tree_is_indented (expr : Expr F) (filled : expr.isFilled = true) (level : Nat) :
    ∃ flat : Text, expr.tree? 0 = some flat ∧
      expr.tree? level = some (Text.indented (4 * level) flat) ∧
      ((Text.indented (4 * level) flat).splitOn '\n').length =
        expr.parts.countP isLeaf + 2 * expr.parts.countP (fun part => !part.isLeaf) := by
  have shifted : expr.tree level = Text.indented (4 * level) (expr.tree 0) := by
    have margin := tree_add expr (Int.le_refl 0) (Int.natCast_nonneg level)
    rw [Int.zero_add] at margin
    rw [margin, Text.indented_eq_withMargin]
    rfl
  refine ⟨expr.tree 0, ?_, ?_, ?_⟩
  · simp [tree?, filled]
  · simp [tree?, filled, shifted]
  · rw [← shifted, Text.length_splitOn_newline, count_tree]

/-- Two levels deep, a native function, a name with the end of a line in it and an empty list stand on
one line each, and the two lists that hold them on two. -/
theorem tree_is_indented_mixed :
    let expr : Expr Builtin := list [native .add, list [symbol ['\n'], list []]]
    expr.isFilled = true ∧ ∃ flat : Text, expr.tree? 0 = some flat ∧
      expr.tree? (2 : Nat) = some (Text.indented 8 flat) ∧
      ((Text.indented 8 flat).splitOn '\n').length = 7 :=
  ⟨rfl, tree_is_indented _ rfl 2⟩

end Expr

end ParenCalc
