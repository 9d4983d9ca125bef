import ParenCalc.Builtin
import ParenCalc.Proofs.Number.ReadBack
import ParenCalc.Proofs.Text.Quoting

/-! # Trees are told apart

The tree of a source expression shows where it ends: a number ends at the first closing parenthesis,
a symbol behind its quoted name, and behind each element of a list stands a comma or the end of a
line. So the tree of an expression is not the front of the tree of any other, whatever the names of
its symbols, and equal trees belong to equal expressions.
-/

namespace ParenCalc

namespace Text

/-- Two items are told apart by their texts, whatever stands behind these. -/
def ToldApart {α : Type} (write : α → Text) (left right : α) : Prop :=
  ∀ before after : Text, write left ++ before = write right ++ after → left = right ∧ before = after

/-- Texts that end at the first place of a character are told apart. -/
theorem append_cons_inj_of_not_mem {stop : Char} {left right before after : Text}
    (inLeft : stop ∉ left) (inRight : stop ∉ right)
    (same : left ++ stop :: before = right ++ stop :: after) : left = right ∧ before = after := by
  have plain {text : Text} (absent : stop ∉ text) : ∀ c ∈ text, (c != stop) = true := by
    intro c member
    exact bne_iff_ne.mpr fun equal => absent (equal ▸ member)
  have fronts := congrArg (List.takeWhile (· != stop)) same
  rw [List.takeWhile_append_of_pos (plain inLeft), List.takeWhile_append_of_pos (plain inRight)] at fronts
  simp only [List.takeWhile_cons, bne_self_eq_false, Bool.false_eq_true, if_false, List.append_nil] at fronts
  rw [fronts, List.append_cancel_left_eq] at same
  exact ⟨fronts, (List.cons.inj same).2⟩

/-- Items on lines of their own, with commas between them, are told apart when each of them is. -/
theorem intercalate_append_inj {α : Type} {write : α → Text} {left right : α} {lefts rights : List α}
    {before after : Text}
    (apart : ∀ item ∈ left :: lefts, ∀ other ∈ right :: rights, ToldApart write item other)
    (same : List.intercalate [',', '\n'] ((left :: lefts).map write) ++ '\n' :: before =
      List.intercalate [',', '\n'] ((right :: rights).map write) ++ '\n' :: after) :
    left :: lefts = right :: rights ∧ before = after := by
  induction lefts generalizing left right rights with
  | nil =>
    have first := apart left List.mem_cons_self right List.mem_cons_self
    cases rights with
    | nil =>
      simp only [List.map_cons, List.map_nil, List.intercalate_singleton] at same
      obtain ⟨rfl, behind⟩ := first _ _ same
      exact ⟨rfl, (List.cons.inj behind).2⟩
    | cons next others =>
      simp only [List.map_cons, List.map_nil, List.intercalate_singleton, List.intercalate_cons_cons,
        List.append_assoc] at same
      obtain ⟨-, behind⟩ := first _ _ same
      exact absurd (List.cons.inj behind).1 (by decide)
  | cons second items ih =>
    have first := apart left List.mem_cons_self right List.mem_cons_self
    cases rights with
    | nil =>
      simp only [List.map_cons, List.map_nil, List.intercalate_singleton, List.intercalate_cons_cons,
        List.append_assoc] at same
      obtain ⟨-, behind⟩ := first _ _ same
      exact absurd (List.cons.inj behind).1 (by decide)
    | cons next others =>
      simp only [List.map_cons, List.intercalate_cons_cons, List.append_assoc] at same
      obtain ⟨rfl, behind⟩ := first _ _ same
      have inner : ∀ item ∈ second :: items, ∀ other ∈ next :: others, ToldApart write item other :=
        fun item member other present =>
          apart item (List.mem_cons_of_mem _ member) other (List.mem_cons_of_mem _ present)
      obtain ⟨equal, ends⟩ := ih inner (List.append_cancel_left behind)
      exact ⟨by rw [equal], ends⟩

end Text

namespace Expr

open Text (ToldApart)

variable {F : Type} [Named F]

/-! ## Leaves -/

theorem tree_number_append (level : Int) (value : Float) (behind : Text) :
    (number value : Expr F).tree level ++ behind =
      indentation level ++ ("Number(value=".toList ++ (Number.text value ++ ')' :: behind)) := by
  change indentation level ++ (number value : Expr F).description ++ behind = _
  rw [description_number, List.append_assoc, List.append_assoc, List.append_assoc, List.singleton_append]

theorem tree_symbol_append (level : Int) (name behind : Text) :
    (symbol name : Expr F).tree level ++ behind =
      indentation level ++ ("Symbol(name=".toList ++ (Text.quoted name ++ ')' :: behind)) := by
  change indentation level ++ (symbol name : Expr F).description ++ behind = _
  rw [description_symbol, List.append_assoc, List.append_assoc, List.append_assoc, List.singleton_append]

theorem toldApart_number (level : Int) (x y : Float) :
    ToldApart (tree level) (number x : Expr F) (number y) := by
  intro before after same
  rw [tree_number_append, tree_number_append] at same
  have texts := List.append_cancel_left (List.append_cancel_left same)
  have closing : ')' ∉ Number.alphabet := by decide
  obtain ⟨text, behind⟩ := Text.append_cons_inj_of_not_mem (Number.not_mem_text closing x)
    (Number.not_mem_text closing y) texts
  exact ⟨by rw [Number.text_injective text], behind⟩

theorem toldApart_symbol (level : Int) (left right : Text) :
    ToldApart (tree level) (symbol left : Expr F) (symbol right) := by
  intro before after same
  rw [tree_symbol_append, tree_symbol_append] at same
  have texts := List.append_cancel_left (List.append_cancel_left same)
  obtain ⟨rfl, behind⟩ := Text.quoted_append_inj texts
  exact ⟨rfl, (List.cons.inj behind).2⟩

/-! ## Lists -/

theorem tree_nil_append (level : Int) (behind : Text) :
    (list [] : Expr F).tree level ++ behind =
      indentation level ++ ("List(nodes=[".toList ++ ']' :: ')' :: behind) := by
  rw [tree_nil, List.append_assoc]
  rfl

theorem tree_cons_append (level : Int) (first : Expr F) (rest : List (Expr F)) (behind : Text) :
    (list (first :: rest)).tree level ++ behind =
      indentation level ++ ("List(nodes=[".toList ++ '\n' ::
        (List.intercalate [',', '\n'] ((first :: rest).map (tree (level + 1)))
          ++ '\n' :: (indentation level ++ ("])".toList ++ behind)))) := by
  rw [tree_cons]
  simp only [List.append_assoc, List.cons_append]
  rfl

theorem toldApart_list (level : Int) (lefts rights : List (Expr F))
    (apart : ∀ left ∈ lefts, ∀ right ∈ rights, ToldApart (tree (level + 1)) left right) :
    ToldApart (tree level) (list lefts) (list rights) := by
  intro before after same
  cases lefts with
  | nil =>
    cases rights with
    | nil => exact ⟨rfl, List.append_cancel_left same⟩
    | cons right rights =>
      rw [tree_nil_append, tree_cons_append] at same
      have behind := List.append_cancel_left (List.append_cancel_left same)
      exact absurd (List.cons.inj behind).1 (by decide)
  | cons left lefts =>
    rw [tree_cons_append] at same
    cases rights with
    | nil =>
      rw [tree_nil_append] at same
      have behind := List.append_cancel_left (List.append_cancel_left same)
      exact absurd (List.cons.inj behind).1 (by decide)
    | cons right rights =>
      rw [tree_cons_append] at same
      have behind := List.append_cancel_left (List.append_cancel_left same)
      obtain ⟨equal, ends⟩ := Text.intercalate_append_inj apart (List.cons.inj behind).2
      exact ⟨by rw [equal], List.append_cancel_left (List.append_cancel_left ends)⟩

/-! ## Trees -/

/-- The character that the tree of an expression begins with, behind its indentation. -/
def initial : Expr F → Char
  | symbol _ => 'S'
  | list _ => 'L'
  | number _ | native _ | empty => 'N'

theorem exists_tree_eq (level : Int) (expr : Expr F) :
    ∃ tail, expr.tree level = indentation level ++ expr.initial :: tail := by
  match expr with
  | number _ => exact ⟨_, rfl⟩
  | symbol _ => exact ⟨_, rfl⟩
  | list [] => exact ⟨_, rfl⟩
  | list (_ :: _) =>
    rw [tree_cons]
    simp only [List.append_assoc]
    exact ⟨_, rfl⟩
  | native _ => exact ⟨_, rfl⟩
  | empty => exact ⟨_, rfl⟩

theorem toldApart_of_initial_ne (level : Int) {left right : Expr F}
    (different : left.initial ≠ right.initial) : ToldApart (tree level) left right := by
  intro before after same
  obtain ⟨leftTail, leftShape⟩ := exists_tree_eq level left
  obtain ⟨rightTail, rightShape⟩ := exists_tree_eq level right
  rw [leftShape, rightShape, List.append_assoc, List.append_assoc] at same
  exact absurd (List.cons.inj (List.append_cancel_left same)).1 different

/-- Source expressions are told apart by their trees. -/
theorem toldApart_tree : ∀ (level : Int) (left right : Expr F), left.isSource = true →
    right.isSource = true → ToldApart (tree level) left right
  | level, number x, right, _, source => by
    cases right with
    | number y => exact toldApart_number level x y
    | symbol _ | list _ => exact toldApart_of_initial_ne level (by simp [initial])
    | native _ | empty => cases source
  | level, symbol name, right, _, source => by
    cases right with
    | symbol other => exact toldApart_symbol level name other
    | number _ | list _ => exact toldApart_of_initial_ne level (by simp [initial])
    | native _ | empty => cases source
  | level, list lefts, right, leftSource, source => by
    cases right with
    | list rights =>
      rw [isSource, areSource_iff] at leftSource source
      apply toldApart_list
      intro left member right present
      exact toldApart_tree (level + 1) left right (leftSource left member) (source right present)
    | number _ | symbol _ => exact toldApart_of_initial_ne level (by simp [initial])
    | native _ | empty => cases source

/-- Source expressions have the same tree, at any level, only if they are the same: of the same shape,
with the same names and the same doubles, where the two zeros differ and all NaNs are one. -/
theorem tree_determines_source (level : Int) (left right : Expr F) (leftSource : left.isSource = true)
    (rightSource : right.isSource = true) : left.tree? level = right.tree? level ↔ left = right := by
  rw [tree?_of_isSource level left leftSource, tree?_of_isSource level right rightSource]
  constructor
  · intro same
    apply (toldApart_tree level left right leftSource rightSource [] [] _).1
    rw [Option.some.inj same]
  · intro equal
    rw [equal]

/-- A name that imitates two lines of a tree does not pass for them, the negative zero does not pass
for zero, and two patterns of a NaN have one tree. -/
theorem tree_determines_source_imitation :
    let pair : Expr Builtin := list [symbol ['a'], symbol ['b']]
    let imitation : Expr Builtin := list [symbol "a\x27),\n    Symbol(name=\x27b".toList]
    let zero : Expr Builtin := number (.ofBits 0)
    let negativeZero : Expr Builtin := number (.ofBits 0x8000000000000000)
    let quiet : Expr Builtin := number (.ofBits 0x7FF8000000000000)
    let signalling : Expr Builtin := number (.ofBits 0xFFF0000000000001)
    pair.tree? 0 ≠ imitation.tree? 0 ∧ zero.tree? 0 ≠ negativeZero.tree? 0 ∧
      quiet.tree? 0 = signalling.tree? 0 := by
  intro pair imitation zero negativeZero quiet signalling
  have unlike : pair ≠ imitation := by simp [pair, imitation]
  have signs : zero ≠ negativeZero := by
    intro same
    exact absurd (Expr.number.inj same) (by decide)
  have undefined : quiet = signalling := congrArg number (by decide)
  exact ⟨mt (tree_determines_source 0 pair imitation rfl rfl).mp unlike,
    mt (tree_determines_source 0 zero negativeZero rfl rfl).mp signs,
    (tree_determines_source 0 quiet signalling rfl rfl).mpr undefined⟩

end Expr

end ParenCalc
