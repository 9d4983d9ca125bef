import ParenCalc.Proofs.Text.Trim
import ParenCalc.Proofs.Token.Scan

/-! # Where tokens begin and end

Whatever is not an ordinary character divides the tokens before it from those after it. So a run of
ordinary characters that cannot be made longer is one token, and the text is cut nowhere else. The
tokens stand in the text and, one after the other, are the text without its blanks; none is found
only in blank text.
-/

namespace ParenCalc.Token

/-- A character that is not ordinary divides the tokens; what it is itself comes in between. -/
theorem tokenize_around {c : Char} (special : isOrdinary c = false) (before after : Text) :
    tokenize (before ++ c :: after) = tokenize before ++ (tokenize [c] ++ tokenize after) := by
  by_cases opening : c = '('
  · rw [opening, tokenize_append_opening]
    rfl
  · by_cases closing : c = ')'
    · rw [closing, tokenize_append_closing]
      rfl
    · have blank : Text.isBlank c = true := by
        simpa [isOrdinary, opening, closing] using special
      have alone : tokenize [c] = [] := tokenize_append_blank [] [] c blank
      rw [alone, tokenize_append_blank _ _ _ blank, List.nil_append]

/-- Text that does not start with an ordinary character has its own tokens after any other. -/
theorem tokenize_append_of_head {before after : Text}
    (special : ∀ c ∈ after.head?, isOrdinary c = false) :
    tokenize (before ++ after) = tokenize before ++ tokenize after := by
  cases after with
  | nil => rw [List.append_nil]; exact (List.append_nil _).symm
  | cons c rest =>
    have divides := tokenize_around (special c rfl)
    have alone : tokenize (c :: rest) = tokenize [c] ++ tokenize rest := divides [] rest
    rw [divides, alone]

/-- Text that does not end with an ordinary character has its own tokens before any other. -/
theorem tokenize_append_of_getLast {before after : Text}
    (special : ∀ c ∈ before.getLast?, isOrdinary c = false) :
    tokenize (before ++ after) = tokenize before ++ tokenize after := by
  rcases List.eq_nil_or_concat before with rfl | ⟨front, c, rfl⟩
  · rfl
  · rw [List.concat_eq_append] at special ⊢
    have divides := tokenize_around (special c List.getLast?_concat)
    rw [List.append_assoc, List.singleton_append, divides, divides, List.append_assoc,
      List.append_assoc]
    rfl

/-- A run of ordinary characters between others is one token. -/
theorem tokenize_of_maximal {before run after : Text} (inhabited : run ≠ [])
    (ordinary : ∀ c ∈ run, isOrdinary c = true) (left : ∀ c ∈ before.getLast?, isOrdinary c = false)
    (right : ∀ c ∈ after.head?, isOrdinary c = false) :
    tokenize (before ++ run ++ after) = tokenize before ++ .atom run :: tokenize after := by
  have one : tokenize run = [.atom run] := by
    rw [tokenize_of_ordinary run ordinary, flush, if_neg (by simpa using inhabited)]
  rw [tokenize_append_of_head right, tokenize_append_of_getLast left, one, List.append_assoc,
    List.singleton_append]

/-- The text of an atom is the run that it is made of. -/
theorem flatMap_text_flush (run : Text) : (flush run).flatMap text = run := by
  unfold flush
  split
  · next none => rw [List.isEmpty_iff.mp none]; rfl
  · simp [text]

/-- The texts of the tokens, one after the other, are all that is not blank. -/
theorem flatMap_text_scan (run source : Text) :
    (scan run source).flatMap text = run ++ source.filter fun c => !Text.isBlank c := by
  have openingLetter : Text.isBlank '(' = false := by decide
  have closingLetter : Text.isBlank ')' = false := by decide
  fun_induction scan run source with
  | case1 run => rw [flatMap_text_flush, List.filter_nil, List.append_nil]
  | case2 run rest ih => simp [flatMap_text_flush, ih, text, openingLetter]
  | case3 run rest _ ih => simp [flatMap_text_flush, ih, text, closingLetter]
  | case4 run c rest _ _ blank ih => simp [flatMap_text_flush, ih, blank]
  | case5 run c rest _ _ letter ih => simp [ih, letter]

theorem flatMap_text_tokenize (source : Text) :
    (tokenize source).flatMap text = source.filter fun c => !Text.isBlank c := by
  rw [tokenize_eq_scan, flatMap_text_scan, List.nil_append]

/-- The tokens of a text are found in it, with the run before it. -/
theorem isInfix_of_mem_scan {run source : Text} {token : Token} (member : token ∈ scan run source) :
    token.text <:+: run ++ source := by
  have flushed : ∀ {run : Text} (after : Text), token ∈ flush run → token.text <:+: run ++ after := by
    intro run after inside
    unfold flush at inside
    split at inside
    · cases inside
    · rw [List.mem_singleton.mp inside]
      exact (List.prefix_append run after).isInfix
  have later : ∀ {rest : Text} (front : Text), token.text <:+: [] ++ rest →
      token.text <:+: front ++ rest := by
    intro rest front inside
    exact inside.trans (List.suffix_append front rest).isInfix
  fun_induction scan run source with
  | case1 run => exact flushed [] member
  | case2 run rest ih =>
    rcases List.mem_append.mp member with first | second
    · exact flushed _ first
    · rcases List.mem_cons.mp second with rfl | third
      · exact ⟨run, rest, by simp [text]⟩
      · rw [List.append_cons]
        exact later _ (ih third)
  | case3 run rest _ ih =>
    rcases List.mem_append.mp member with first | second
    · exact flushed _ first
    · rcases List.mem_cons.mp second with rfl | third
      · exact ⟨run, rest, by simp [text]⟩
      · rw [List.append_cons]
        exact later _ (ih third)
  | case4 run c rest _ _ _ ih =>
    rcases List.mem_append.mp member with first | second
    · exact flushed _ first
    · rw [List.append_cons]
      exact later _ (ih second)
  | case5 run c rest _ _ _ ih =>
    rw [List.append_cons]
    exact ih member

/-- Every token stands in the text. -/
theorem isInfix_of_mem_tokenize {source : Text} {token : Token} (member : token ∈ tokenize source) :
    token.text <:+: source := by
  rw [tokenize_eq_scan] at member
  exact isInfix_of_mem_scan member

/-- Blank text has no tokens, and no other text has none. -/
theorem tokenize_eq_nil_iff (source : Text) : tokenize source = [] ↔ Text.trim source = [] := by
  constructor
  · intro none
    have letters := flatMap_text_tokenize source
    rw [none] at letters
    rw [Text.trim_eq_nil_iff]
    intro c member
    simpa using List.filter_eq_nil_iff.mp letters.symm c member
  · intro blank
    rw [← tokenize_trim, blank]
    rfl

/-- Padding the parentheses and splitting at blanks gives the tokens that one scan from left to right
gives, and makes each maximal run of ordinary characters one token. So a token is a parenthesis or a
word of ordinary characters, and stands in the text; all the tokens together are the text without its
blanks; and there is none exactly where nothing is left of the trimmed text. -/
theorem tokenize_is_one_scan (source : Text) :
    tokenize source = scan [] source ∧
    (∀ before run after, source = before ++ run ++ after → run ≠ [] →
      (∀ c ∈ run, Text.isBlank c = false ∧ c ≠ '(' ∧ c ≠ ')') →
      (∀ c ∈ before.getLast?, Text.isBlank c = true ∨ c = '(' ∨ c = ')') →
      (∀ c ∈ after.head?, Text.isBlank c = true ∨ c = '(' ∨ c = ')') →
        tokenize source = tokenize before ++ .atom run :: tokenize after) ∧
    (∀ token ∈ tokenize source, token.text <:+: source ∧
      (token = .opening ∨ token = .closing ∨ ∃ name, token = .atom name ∧ name ≠ [] ∧
        ∀ c ∈ name, Text.isBlank c = false ∧ c ≠ '(' ∧ c ≠ ')')) ∧
    (tokenize source).flatMap text = source.filter (fun c => !Text.isBlank c) ∧
    (tokenize source = [] ↔ Text.trim source = []) := by
  refine ⟨tokenize_eq_scan source, ?_, ?_, flatMap_text_tokenize source, tokenize_eq_nil_iff source⟩
  · rintro before run after rfl inhabited ordinary left right
    have special : ∀ {c : Char}, Text.isBlank c = true ∨ c = '(' ∨ c = ')' → isOrdinary c = false := by
      rintro c (blank | rfl | rfl)
      · simp [isOrdinary, blank]
      · rfl
      · rfl
    exact tokenize_of_maximal inhabited (fun c member => (isOrdinary_iff c).mpr (ordinary c member))
      (fun c last => special (left c last)) (fun c first => special (right c first))
  · intro token member
    refine ⟨isInfix_of_mem_tokenize member, ?_⟩
    have lexeme := isLexeme_of_mem_tokenize member
    cases token with
    | opening => exact .inl rfl
    | closing => exact .inr (.inl rfl)
    | atom name =>
      simp only [isLexeme, Bool.and_eq_true, Bool.not_eq_true', List.isEmpty_eq_false_iff,
        List.all_eq_true, isOrdinary_iff] at lexeme
      exact .inr (.inr ⟨name, rfl, lexeme⟩)

/-- Blanks of several kinds, parentheses next to each other, and words that touch them. -/
theorem tokenize_is_one_scan_touching :
    let source := "f(\t\u00a0go)) -1\u2003".toList
    let tokens : List Token :=
      [.atom ['f'], .opening, .atom ['g', 'o'], .closing, .closing, .atom ['-', '1']]
    scan [] source = tokens ∧ tokenize source = scan [] source ∧
    tokenize source = tokenize "f(\t\u00a0".toList ++ .atom ['g', 'o'] :: tokenize ")) -1\u2003".toList ∧
    (.atom ['-', '1'] ∈ tokenize source ∧ ['-', '1'] <:+: source) ∧
    (tokenize source).flatMap text = "f(go))-1".toList := by
  intro source tokens
  obtain ⟨scanned, maximal, each, together, -⟩ := tokenize_is_one_scan source
  have passed : scan [] source = tokens := by decide +kernel
  have last : .atom ['-', '1'] ∈ tokenize source := by
    rw [scanned, passed]
    exact List.mem_of_getLast? rfl
  refine ⟨passed, scanned, ?_, ⟨last, (each _ last).1⟩, together⟩
  refine maximal "f(\t\u00a0".toList ['g', 'o'] ")) -1\u2003".toList rfl (by decide) ?_ ?_ ?_
  · rw [List.forall_mem_cons, List.forall_mem_singleton]
    decide
  · rintro c ⟨⟩
    decide
  · rintro c ⟨⟩
    decide

end ParenCalc.Token
