import ParenCalc.Token

/-! # Tokens by one scan

Padding the parentheses and splitting at blanks is the same as reading the characters once from
left to right. A parenthesis or a blank ends the run of ordinary characters before it; the run is
an atom unless it is empty. `tokenize_eq_scan` makes this the second description of the tokens, and
what holds of every token is proved on the scan.
-/

namespace ParenCalc.Token

/-- Characters of atoms: neither blank nor a parenthesis. -/
def isOrdinary (c : Char) : Bool := !Text.isBlank c && c != '(' && c != ')'

theorem isOrdinary_iff (c : Char) :
    isOrdinary c = true ↔ Text.isBlank c = false ∧ c ≠ '(' ∧ c ≠ ')' := by
  simp [isOrdinary, and_assoc]

/-- The atom of a run of ordinary characters. -/
def flush (run : Text) : List Token := if run.isEmpty then [] else [.atom run]

/-- One pass over the characters; `run` are the ordinary ones since the last parenthesis or blank. -/
def scan (run : Text) : Text → List Token
  | [] => flush run
  | c :: rest =>
    if c = '(' then flush run ++ .opening :: scan [] rest
    else if c = ')' then flush run ++ .closing :: scan [] rest
    else if Text.isBlank c then flush run ++ scan [] rest
    else scan (run ++ [c]) rest

theorem padded_of_ne {c : Char} (notOpening : c ≠ '(') (notClosing : c ≠ ')') : padded c = [c] := by
  simp [padded, notOpening, notClosing]

theorem ne_parenthesis_of_blank {c : Char} (blank : Text.isBlank c = true) : c ≠ '(' ∧ c ≠ ')' := by
  constructor <;> rintro rfl <;> exact absurd blank (by decide)

/-- A blank ends the tokens before it. -/
theorem tokenize_append_blank (before after : Text) (c : Char) (blank : Text.isBlank c = true) :
    tokenize (before ++ c :: after) = tokenize before ++ tokenize after := by
  obtain ⟨notOpening, notClosing⟩ := ne_parenthesis_of_blank blank
  simp only [tokenize, List.flatMap_append, List.flatMap_cons, padded_of_ne notOpening notClosing,
    List.singleton_append, Text.words_append_blank _ _ _ blank, List.map_append]

/-- The words around a padded parenthesis. -/
theorem words_append_padded (before after : Text) (c : Char) (parenthesis : c = '(' ∨ c = ')') :
    Text.words (before ++ (padded c ++ after)) = Text.words before ++ [c] :: Text.words after := by
  have space : Text.isBlank ' ' = true := by decide
  have alone : Text.words [c] = [[c]] := by rcases parenthesis with rfl | rfl <;> decide
  have split := Text.words_append_blank [c] after ' ' space
  rw [alone] at split
  rw [padded, if_pos parenthesis]
  change Text.words (before ++ ' ' :: ([c] ++ ' ' :: after)) = _
  rw [Text.words_append_blank _ _ _ space, split]
  rfl

/-- An opening parenthesis is a token wherever it stands. -/
theorem tokenize_append_opening (before after : Text) :
    tokenize (before ++ '(' :: after) = tokenize before ++ .opening :: tokenize after := by
  simp only [tokenize, List.flatMap_append, List.flatMap_cons,
    words_append_padded _ _ '(' (.inl rfl), List.map_append, List.map_cons, ofText]

/-- A closing parenthesis is a token wherever it stands. -/
theorem tokenize_append_closing (before after : Text) :
    tokenize (before ++ ')' :: after) = tokenize before ++ .closing :: tokenize after := by
  simp only [tokenize, List.flatMap_append, List.flatMap_cons,
    words_append_padded _ _ ')' (.inr rfl), List.map_append, List.map_cons, ofText]

/-- Text without blanks is one word. -/
theorem words_of_letters (word : Text) (letters : ∀ c ∈ word, Text.isBlank c = false)
    (inhabited : word ≠ []) : Text.words word = [word] := by
  induction word with
  | nil => exact absurd rfl inhabited
  | cons c rest ih =>
    have first := letters c (List.mem_cons_self ..)
    cases rest with
    | nil => simp [Text.words, first]
    | cons next others =>
      have second := letters next (by simp)
      have tail := ih (fun d member => letters d (List.mem_cons_of_mem _ member)) (by simp)
      rw [Text.words]
      simp only [first, second, tail, Bool.false_eq_true, if_false]

theorem flatMap_padded_of_ordinary (run : Text) (ordinary : ∀ c ∈ run, isOrdinary c = true) :
    run.flatMap padded = run := by
  induction run with
  | nil => rfl
  | cons c rest ih =>
    obtain ⟨-, notOpening, notClosing⟩ := (isOrdinary_iff c).mp (ordinary c (List.mem_cons_self ..))
    rw [List.flatMap_cons, padded_of_ne notOpening notClosing,
      ih (fun d member => ordinary d (List.mem_cons_of_mem _ member)), List.singleton_append]

/-- A text that is not a parenthesis alone is the text of an atom. -/
theorem ofText_of_ordinary (run : Text) (ordinary : ∀ c ∈ run, isOrdinary c = true) :
    ofText run = .atom run := by
  unfold ofText
  split
  · exact absurd (ordinary '(' (by simp)) (by decide)
  · exact absurd (ordinary ')' (by simp)) (by decide)
  · rfl

/-- A run of ordinary characters is at most one token. -/
theorem tokenize_of_ordinary (run : Text) (ordinary : ∀ c ∈ run, isOrdinary c = true) :
    tokenize run = flush run := by
  rw [tokenize, flatMap_padded_of_ordinary run ordinary]
  by_cases inhabited : run = []
  · simp [inhabited, flush]
  · have letters : ∀ c ∈ run, Text.isBlank c = false :=
      fun c member => ((isOrdinary_iff c).mp (ordinary c member)).1
    rw [words_of_letters run letters inhabited]
    simp [ofText_of_ordinary run ordinary, flush, inhabited]

/-- A run of ordinary characters stays one when another is put to it. -/
theorem ordinary_concat {run : Text} {c : Char} (ordinary : ∀ d ∈ run, isOrdinary d = true)
    (notOpening : c ≠ '(') (notClosing : c ≠ ')') (letter : ¬Text.isBlank c = true) :
    ∀ d ∈ run ++ [c], isOrdinary d = true := by
  intro d member
  rcases List.mem_append.mp member with earlier | latest
  · exact ordinary d earlier
  · rw [List.mem_singleton.mp latest]
    exact (isOrdinary_iff c).mpr ⟨by simpa using letter, notOpening, notClosing⟩

/-- The scan continues a run that has been read already. -/
theorem tokenize_append_eq_scan (run text : Text) (ordinary : ∀ c ∈ run, isOrdinary c = true) :
    tokenize (run ++ text) = scan run text := by
  fun_induction scan run text with
  | case1 run => rw [List.append_nil, tokenize_of_ordinary run ordinary]
  | case2 run rest ih =>
    rw [tokenize_append_opening, tokenize_of_ordinary run ordinary, ← ih (by simp), List.nil_append]
  | case3 run rest _ ih =>
    rw [tokenize_append_closing, tokenize_of_ordinary run ordinary, ← ih (by simp), List.nil_append]
  | case4 run c rest _ _ blank ih =>
    rw [tokenize_append_blank _ _ _ blank, tokenize_of_ordinary run ordinary, ← ih (by simp),
      List.nil_append]
  | case5 run c rest notOpening notClosing letter ih =>
    rw [List.append_cons]
    exact ih (ordinary_concat ordinary notOpening notClosing letter)

/-- Padding and splitting gives the tokens of the scan. -/
theorem tokenize_eq_scan (text : Text) : tokenize text = scan [] text :=
  tokenize_append_eq_scan [] text (by simp)

/-- A run of ordinary characters gives no parenthesis. -/
theorem count_flush (run : Text) (token : Token) (parenthesis : token = .opening ∨ token = .closing) :
    (flush run).count token = 0 := by
  unfold flush
  split
  · rfl
  · rcases parenthesis with rfl | rfl <;> simp

theorem count_opening_scan (run text : Text) : (scan run text).count .opening = text.count '(' := by
  fun_induction scan run text with
  | case1 run => simp [count_flush]
  | case2 run rest ih => simp [count_flush, ih]
  | case3 run rest _ ih => simp [count_flush, ih]
  | case4 run c rest notOpening _ _ ih => simp [count_flush, ih, notOpening]
  | case5 run c rest notOpening _ _ ih => simp [ih, notOpening]

theorem count_closing_scan (run text : Text) : (scan run text).count .closing = text.count ')' := by
  fun_induction scan run text with
  | case1 run => simp [count_flush]
  | case2 run rest ih => simp [count_flush, ih]
  | case3 run rest _ ih => simp [count_flush, ih]
  | case4 run c rest _ notClosing _ ih => simp [count_flush, ih, notClosing]
  | case5 run c rest _ notClosing _ ih => simp [ih, notClosing]

/-- Every opening parenthesis of a text is a token. -/
theorem count_opening_tokenize (text : Text) : (tokenize text).count .opening = text.count '(' := by
  rw [tokenize_eq_scan, count_opening_scan]

/-- Every closing parenthesis of a text is a token. -/
theorem count_closing_tokenize (text : Text) : (tokenize text).count .closing = text.count ')' := by
  rw [tokenize_eq_scan, count_closing_scan]

/-- A parenthesis, or an atom of ordinary characters only. -/
def isLexeme : Token → Bool
  | opening => true
  | closing => true
  | atom name => !name.isEmpty && name.all isOrdinary

theorem isLexeme_of_mem_flush {run : Text} (ordinary : ∀ c ∈ run, isOrdinary c = true) {token : Token}
    (member : token ∈ flush run) : token.isLexeme = true := by
  unfold flush at member
  split at member
  · simp at member
  · next inhabited =>
    rw [List.mem_singleton.mp member]
    simpa [isLexeme] using ⟨by simpa using inhabited, ordinary⟩

theorem isLexeme_of_mem_scan {run text : Text} (ordinary : ∀ c ∈ run, isOrdinary c = true)
    {token : Token} (member : token ∈ scan run text) : token.isLexeme = true := by
  fun_induction scan run text with
  | case1 run => exact isLexeme_of_mem_flush ordinary member
  | case2 run rest ih =>
    rcases List.mem_append.mp member with flushed | later
    · exact isLexeme_of_mem_flush ordinary flushed
    · rcases List.mem_cons.mp later with rfl | later
      · rfl
      · exact ih (by simp) later
  | case3 run rest _ ih =>
    rcases List.mem_append.mp member with flushed | later
    · exact isLexeme_of_mem_flush ordinary flushed
    · rcases List.mem_cons.mp later with rfl | later
      · rfl
      · exact ih (by simp) later
  | case4 run c rest _ _ _ ih =>
    rcases List.mem_append.mp member with flushed | later
    · exact isLexeme_of_mem_flush ordinary flushed
    · exact ih (by simp) later
  | case5 run c rest notOpening notClosing letter ih =>
    exact ih (ordinary_concat ordinary notOpening notClosing letter) member

/-- Text is cut into parentheses and atoms of ordinary characters. -/
theorem isLexeme_of_mem_tokenize {text : Text} {token : Token} (member : token ∈ tokenize text) :
    token.isLexeme = true := by
  rw [tokenize_eq_scan] at member
  exact isLexeme_of_mem_scan (by simp) member

/-- Blanks at the end of a text are in no token. -/
theorem tokenize_append_blanks (text blanks : Text) (blank : ∀ c ∈ blanks, Text.isBlank c = true) :
    tokenize (text ++ blanks) = tokenize text := by
  induction blanks generalizing text with
  | nil => rw [List.append_nil]
  | cons c rest ih =>
    rw [tokenize_append_blank _ _ _ (blank c (List.mem_cons_self ..)),
      ← List.nil_append rest, ih [] (fun d member => blank d (List.mem_cons_of_mem _ member))]
    simp [tokenize]

/-- Blanks at the start of a text are in no token. -/
theorem tokenize_dropWhile_blank (text : Text) :
    tokenize (text.dropWhile Text.isBlank) = tokenize text := by
  induction text with
  | nil => rfl
  | cons c rest ih =>
    rw [List.dropWhile_cons]
    split
    · next blank => rw [ih]; exact (tokenize_append_blank [] rest c blank).symm
    · rfl

/-- Trimming a text keeps its tokens. -/
theorem tokenize_trim (text : Text) : tokenize (Text.trim text) = tokenize text := by
  rw [← tokenize_dropWhile_blank text, Text.trim, Text.trimWith]
  generalize text.dropWhile Text.isBlank = rest
  -- what is cut off at the end is the front of the reversed text
  have parts : (rest.reverse.dropWhile Text.isBlank).reverse
      ++ (rest.reverse.takeWhile Text.isBlank).reverse = rest := by
    rw [← List.reverse_append, List.takeWhile_append_dropWhile, List.reverse_reverse]
  have blanks : ∀ c ∈ (rest.reverse.takeWhile Text.isBlank).reverse, Text.isBlank c = true := by
    intro c member
    rw [List.mem_reverse] at member
    exact (List.all_eq_true.mp (List.all_takeWhile ..)) c member
  exact (tokenize_append_blanks _ _ blanks).symm.trans (congrArg tokenize parts)

end ParenCalc.Token
