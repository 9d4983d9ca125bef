import ParenCalc.Builtin
import ParenCalc.Proofs.Number.ReadBack
import ParenCalc.Proofs.Reader.Grammar
import ParenCalc.Proofs.Token.Scan

/-! # Source text is read back

Numbers, symbols that are read as themselves, and lists of such expressions are readable. The text
of a readable expression is a derivation of it: a number and a symbol are one atom each, and the
spaces between the elements of a list fall between their tokens. Everything that is read from text is
readable, because the atoms of a text hold neither blanks nor parentheses.
-/

namespace ParenCalc

namespace Token

/-- The text of an atom is one token. -/
theorem tokenize_of_isLexeme {name : Text} (lexeme : (atom name).isLexeme = true) :
    tokenize name = [atom name] := by
  simp only [isLexeme, Bool.and_eq_true, Bool.not_eq_true', List.all_eq_true] at lexeme
  obtain ⟨inhabited, ordinary⟩ := lexeme
  rw [tokenize_of_ordinary name ordinary, flush, inhabited]
  rfl

/-- Texts that are divided by spaces keep their tokens. -/
theorem tokenize_intercalate (texts : List Text) :
    tokenize (List.intercalate [' '] texts) = texts.flatMap tokenize := by
  induction texts with
  | nil => rfl
  | cons first others ih =>
    cases others with
    | nil => rw [List.intercalate_singleton, List.flatMap_singleton]
    | cons second rest =>
      rw [List.intercalate_cons_cons, List.append_assoc, List.singleton_append,
        tokenize_append_blank _ _ ' ' (by decide), ih]
      exact List.flatMap_cons.symm

/-- The tokens of a text between parentheses. -/
theorem tokenize_parenthesised (inner : Text) :
    tokenize ('(' :: inner ++ [')']) = .opening :: tokenize inner ++ [.closing] := by
  have opened := tokenize_append_opening [] (inner ++ [')'])
  rw [List.nil_append, tokenize_append_closing] at opened
  exact opened

end Token

namespace Expr

variable {F : Type}

/-- The text of a number is read as that number. -/
theorem ofAtom_numberText (value : Float) : (ofAtom (Number.text value) : Expr F) = number value := by
  have plain : (Number.text value).contains '_' = false := by
    rw [List.contains_eq_mem, decide_eq_false_iff_not]
    intro member
    exact absurd (Number.text_alphabet value '_' member) (by decide)
  rw [ofAtom, plain, if_neg Bool.false_ne_true, Number.ofText?_text]

/-- The text of a number is an atom. -/
theorem isLexeme_numberText (value : Float) : (Token.atom (Number.text value)).isLexeme = true := by
  have table : Number.alphabet.all Token.isOrdinary = true := by decide
  have ordinary : (Number.text value).all Token.isOrdinary = true := by
    rw [List.all_eq_true]
    intro c member
    exact List.all_eq_true.mp table c (Number.text_alphabet value c member)
  rw [Token.isLexeme, ordinary, List.isEmpty_eq_false_iff.mpr (Number.text_ne_nil value)]
  rfl

/-- Numbers, symbols that are read as themselves, and lists of such expressions. -/
inductive Readable : Expr F → Prop
  | number (value : Float) : Readable (number value)
  | symbol (name : Text) (lexeme : (Token.atom name).isLexeme = true)
      (itself : (ofAtom name : Expr F) = symbol name) : Readable (symbol name)
  | list (elements : List (Expr F)) (each : ∀ element ∈ elements, Readable element) :
      Readable (list elements)

/-! ## Printing -/

section Printing

variable [Named F]

theorem tokenize_texts (exprs : List (Expr F)) :
    Token.tokenize (List.intercalate [' '] (exprs.map text)) =
      exprs.flatMap fun expr => Token.tokenize expr.text := by
  rw [Token.tokenize_intercalate, List.flatMap_map]

/-- Texts that derive their expressions derive all of them together. -/
theorem derivesAll_texts {exprs : List (Expr F)}
    (each : ∀ expr ∈ exprs, Derives expr (Token.tokenize expr.text)) :
    DerivesAll exprs (Token.tokenize (List.intercalate [' '] (exprs.map text))) := by
  rw [tokenize_texts]
  induction exprs with
  | nil => exact .nil
  | cons expr others ih =>
    rw [List.flatMap_cons]
    exact .cons (each expr List.mem_cons_self)
      (ih fun other member => each other (List.mem_cons_of_mem _ member))

/-- The text of a readable expression derives it. -/
theorem Readable.derives {expr : Expr F} (readable : Readable expr) :
    Derives expr (Token.tokenize expr.text) := by
  induction readable with
  | number value =>
    have atom := Derives.atom (F := F) (Number.text value)
    rw [ofAtom_numberText] at atom
    rwa [text_number, Token.tokenize_of_isLexeme (isLexeme_numberText value)]
  | symbol name lexeme itself =>
    have atom := Derives.atom (F := F) name
    rw [itself] at atom
    rwa [text_symbol, Token.tokenize_of_isLexeme lexeme]
  | list elements _ ih =>
    rw [text_list, Token.tokenize_parenthesised]
    exact (derivesAll_texts ih).list

/-- Readable expressions within the limit are read back from their texts. -/
theorem readAllFrom_texts {limit : Nat} {exprs : List (Expr F)}
    (readable : ∀ expr ∈ exprs, Readable expr) (bounded : ∀ expr ∈ exprs, expr.nesting ≤ limit) :
    readAllFrom limit [] (Token.tokenize (List.intercalate [' '] (exprs.map text))) = .ok exprs := by
  apply DerivesAll.readAllFrom _ bounded
  apply derivesAll_texts
  intro expr member
  exact (readable expr member).derives

end Printing

/-! ## Reading -/

/-- What atoms of ordinary characters derive is readable. -/
theorem Derives.readable {expr : Expr F} {tokens : List Token} (derived : Derives expr tokens)
    (lexemes : ∀ token ∈ tokens, token.isLexeme = true) : Readable expr := by
  induction derived with
  | atom name =>
    obtain ⟨value, numeral⟩ | itself := ofAtom_cases (F := F) name
    · rw [numeral]
      exact .number value
    · rw [itself]
      exact .symbol name (lexemes _ (List.mem_singleton_self _)) itself
  | list parts each ih =>
    apply Readable.list
    intro element member
    obtain ⟨part, present, rfl⟩ := List.mem_map.mp member
    apply ih part present
    intro token inside
    apply lexemes
    have inner := List.mem_flatMap_of_mem (f := Prod.snd) present inside
    exact List.mem_append_left _ (List.mem_cons_of_mem _ inner)

/-- Everything that is read from text is readable, and within the limit. -/
theorem readable_of_readAllFrom {limit : Nat} {source : Text} {exprs : List (Expr F)}
    (read : readAllFrom limit [] (Token.tokenize source) = .ok exprs) :
    ∀ expr ∈ exprs, Readable expr ∧ expr.nesting ≤ limit := by
  obtain ⟨⟨parts, each, rfl, split⟩, bounded⟩ := derivesAll_of_readAllFrom read
  intro expr member
  refine ⟨?_, bounded expr member⟩
  obtain ⟨part, present, rfl⟩ := List.mem_map.mp member
  apply (each part present).readable
  intro token inside
  have inText := List.mem_flatMap_of_mem (f := Prod.snd) present inside
  rw [split] at inText
  exact Token.isLexeme_of_mem_tokenize inText

/-- Printing and reading back is the identity, under the limit of `readAll` and under every other.
Readable expressions within the limit are read back from their texts, divided by spaces. Everything
that is read from any text is readable and within the limit, so that it is read back too. -/
theorem readAll_tokenize_text [Named F] :
    (∀ tokens, readAll (F := F) tokens = readAllFrom nestingLimit [] tokens) ∧
    ∀ limit,
      (∀ exprs : List (Expr F), (∀ expr ∈ exprs, Readable expr) →
        (∀ expr ∈ exprs, expr.nesting ≤ limit) →
          readAllFrom limit [] (Token.tokenize (List.intercalate [' '] (exprs.map text))) =
            .ok exprs) ∧
      ∀ (source : Text) (exprs : List (Expr F)),
        readAllFrom limit [] (Token.tokenize source) = .ok exprs →
          (∀ expr ∈ exprs, Readable expr ∧ expr.nesting ≤ limit) ∧
            readAllFrom limit [] (Token.tokenize (List.intercalate [' '] (exprs.map text))) =
              .ok exprs := by
  refine ⟨fun tokens => rfl, ?_⟩
  intro limit
  refine ⟨fun exprs readable bounded => readAllFrom_texts readable bounded, ?_⟩
  intro source exprs read
  have kinds := readable_of_readAllFrom read
  refine ⟨kinds, readAllFrom_texts ?_ ?_⟩
  · exact fun expr member => (kinds expr member).1
  · exact fun expr member => (kinds expr member).2

/-- A symbol that looks like a number with an underscore, an empty list, a negative zero and a NaN are
printed and read back; so is what a text with other blanks holds. -/
theorem readAll_tokenize_text_doubles :
    let name : Text := "1_0".toList
    let exprs : List (Expr Builtin) :=
      [list [symbol name, list []], number (.ofBits 0x8000000000000000), number (.ofBits Decimal.nanBits)]
    let source : Text := " (1_0\t()  ,)".toList
    let read : List (Expr Builtin) := [list [symbol name, list [], symbol [',']]]
    ((∀ expr ∈ exprs, Readable expr) ∧ (∀ expr ∈ exprs, expr.nesting ≤ nestingLimit) ∧
      readAll (Token.tokenize (List.intercalate [' '] (exprs.map text))) = .ok exprs) ∧
    readAll (Token.tokenize source) = .ok read ∧
      readAll (Token.tokenize (List.intercalate [' '] (read.map text))) = .ok read := by
  intro name exprs source read
  have itself : Readable (symbol name : Expr Builtin) := .symbol name (by decide) rfl
  have readable : ∀ expr ∈ exprs, Readable expr := by
    simp only [exprs, List.forall_mem_cons]
    refine ⟨.list _ ?_, .number _, .number _, by simp⟩
    simp only [List.forall_mem_cons]
    exact ⟨itself, .list [] (by simp), by simp⟩
  have bounded : ∀ expr ∈ exprs, expr.nesting ≤ nestingLimit := by
    simp only [exprs, List.forall_mem_cons]
    refine ⟨?_, ?_, ?_, by simp⟩ <;> decide
  have success : readAll (Token.tokenize source) = .ok read := rfl
  obtain ⟨printed, again⟩ := (readAll_tokenize_text (F := Builtin)).2 nestingLimit
  exact ⟨⟨readable, bounded, printed exprs readable bounded⟩, success, (again source read success).2⟩

end Expr

end ParenCalc
