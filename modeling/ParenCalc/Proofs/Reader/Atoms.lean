import ParenCalc.Expr.Reader
import ParenCalc.Proofs.Decimal.Spelling
import ParenCalc.Proofs.Number.ReadBack
import ParenCalc.Proofs.Reader.Grammar

/-! # Numbers and symbols among the atoms

An atom without blanks reads as a number exactly when it has no underscore and the grammar of numerals
spells it. Every other atom is a symbol with the atom itself as its name. The scripts of the digits do
not matter: a digit is no blank and no underscore in any of them, so an atom written with other digits
of the same values is read in the same way.
-/

namespace ParenCalc

/-- Digits of every script stand apart from the blanks. -/
theorem Text.not_isBlank_of_digitValue? {c : Char} {value : Nat} (digit : digitValue? c = some value) :
    isBlank c = false := by
  have apart : ∀ start ∈ digitZeros, ∀ run ∈ blankRuns, start + 10 ≤ run.1 ∨ run.2 < start := by
    decide +kernel
  obtain ⟨start, found, -⟩ := Option.map_eq_some_iff.mp digit
  have bounds := List.find?_some found
  simp only [Bool.and_eq_true, decide_eq_true_eq] at bounds
  rw [isBlank, Bool.eq_false_iff, Ne, Runs.holds_iff]
  rintro ⟨run, member, inside⟩
  have side := apart start (List.mem_of_find?_eq_some found) run member
  omega

namespace Decimal.Numeral

/-- What holds of the characters of a text and of every digit holds when its digits change script. -/
theorem SameDigits.forall_mem {property : Char → Prop} {written text : Text}
    (same : SameDigits written text) (here : ∀ c ∈ text, property c)
    (digits : ∀ c value, Text.digitValue? c = some value → property c) :
    ∀ c ∈ written, property c := by
  induction same with
  | nil => exact List.forall_mem_nil _
  | cons head _ ih =>
    obtain ⟨first, others⟩ := List.forall_mem_cons.mp here
    refine List.forall_mem_cons.mpr ⟨?_, ih others⟩
    rcases head with rfl | ⟨value, digit, -⟩
    · exact first
    · exact digits _ value digit

theorem not_isPadding_of_not_isBlank {c : Char} (letter : Text.isBlank c = false) : isPadding c = false := by
  simp [isPadding, letter]

end Decimal.Numeral

namespace Expr

open Decimal Numeral

variable {F : Type}

/-- What reads as a number has no underscore, and its text is that of the number. -/
theorem ofAtom_eq_number_iff {token : Text} (solid : ∀ c ∈ token, Text.isBlank c = false)
    (value : Float) :
    ofAtom (F := F) token = number value ↔
      '_' ∉ token ∧ ∃ negative numeral, Spells token negative numeral ∧
        value = numeral.toFloat negative := by
  rw [ofAtom]
  by_cases separated : '_' ∈ token
  · simp [separated]
  · have read := Number.ofText?_eq_parse? separated fun c member => not_isPadding_of_not_isBlank (solid c member)
    simp only [List.contains_iff_mem, separated, if_false, not_false_eq_true, true_and,
      ← parse?_eq_some_iff, read]
    cases parse? token with
    | none => simp
    | some numeral =>
      obtain ⟨negative, numeral⟩ := numeral
      simp [eq_comm]

/-- The atoms that are numbers are those the grammar of numerals spells, underscores apart; an atom
that is none is the symbol of its own name. Digits of other scripts give the same number. -/
theorem ofAtom_accepts_numerals (token : Text) (solid : ∀ c ∈ token, Text.isBlank c = false) :
    (∀ value, ofAtom (F := F) token = number value ↔
      '_' ∉ token ∧ ∃ negative numeral, Spells token negative numeral ∧
        value = numeral.toFloat negative) ∧
    (ofAtom (F := F) token = symbol token ↔
      '_' ∈ token ∨ ¬∃ negative numeral, Spells token negative numeral) ∧
    (∀ written value, SameDigits written token → ofAtom (F := F) token = number value →
      ofAtom (F := F) written = number value) := by
  refine ⟨ofAtom_eq_number_iff solid, ?_, ?_⟩
  · rcases ofAtom_cases (F := F) token with ⟨value, read⟩ | read
    · obtain ⟨plain, negative, numeral, spelled, -⟩ := (ofAtom_eq_number_iff solid value).mp read
      have numeric : ∃ negative numeral, Spells token negative numeral := ⟨_, _, spelled⟩
      simp [read, plain, numeric]
    · refine iff_of_true read ?_
      by_contra! numeric
      obtain ⟨plain, negative, numeral, spelled⟩ := numeric
      have other := (ofAtom_eq_number_iff (F := F) solid _).mpr ⟨plain, _, _, spelled, rfl⟩
      rw [read] at other
      cases other
  · intro written value same read
    obtain ⟨plain, negative, numeral, spelled, rfl⟩ := (ofAtom_eq_number_iff solid value).mp read
    have letters := same.forall_mem solid fun c value digit => Text.not_isBlank_of_digitValue? digit
    have joined : ∀ c ∈ written, c ≠ '_' := by
      refine same.forall_mem ?_ ?_
      · rintro c member rfl
        exact plain member
      · rintro c value digit rfl
        cases digit
    refine (ofAtom_eq_number_iff letters _).mpr ⟨?_, negative, numeral, spelled.of_same same, rfl⟩
    exact fun member => joined '_' member rfl

theorem ofAtom_accepts_numerals_scripts :
    ("-１.٥E+2".toList.all fun c => !Text.isBlank c) = true ∧
    ofAtom (F := Unit) "-１.٥E+2".toList = number (toFloat true (.decimal ⟨[1, 5], 1⟩)) ∧
    ofAtom (F := Unit) "-1.5E+2".toList = number (toFloat true (.decimal ⟨[1, 5], 1⟩)) := by
  have solid : ("-１.٥E+2".toList.all fun c => !Text.isBlank c) = true := rfl
  have accepted := ofAtom_accepts_numerals (F := Unit) "-１.٥E+2".toList (by simpa using solid)
  refine ⟨solid, rfl, accepted.2.2 _ _ ?_ rfl⟩
  exact .cons (.inl rfl) (.cons (.inr ⟨1, rfl, rfl⟩) (.cons (.inl rfl) (.cons (.inr ⟨5, rfl, rfl⟩)
    (.cons (.inl rfl) (.cons (.inl rfl) (.cons (.inl rfl) .nil))))))

-- One part of the grammar is missing in each of these, or a part too many.
example : [".", "1e", "+", "-.e1", "1_0"].map (fun name => ofAtom (F := Unit) name.toList) =
    [".", "1e", "+", "-.e1", "1_0"].map (fun name => symbol name.toList) :=
  rfl

end Expr

end ParenCalc
