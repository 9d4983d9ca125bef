import ParenCalc.Proofs.Reader.Cut
import ParenCalc.Proofs.Reader.Nesting

/-! # The grammar of expressions

An atom derives what it is read as, and parenthesised derivations derive a list. The reader accepts
exactly this grammar. Soundness follows the open lists: the tokens behind them always derive their
elements. Completeness is an induction on derivations, for any lists already open and any tokens
left over. Both hold under every limit; a derivation is bounded by its own nesting only, so that
no derivation is a proper front part of another.
-/

namespace ParenCalc.Expr

variable {F : Type}

/-- An atom is read as a number or as the symbol of its own name. -/
theorem ofAtom_cases (name : Text) :
    (∃ value, (ofAtom name : Expr F) = number value) ∨ (ofAtom name : Expr F) = symbol name := by
  unfold ofAtom
  split
  · exact .inr rfl
  · split
    · next value _ => exact .inl ⟨value, rfl⟩
    · exact .inr rfl

/-- The tokens of an expression. -/
inductive Derives : Expr F → List Token → Prop
  | atom (name : Text) : Derives (ofAtom name) [.atom name]
  | list (parts : List (Expr F × List Token)) (each : ∀ part ∈ parts, Derives part.1 part.2) :
      Derives (list (parts.map Prod.fst)) (.opening :: parts.flatMap Prod.snd ++ [.closing])

/-- Tokens that are put together from derivations of the expressions, in order. -/
def DerivesAll (exprs : List (Expr F)) (tokens : List Token) : Prop :=
  ∃ parts : List (Expr F × List Token), (∀ part ∈ parts, Derives part.1 part.2) ∧
    parts.map Prod.fst = exprs ∧ parts.flatMap Prod.snd = tokens

theorem DerivesAll.nil : DerivesAll ([] : List (Expr F)) [] := ⟨[], by simp, rfl, rfl⟩

theorem DerivesAll.cons {expr : Expr F} {exprs : List (Expr F)} {front rest : List Token}
    (first : Derives expr front) (others : DerivesAll exprs rest) :
    DerivesAll (expr :: exprs) (front ++ rest) := by
  obtain ⟨parts, each, rfl, rfl⟩ := others
  refine ⟨(expr, front) :: parts, ?_, rfl, rfl⟩
  intro part member
  rcases List.mem_cons.mp member with rfl | member
  · exact first
  · exact each part member

theorem DerivesAll.concat {expr : Expr F} {exprs : List (Expr F)} {front back : List Token}
    (earlier : DerivesAll exprs front) (last : Derives expr back) :
    DerivesAll (exprs ++ [expr]) (front ++ back) := by
  obtain ⟨parts, each, rfl, rfl⟩ := earlier
  refine ⟨parts ++ [(expr, back)], ?_, by simp, by simp⟩
  intro part member
  rcases List.mem_append.mp member with member | member
  · exact each part member
  · rw [List.mem_singleton.mp member]
    exact last

theorem DerivesAll.list {elements : List (Expr F)} {tokens : List Token}
    (inner : DerivesAll elements tokens) : Derives (list elements) (.opening :: tokens ++ [.closing]) := by
  obtain ⟨parts, each, rfl, rfl⟩ := inner
  exact .list parts each

/-! ## Soundness -/

/-- The tokens that have led to the lists still open. -/
inductive Behind : Open F → List Token → Prop
  | nil : Behind [] []
  | cons {outer : Open F} {before : List Token} {elements : List (Expr F)} {inner : List Token}
      (around : Behind outer before) (inside : DerivesAll elements.reverse inner) :
      Behind (elements :: outer) (before ++ .opening :: inner)

/-- Where progress stands after all the tokens that have led to it. -/
def Progress.Explains : Progress F → List Token → Prop
  | finished expr, tokens => Derives expr tokens
  | reading openLists, tokens => Behind openLists tokens

theorem Behind.place {openLists : Open F} {before : List Token} (behind : Behind openLists before)
    {expr : Expr F} {own : List Token} (derived : Derives expr own) :
    (place expr openLists).Explains (before ++ own) := by
  cases behind with
  | nil => exact derived
  | cons around inside =>
    rw [List.append_assoc, List.cons_append]
    refine .cons around ?_
    rw [List.reverse_cons]
    exact inside.concat derived

/-- A token that is accepted keeps the account of the tokens before it. -/
theorem Behind.step {limit : Nat} {openLists : Open F} {before : List Token}
    (behind : Behind openLists before) {token : Token} {progress : Progress F}
    (accepted : step limit openLists token = .ok progress) :
    progress.Explains (before ++ [token]) := by
  obtain ⟨rfl, -, rfl⟩ | ⟨elements, outer, rfl, rfl, rfl⟩ | ⟨name, rfl, rfl⟩ := step_eq_ok accepted
  · exact .cons behind .nil
  · cases behind with
    | cons around inside =>
      rw [List.append_assoc]
      exact around.place inside.list
  · exact behind.place (.atom name)

/-- A token that is accepted keeps the open lists within the limit. -/
theorem step_bounded {limit : Nat} {openLists : Open F} {token : Token} {progress : Progress F}
    (accepted : step limit openLists token = .ok progress) (bounded : openLists.length ≤ limit) :
    progress.depth ≤ limit := by
  obtain ⟨-, room, rfl⟩ | ⟨elements, outer, -, rfl, rfl⟩ | ⟨name, -, rfl⟩ := step_eq_ok accepted
  · exact room
  · rw [place_depth]
    exact Nat.le_of_succ_le bounded
  · rw [place_depth]
    exact bounded

/-- The limit allows a token and further tokens when it allows these after the token. -/
theorem step_nesting {limit : Nat} {openLists : Open F} {token : Token} {progress : Progress F}
    (accepted : step limit openLists token = .ok progress) (bounded : openLists.length ≤ limit)
    {tokens : List Token} (room : progress.depth + Token.nesting tokens ≤ limit) :
    openLists.length + Token.nesting (token :: tokens) ≤ limit := by
  obtain ⟨rfl, -, rfl⟩ | ⟨elements, outer, rfl, rfl, rfl⟩ | ⟨name, rfl, rfl⟩ := step_eq_ok accepted
  · simp only [Progress.depth, List.length_cons, Token.nesting] at room ⊢
    omega
  · simp only [place_depth, List.length_cons, Token.nesting] at room bounded ⊢
    omega
  · simpa only [place_depth, Token.nesting] using room

/-- What is read is derived by the tokens that led to the open lists together with those that are
consumed, and the limit allows all of them. -/
theorem Behind.readFrom {limit : Nat} {openLists : Open F} {before tokens rest : List Token}
    {expr : Expr F} (behind : Behind openLists before) (bounded : openLists.length ≤ limit)
    (read : readFrom limit openLists tokens = .ok (expr, rest)) :
    ∃ front, tokens = front ++ rest ∧ Derives expr (before ++ front) ∧
      openLists.length + Token.nesting front ≤ limit := by
  induction tokens generalizing openLists before with
  | nil => contradiction
  | cons token tokens ih =>
    rw [Expr.readFrom] at read
    cases accepted : Expr.step limit openLists token with
    | error fault => rw [accepted] at read; contradiction
    | ok progress =>
      rw [accepted] at read
      have explained := behind.step accepted
      have within := step_bounded accepted bounded
      cases progress with
      | finished final =>
        obtain ⟨rfl, rfl⟩ := Prod.mk.inj (Except.ok.inj read)
        exact ⟨[token], rfl, explained, step_nesting accepted bounded within⟩
      | reading next =>
        obtain ⟨front, rfl, derived, room⟩ := ih explained within read
        rw [List.append_assoc] at derived
        exact ⟨token :: front, rfl, derived, step_nesting accepted bounded room⟩

/-! ## Completeness -/

/-- Reads on after some progress. -/
def resume (limit : Nat) (rest : List Token) :
    Progress F → Except ReadFault (Expr F × List Token)
  | .finished expr => .ok (expr, rest)
  | .reading openLists => readFrom limit openLists rest

theorem readFrom_of_step {limit : Nat} {openLists : Open F} {token : Token} {progress : Progress F}
    (accepted : step limit openLists token = .ok progress) (rest : List Token) :
    readFrom limit openLists (token :: rest) = resume limit rest progress := by
  rw [readFrom, accepted]
  cases progress <;> rfl

/-- Parts that are read one by one are read after each other, inside an open list. -/
theorem readFrom_parts {limit : Nat} {outer : Open F} (parts : List (Expr F × List Token))
    (each : ∀ part ∈ parts, ∀ (openLists : Open F) (rest : List Token),
      openLists.length + part.1.nesting ≤ limit →
        readFrom limit openLists (part.2 ++ rest) = resume limit rest (place part.1 openLists))
    (room : ∀ part ∈ parts, outer.length + 1 + part.1.nesting ≤ limit)
    (elements : List (Expr F)) (rest : List Token) :
    readFrom limit (elements :: outer) (parts.flatMap Prod.snd ++ rest) =
      readFrom limit (((parts.map Prod.fst).reverse ++ elements) :: outer) rest := by
  induction parts generalizing elements with
  | nil => rfl
  | cons part parts ih =>
    have first := each part (List.mem_cons_self ..) (elements :: outer) (parts.flatMap Prod.snd ++ rest)
      (room part (List.mem_cons_self ..))
    have others := ih (fun other member => each other (List.mem_cons_of_mem _ member))
      (fun other member => room other (List.mem_cons_of_mem _ member)) (part.1 :: elements)
    rw [List.flatMap_cons, List.append_assoc, first, place, resume, others]
    simp

/-- The tokens of an expression are read as that expression, whatever lists are open before them
and whatever tokens follow. -/
theorem Derives.readFrom_append {expr : Expr F} {own : List Token} (derived : Derives expr own)
    {limit : Nat} (openLists : Open F) (rest : List Token)
    (room : openLists.length + expr.nesting ≤ limit) :
    readFrom limit openLists (own ++ rest) = resume limit rest (place expr openLists) := by
  induction derived generalizing openLists rest with
  | atom name => exact readFrom_of_step rfl rest
  | list parts each ih =>
    rw [nesting] at room
    have opened : step limit openLists .opening = .ok (.reading ([] :: openLists)) := by
      rw [step, if_pos (by omega)]
    have inner : ∀ part ∈ parts, openLists.length + 1 + part.1.nesting ≤ limit := by
      intro part member
      have deepest := (nestings_le_iff _ _).mp (Nat.le_refl _) part.1 (List.mem_map_of_mem member)
      omega
    rw [List.cons_append, List.cons_append, readFrom_of_step opened, resume, List.append_assoc,
      readFrom_parts parts ih inner, List.singleton_append]
    refine (readFrom_of_step rfl rest).trans ?_
    rw [List.append_nil, List.reverse_reverse]

/-- No derivation is a proper front part of another, and tokens derive one expression at most. -/
theorem Derives.unique {first second : Expr F} {front other : List Token} (one : Derives first front)
    (two : Derives second other) {rest others : List Token} (same : front ++ rest = other ++ others) :
    first = second ∧ front = other := by
  have left := one.readFrom_append [] rest (Nat.le_max_left _ second.nesting)
  have right := two.readFrom_append [] others (Nat.le_max_right first.nesting _)
  simp only [List.length_nil, Nat.zero_add] at left right
  rw [same, right] at left
  obtain ⟨rfl, rfl⟩ := Prod.mk.inj (Except.ok.inj left)
  exact ⟨rfl, (List.append_cancel_right same)⟩

/-! ## Nesting of derivations -/

/-- Parts whose lists are all closed have all their lists closed together. -/
theorem balanced_parts (parts : List (Expr F × List Token))
    (balanced : ∀ part ∈ parts, part.2.count .opening = part.2.count .closing) :
    (parts.flatMap Prod.snd).count .opening = (parts.flatMap Prod.snd).count .closing := by
  rw [List.count_flatMap, List.count_flatMap]
  exact congrArg List.sum (List.map_congr_left balanced)

/-- Every list of a derivation is closed. -/
theorem Derives.balanced {expr : Expr F} {own : List Token} (derived : Derives expr own) :
    own.count .opening = own.count .closing := by
  induction derived with
  | atom name => simp
  | list parts _ ih => simp [balanced_parts parts ih]

/-- Parts whose lists are all closed nest as deep as the deepest of them. -/
theorem nesting_parts (parts : List (Expr F × List Token))
    (balanced : ∀ part ∈ parts, part.2.count .opening = part.2.count .closing)
    (each : ∀ part ∈ parts, Token.nesting part.2 = part.1.nesting) :
    Token.nesting (parts.flatMap Prod.snd) = nestings (parts.map Prod.fst) := by
  induction parts with
  | nil => rfl
  | cons part parts ih =>
    have others := ih (fun other member => balanced other (List.mem_cons_of_mem _ member))
      (fun other member => each other (List.mem_cons_of_mem _ member))
    rw [List.flatMap_cons, Token.nesting_append, List.map_cons, nestings, others,
      each part (List.mem_cons_self ..), balanced part (List.mem_cons_self ..), Nat.add_sub_cancel_left]

/-- The tokens of an expression nest as deep as the expression. -/
theorem Derives.nesting_eq {expr : Expr F} {own : List Token} (derived : Derives expr own) :
    Token.nesting own = expr.nesting := by
  induction derived with
  | atom name =>
    obtain ⟨value, numeral⟩ | itself := ofAtom_cases (F := F) name
    · rw [numeral]
      rfl
    · rw [itself]
      rfl
  | list parts each ih =>
    have balanced := fun part member => (each part member).balanced
    rw [List.cons_append, Token.nesting, Token.nesting_append, nesting_parts parts balanced ih,
      balanced_parts parts balanced, nesting]
    simp [Token.nesting]

/-! ## All the expressions -/

/-- A token that finishes no expression leaves a list open. -/
theorem step_ne_reading_nil (limit : Nat) (openLists : Open F) (token : Token) :
    step limit openLists token ≠ .ok (.reading []) := by
  have placed : ∀ (expr : Expr F) (outer : Open F), place expr outer ≠ .reading [] := by
    intro expr outer
    cases outer <;> simp [place]
  intro accepted
  obtain ⟨-, -, opened⟩ | ⟨elements, outer, -, -, closed⟩ | ⟨name, -, added⟩ := step_eq_ok accepted
  · simp at opened
  · exact placed _ _ closed.symm
  · exact placed _ _ added.symm

/-- Where something is left to read, the first expression is read, and then the others. -/
theorem readAllFrom_eq_readFrom (limit : Nat) (openLists : Open F) (tokens : List Token)
    (more : tokens ≠ [] ∨ openLists ≠ []) :
    readAllFrom limit openLists tokens =
      readFrom limit openLists tokens >>= fun (expr, rest) =>
        (readAllFrom limit [] rest).map (expr :: ·) := by
  induction tokens generalizing openLists with
  | nil =>
    have inside : openLists ≠ [] := more.resolve_left (by simp)
    simp [readAllFrom, readFrom, inside, bind, Except.bind]
  | cons token rest ih =>
    rw [readAllFrom, readFrom]
    cases accepted : step limit openLists token with
    | error fault => rfl
    | ok progress =>
      cases progress with
      | finished expr => rfl
      | reading next =>
        refine ih next (.inr ?_)
        rintro rfl
        exact step_ne_reading_nil limit openLists token accepted

/-- Every derivation has a token. -/
theorem Derives.ne_nil {expr : Expr F} {own : List Token} (derived : Derives expr own) : own ≠ [] := by
  cases derived <;> simp

/-- All that is read is derived, in order, and nests within the limit. -/
theorem derivesAll_of_readAllFrom {limit : Nat} {exprs : List (Expr F)} {tokens : List Token}
    (read : readAllFrom limit [] tokens = .ok exprs) :
    DerivesAll exprs tokens ∧ ∀ expr ∈ exprs, expr.nesting ≤ limit := by
  induction length : tokens.length using Nat.strongRecOn generalizing tokens exprs with
  | ind _ ih =>
    cases tokens with
    | nil =>
      cases read
      exact ⟨.nil, by simp⟩
    | cons token tokens =>
      rw [readAllFrom_eq_readFrom _ _ _ (.inl (by simp))] at read
      cases first : readFrom limit ([] : Open F) (token :: tokens) with
      | error fault => rw [first] at read; contradiction
      | ok found =>
        obtain ⟨expr, rest⟩ := found
        obtain ⟨front, split, derived, room⟩ := Behind.nil.readFrom (Nat.zero_le _) first
        rw [List.nil_append] at derived
        rw [List.length_nil, Nat.zero_add, derived.nesting_eq] at room
        rw [first] at read
        cases second : readAllFrom (F := F) limit [] rest with
        | error fault => simp [bind, Except.bind, second, Except.map] at read
        | ok others =>
          simp only [bind, Except.bind, second, Except.map, Except.ok.injEq] at read
          have shorter : rest.length < (token :: tokens).length := by
            have some := List.length_pos_iff.mpr derived.ne_nil
            rw [split, List.length_append]
            omega
          obtain ⟨all, bounded⟩ := ih rest.length (length ▸ shorter) second rfl
          rw [← read, split]
          exact ⟨all.cons derived, List.forall_mem_cons.mpr ⟨room, bounded⟩⟩

/-- Only source expressions are derived. -/
theorem Derives.isSource {expr : Expr F} {tokens : List Token} (derived : Derives expr tokens) :
    expr.isSource = true := by
  induction derived with
  | atom name =>
    obtain ⟨value, numeral⟩ | itself := ofAtom_cases (F := F) name
    · rw [numeral]
      rfl
    · rw [itself]
      rfl
  | list parts each ih =>
    rw [Expr.isSource, areSource_iff]
    intro element member
    obtain ⟨part, present, rfl⟩ := List.mem_map.mp member
    exact ih part present

/-- Only source expressions are read. -/
theorem isSource_of_readAllFrom {limit : Nat} {exprs : List (Expr F)} {tokens : List Token}
    (read : readAllFrom limit [] tokens = .ok exprs) : ∀ expr ∈ exprs, expr.isSource = true := by
  obtain ⟨⟨parts, each, rfl, -⟩, -⟩ := derivesAll_of_readAllFrom read
  intro expr member
  obtain ⟨part, present, rfl⟩ := List.mem_map.mp member
  exact (each part present).isSource

/-- Tokens put together from derivations within the limit are read as what they derive. -/
theorem DerivesAll.readAllFrom {limit : Nat} {exprs : List (Expr F)} {tokens : List Token}
    (all : DerivesAll exprs tokens) (bounded : ∀ expr ∈ exprs, expr.nesting ≤ limit) :
    readAllFrom limit [] tokens = .ok exprs := by
  obtain ⟨parts, each, rfl, rfl⟩ := all
  induction parts with
  | nil => rfl
  | cons part parts ih =>
    rw [List.map_cons, List.forall_mem_cons] at bounded
    have derived := each part (List.mem_cons_self ..)
    have first := derived.readFrom_append [] (parts.flatMap Prod.snd)
      (by simpa only [List.length_nil, Nat.zero_add] using bounded.1)
    have others := ih (fun other member => each other (List.mem_cons_of_mem _ member)) bounded.2
    rw [List.flatMap_cons, readAllFrom_eq_readFrom _ _ _ (.inl (by simp [derived.ne_nil])), first]
    simp [place, resume, bind, Except.bind, others, Except.map]

/-- The reader accepts exactly the grammar, under the limit of `read` and `readAll` and under every
other. For tokens that nest within the limit, what it reads first is the one expression that a front
part derives, and what it reads in all is what the tokens derive in order. No derivation is a proper
front part of another. -/
theorem read_eq_ok_iff_derives (limit : Nat) (tokens : List Token)
    (within : Token.nesting tokens ≤ limit) :
    (read (F := F) tokens = readFrom nestingLimit [] tokens ∧
      readAll (F := F) tokens = readAllFrom nestingLimit [] tokens) ∧
    (∀ (expr : Expr F) (rest : List Token), readFrom limit [] tokens = .ok (expr, rest) ↔
      ∃ front, tokens = front ++ rest ∧ Derives expr front) ∧
    (∀ (first second : Expr F) (front other : List Token), Derives first front →
      Derives second other → front <+: tokens → other <+: tokens → first = second ∧ front = other) ∧
    (∀ (first second : Expr F) (front other : List Token), Derives first front →
      Derives second other → front <+: other → first = second ∧ front = other) ∧
    ∀ exprs : List (Expr F), readAllFrom limit [] tokens = .ok exprs ↔ DerivesAll exprs tokens := by
  refine ⟨⟨rfl, rfl⟩, ?_, ?_, ?_, ?_⟩
  · intro expr rest
    constructor
    · intro success
      obtain ⟨front, split, derived, -⟩ := Behind.nil.readFrom (Nat.zero_le _) success
      exact ⟨front, split, derived⟩
    · rintro ⟨front, rfl, derived⟩
      have shallow := Token.nesting_le_append front rest
      rw [derived.nesting_eq] at shallow
      exact derived.readFrom_append [] rest (by rw [List.length_nil]; omega)
  · rintro first second front other one two ⟨rest, split⟩ ⟨others, rfl⟩
    exact one.unique two split
  · rintro first second front other one two ⟨rest, rfl⟩
    exact one.unique two (List.append_nil _).symm
  · intro exprs
    constructor
    · exact fun success => (derivesAll_of_readAllFrom success).1
    · intro all
      refine all.readAllFrom ?_
      obtain ⟨parts, each, rfl, rfl⟩ := all
      have balanced := fun part member => (each part member).balanced
      rw [nesting_parts parts balanced fun part member => (each part member).nesting_eq] at within
      exact (nestings_le_iff _ _).mp within

/-- A list with a list inside it, and a closing parenthesis that is left over. -/
theorem read_eq_ok_iff_derives_surplus :
    let tokens := [Token.opening, .atom ['f'], .opening, .closing, .closing, .closing]
    let expr : Expr Empty := list [symbol ['f'], list []]
    Token.nesting tokens ≤ nestingLimit ∧ read tokens = .ok (expr, [.closing]) ∧
      ∃ front, tokens = front ++ [.closing] ∧ Derives expr front := by
  intro tokens expr
  have within : Token.nesting tokens ≤ nestingLimit := by decide
  have success : read tokens = .ok (expr, [.closing]) := by rfl
  exact ⟨within, success,
    ((read_eq_ok_iff_derives nestingLimit tokens within).2.1 expr [.closing]).mp success⟩

end ParenCalc.Expr
