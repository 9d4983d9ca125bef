import ParenCalc.Builtin
import ParenCalc.Proofs.Evaluation.Faults

/-! # Arithmetic expressions

In the scope of every program only the symbols `+` and `-` have values, and only functions as such.
So a call succeeds only when its head is one of them and its arguments are all numbers in the end:
the expressions that succeed are the arithmetic ones and the two symbols themselves. `Verdict` says
this of one result, and is kept by every step of the evaluation.
-/

namespace ParenCalc

namespace Expr

variable {F : Type}

/-- Numbers, sums of arithmetic expressions, and differences of at least one. -/
inductive Arithmetic : Expr F → Prop
  | number (value : Float) : Arithmetic (number value)
  | sum (arguments : List (Expr F)) (each : ∀ argument ∈ arguments, Arithmetic argument) :
      Arithmetic (list (symbol ['+'] :: arguments))
  | difference (first : Expr F) (others : List (Expr F))
      (each : ∀ argument ∈ first :: others, Arithmetic argument) :
      Arithmetic (list (symbol ['-'] :: first :: others))

/-- Numbers added from left to right, beginning with zero. -/
def sum (numbers : List Float) : Float := numbers.foldl (· + ·) 0

/-- Numbers subtracted from left to right from the first of them. -/
def difference : List Float → Float
  | [] => 0
  | first :: others => others.foldl (· - ·) first

mutual

/-- The number that an arithmetic expression stands for. -/
def amount : Expr F → Float
  | number value => value
  | list (symbol name :: arguments) =>
    if name = ['+'] then sum (amounts arguments) else difference (amounts arguments)
  | _ => 0

def amounts : List (Expr F) → List Float
  | [] => []
  | argument :: rest => amount argument :: amounts rest

end

end Expr

namespace Builtin

open ParenCalc.Expr

theorem name_cases (function : Builtin) :
    Named.name function = ['+'] ∨ Named.name function = ['-'] := by
  cases function with
  | add => exact .inl rfl
  | sub => exact .inr rfl

/-- In the scope of every program the names of the functions have values, and no others. -/
theorem lookup_scope (name : Text) :
    (∃ function, name = Named.name function ∧ scope.lookup name = some (native function)) ∨
      (∀ function : Builtin, name ≠ Named.name function) ∧ scope.lookup name = none := by
  by_cases plus : name = ['+']
  · subst plus
    exact .inl ⟨add, rfl, rfl⟩
  · by_cases minus : name = ['-']
    · subst minus
      exact .inl ⟨sub, rfl, rfl⟩
    · refine .inr ⟨?_, ?_⟩
      · intro function
        cases function with
        | add => exact plus
        | sub => exact minus
      · have notPlus : (name == ['+']) = false := beq_eq_false_iff_ne.mpr plus
        have notMinus : (name == ['-']) = false := beq_eq_false_iff_ne.mpr minus
        simp [Scope.lookup, Scope.binding?, scope, frame, Named.name, List.lookup_cons, notPlus, notMinus]

/-! ## Verdicts -/

/-- The faults of expressions in which the given symbols stand. -/
inductive Expected (names : List Text) : EvalFault → Prop
  | emptyCall : Expected names .emptyCall
  | notAFunction (head : Text) : Expected names (.notAFunction head)
  | expectsNumbers (function : Builtin) : Expected names (.refused function.expectsNumbers)
  | unbound (name : Text) (member : name ∈ names)
      (other : ∀ function : Builtin, name ≠ Named.name function) : Expected names (.unbound name)

theorem Expected.mono {names more : List Text} {fault : EvalFault} (expected : Expected names fault)
    (included : names ⊆ more) : Expected more fault := by
  cases expected with
  | emptyCall => exact .emptyCall
  | notAFunction head => exact .notAFunction head
  | expectsNumbers function => exact .expectsNumbers function
  | unbound name member other => exact .unbound name (included member) other

/-- What may come of an expression: the amount of an arithmetic one, the function that a symbol
names, and a fault for every other. -/
inductive Verdict (expr : Expr Builtin) : Except EvalFault (Expr Builtin) → Prop
  | amount (arithmetic : Arithmetic expr) : Verdict expr (.ok (number expr.amount))
  | function (function : Builtin) (named : expr = symbol (Named.name function)) :
      Verdict expr (.ok (native function))
  | fault {fault : EvalFault} (expected : Expected expr.symbols fault) (other : ¬Arithmetic expr)
      (unnamed : ∀ function : Builtin, expr ≠ symbol (Named.name function)) :
      Verdict expr (.error fault)

/-- What may come of an argument, in which a symbol without a value is passed on. -/
inductive ArgumentVerdict (argument : Expr Builtin) : Except EvalFault (Expr Builtin) → Prop
  | amount (arithmetic : Arithmetic argument) : ArgumentVerdict argument (.ok (number argument.amount))
  | other {value : Expr Builtin} (other : ¬Arithmetic argument) (notNumber : number? value = none) :
      ArgumentVerdict argument (.ok value)
  | fault {fault : EvalFault} (expected : Expected argument.symbols fault)
      (other : ¬Arithmetic argument) : ArgumentVerdict argument (.error fault)

/-- What may come of all the arguments: all their amounts, or values that are not all numbers. -/
inductive ArgumentsVerdict (arguments : List (Expr Builtin)) :
    Except EvalFault (List (Expr Builtin)) → Prop
  | amounts (arithmetic : ∀ argument ∈ arguments, Arithmetic argument) :
      ArgumentsVerdict arguments (.ok ((amounts arguments).map number))
  | other {values : List (Expr Builtin)} (other : ¬∀ argument ∈ arguments, Arithmetic argument)
      (notNumbers : values.mapM number? = none) : ArgumentsVerdict arguments (.ok values)
  | fault {fault : EvalFault} (expected : Expected (symbolsOfAll arguments) fault)
      (other : ¬∀ argument ∈ arguments, Arithmetic argument) :
      ArgumentsVerdict arguments (.error fault)

theorem not_arithmetic_symbol (name : Text) : ¬Arithmetic (symbol name : Expr Builtin) := by
  intro arithmetic
  cases arithmetic

/-! ## Arguments -/

theorem isUnbound_iff (argument : Expr Builtin) :
    isUnbound scope argument = true ↔ ∃ name, argument = symbol name ∧ scope.lookup name = none := by
  cases argument with
  | symbol name => simp [isUnbound, Scope.binds]
  | _ => simp [isUnbound]

/-- A verdict on an expression gives one on it as an argument. -/
theorem Verdict.argument {room : Nat} {argument : Expr Builtin}
    (verdict : Verdict argument (evalWithin natives scope room argument).result) :
    ArgumentVerdict argument (argumentWithin natives scope room argument).result := by
  unfold argumentWithin
  split
  · next unbound =>
    obtain ⟨name, rfl, -⟩ := (isUnbound_iff argument).mp unbound
    exact .other (not_arithmetic_symbol name) rfl
  · generalize (evalWithin natives scope room argument).result = result at verdict ⊢
    cases verdict with
    | amount arithmetic => exact .amount arithmetic
    | function function named =>
      subst named
      exact .other (not_arithmetic_symbol _) rfl
    | fault expected other _ => exact .fault expected other

theorem mapM_number?_cons (value : Expr Builtin) (values : List (Expr Builtin)) :
    (value :: values).mapM number? = (number? value).bind fun first =>
      (values.mapM number?).map (first :: ·) := by
  rw [List.mapM_cons]
  cases number? value with
  | none => rfl
  | some first => cases values.mapM number? <;> rfl

/-- The values of arguments are not all numbers when the first is not, or the others are not. -/
theorem mapM_number?_cons_eq_none {value : Expr Builtin} {values : List (Expr Builtin)}
    (other : number? value = none ∨ values.mapM number? = none) :
    (value :: values).mapM number? = none := by
  rw [mapM_number?_cons]
  rcases other with first | others
  · rw [first]
    rfl
  · rw [others]
    cases number? value <;> rfl

theorem mapM_number?_numbers (numbers : List Float) :
    (numbers.map (number : Float → Expr Builtin)).mapM number? = some numbers := by
  induction numbers with
  | nil => rfl
  | cons first others ih =>
    rw [List.map_cons, mapM_number?_cons, ih]
    rfl

/-- A verdict on an argument and one on the arguments after it give one on all of them. -/
theorem ArgumentVerdict.cons {argument : Expr Builtin} {rest : List (Expr Builtin)}
    {result : Except EvalFault (Expr Builtin)} {results : Except EvalFault (List (Expr Builtin))}
    (first : ArgumentVerdict argument result) (others : ArgumentsVerdict rest results) :
    ArgumentsVerdict (argument :: rest)
      (result >>= fun value => results >>= fun values => .ok (value :: values)) := by
  have front : symbols argument ⊆ symbolsOfAll (argument :: rest) := List.subset_append_left ..
  have back : symbolsOfAll rest ⊆ symbolsOfAll (argument :: rest) := List.subset_append_right ..
  cases first with
  | amount arithmetic =>
    cases others with
    | amounts each => exact .amounts (List.forall_mem_cons.mpr ⟨arithmetic, each⟩)
    | other other notNumbers =>
      refine .other ?_ (mapM_number?_cons_eq_none (.inr notNumbers))
      exact fun each => other (List.forall_mem_cons.mp each).2
    | fault expected other =>
      exact .fault (expected.mono back) fun each => other (List.forall_mem_cons.mp each).2
  | other other notNumber =>
    have mixed : ¬∀ each ∈ argument :: rest, Arithmetic each :=
      fun each => other (List.forall_mem_cons.mp each).1
    cases others with
    | amounts _ => exact .other mixed (mapM_number?_cons_eq_none (.inl notNumber))
    | other _ _ => exact .other mixed (mapM_number?_cons_eq_none (.inl notNumber))
    | fault expected _ => exact .fault (expected.mono back) mixed
  | fault expected other =>
    exact .fault (expected.mono front) fun each => other (List.forall_mem_cons.mp each).1

/-! ## Calls -/

/-- An arithmetic call has a function's name for its head, and arithmetic arguments. -/
theorem arithmetic_call {head : Expr Builtin} {arguments : List (Expr Builtin)}
    (arithmetic : Arithmetic (list (head :: arguments))) :
    (∃ function : Builtin, head = symbol (Named.name function)) ∧
      ∀ argument ∈ arguments, Arithmetic argument := by
  cases arithmetic with
  | sum _ each => exact ⟨⟨add, rfl⟩, each⟩
  | difference first others each => exact ⟨⟨sub, rfl⟩, each⟩

theorem list_ne_symbol (elements : List (Expr Builtin)) (function : Builtin) :
    list elements ≠ symbol (Named.name function) := by
  intro same
  cases same

theorem natives_of_none (function : Builtin) {values : List (Expr Builtin)}
    (notNumbers : values.mapM number? = none) :
    (natives function values).result = .error (.refused function.expectsNumbers) := by
  have refused : function.apply values = .error function.expectsNumbers := by
    unfold apply
    rw [notNumbers]
    cases function <;> rfl
  rw [natives, refused]
  rfl

/-- A built-in function can only complain of what it was given. -/
theorem refused_of_natives {function : Builtin} {values : List (Expr Builtin)} {fault : EvalFault}
    (failed : (natives function values).result = .error fault) :
    fault = .refused function.expectsNumbers := by
  unfold natives apply at failed
  split at failed <;> cases failed
  rfl

/-- Only built-in functions refuse arguments. -/
theorem refused_of_evaluate {expr : Expr Builtin} {complaint : Complaint}
    (failed : evaluate expr = .error (.refused complaint)) :
    ∃ function : Builtin, complaint = function.expectsNumbers := by
  have covers : Covers natives fun fault => ∀ complaint, fault = .refused complaint →
      ∃ function : Builtin, complaint = function.expectsNumbers := by
    constructor
    · rintro name complaint ⟨⟩
    · rintro complaint ⟨⟩
    · rintro head complaint ⟨⟩
    · rintro complaint ⟨⟩
    · intro function values fault refused complaint same
      obtain rfl := refused_of_natives refused
      exact ⟨function, (EvalFault.refused.inj same).symm⟩
  have overflow : ∀ complaint, EvalFault.tooDeep = .refused complaint →
      ∃ function : Builtin, complaint = function.expectsNumbers := by
    rintro complaint ⟨⟩
  exact expected_of_evalWithin covers scope expr callLimit (.inr overflow) failed complaint rfl

/-- Nothing internal is complained of in an expression that leaves no place empty. -/
theorem internal_of_evaluate {expr : Expr Builtin} (filled : expr.isFilled = true) {fault : EvalFault}
    (failed : evaluate expr = .error fault) {complaint : Complaint}
    (signalled : fault.signal = .complaint complaint) : complaint.internal = false := by
  have silent : ∀ function values, (natives function values).result ≠ .error .emptyPlace := by
    intro function values failed
    cases refused_of_natives failed
  have other := (arises_of_evalWithin scope expr callLimit failed).ne_emptyPlace silent filled
  cases fault with
  | emptyPlace => exact absurd rfl other
  | tooDeep => cases signalled
  | refused complaint =>
    obtain ⟨function, rfl⟩ := refused_of_evaluate failed
    cases signalled
    rfl
  | _ =>
    cases signalled
    rfl

theorem natives_add (numbers : List Float) :
    (natives add (numbers.map number)).result = .ok (number (sum numbers)) := by
  simp only [natives, apply, mapM_number?_numbers]
  rfl

theorem natives_sub (first : Float) (others : List Float) :
    (natives sub ((first :: others).map number)).result = .ok (number (difference (first :: others))) := by
  simp only [natives, apply, mapM_number?_numbers]
  rfl

/-- A function is applied to the values of its arguments. -/
theorem verdict_apply (function : Builtin) {arguments : List (Expr Builtin)}
    {results : Except EvalFault (List (Expr Builtin))} (verdict : ArgumentsVerdict arguments results) :
    Verdict (list (symbol (Named.name function) :: arguments))
      (results >>= fun values => (natives function values).result) := by
  have unnamed := list_ne_symbol (symbol (Named.name function) :: arguments)
  cases verdict with
  | amounts each =>
    change Verdict _ (natives function ((amounts arguments).map number)).result
    cases function with
    | add =>
      rw [natives_add]
      exact .amount (.sum arguments each)
    | sub =>
      -- only a difference needs an argument
      cases arguments with
      | nil =>
        refine .fault (.expectsNumbers sub) ?_ unnamed
        intro arithmetic
        cases arithmetic
      | cons first others =>
        rw [amounts, natives_sub]
        exact .amount (.difference first others each)
  | @other values other notNumbers =>
    change Verdict _ (natives function values).result
    rw [natives_of_none function notNumbers]
    exact .fault (.expectsNumbers function) (fun call => other (arithmetic_call call).2) unnamed
  | fault expected other =>
    refine .fault (expected.mono ?_) (fun call => other (arithmetic_call call).2) unnamed
    exact List.subset_append_right ..

/-- Verdicts on the head and on the arguments give one on the call. -/
theorem Verdict.call {room : Nat} {head : Expr Builtin} {arguments : List (Expr Builtin)}
    {result : Except EvalFault (Expr Builtin)} (verdict : Verdict head result)
    (others : ArgumentsVerdict arguments (argumentsWithin natives scope room arguments).result) :
    Verdict (list (head :: arguments)) (result >>= callWithin natives scope room head arguments) := by
  have unnamed := list_ne_symbol (head :: arguments)
  cases verdict with
  | amount arithmetic =>
    refine .fault (.notAFunction head.text) ?_ unnamed
    intro call
    obtain ⟨⟨function, rfl⟩, -⟩ := arithmetic_call call
    exact not_arithmetic_symbol _ arithmetic
  | function function named =>
    subst named
    exact verdict_apply function others
  | fault expected _ other =>
    refine .fault (expected.mono (List.subset_append_left ..)) ?_ unnamed
    intro call
    obtain ⟨⟨function, named⟩, -⟩ := arithmetic_call call
    exact other function named

/-! ## Whole expressions -/

theorem verdict_symbol (room : Nat) (name : Text) :
    Verdict (symbol name) (evalWithin natives scope room (symbol name)).result := by
  rw [evalWithin]
  rcases lookup_scope name with ⟨function, named, found⟩ | ⟨other, missing⟩
  · rw [found]
    exact .function function (congrArg symbol named)
  · rw [missing]
    refine .fault (.unbound name (List.mem_singleton_self name) other) (not_arithmetic_symbol name) ?_
    intro function named
    exact other function (symbol.inj named)

mutual

/-- Every source expression within its room meets its verdict. -/
theorem verdict_evalWithin : ∀ (expr : Expr Builtin) (room : Nat), expr.isSource = true →
    expr.callDepth ≤ room → Verdict expr (evalWithin natives scope room expr).result
  | number value, room, _, _ => by
    rw [evalWithin]
    exact .amount (.number value)
  | symbol name, room, _, _ => verdict_symbol room name
  | list [], room, _, _ => by
    rw [evalWithin]
    refine .fault .emptyCall ?_ (list_ne_symbol [])
    intro arithmetic
    cases arithmetic
  | list (head :: arguments), room, source, within => by
    rw [isSource, areSource, Bool.and_eq_true] at source
    rw [callDepth, Nat.max_le] at within
    -- a call counts itself, so there is room for it
    obtain ⟨inner, rfl⟩ : ∃ inner, room = inner + 1 := ⟨room - 1, by omega⟩
    rw [evalWithin_call]
    have verdict := verdict_evalWithin head (inner + 1) source.1 within.1
    exact verdict.call (verdict_argumentsWithin arguments inner source.2 (by omega))
  | native function, _, source, _ => by
    rw [isSource] at source
    cases source
  | empty, _, source, _ => by
    rw [isSource] at source
    cases source

/-- All arguments of a call meet theirs. -/
theorem verdict_argumentsWithin : ∀ (arguments : List (Expr Builtin)) (room : Nat),
    areSource arguments = true → callDepths arguments ≤ room →
      ArgumentsVerdict arguments (argumentsWithin natives scope room arguments).result
  | [], room, _, _ => by
    rw [argumentsWithin]
    exact .amounts (by simp)
  | argument :: rest, room, source, within => by
    rw [areSource, Bool.and_eq_true] at source
    rw [callDepths, Nat.max_le] at within
    rw [argumentsWithin_cons]
    have verdict := verdict_evalWithin argument room source.1 within.1
    exact verdict.argument.cons (verdict_argumentsWithin rest room source.2 within.2)

end

/-- An expected fault is a complaint about the program, for one of five reasons. -/
theorem Expected.signal {names : List Text} {fault : EvalFault} (expected : Expected names fault) :
    ∃ complaint, fault.signal = .complaint complaint ∧ complaint.internal = false ∧
      (complaint.reason ∈ ["empty list".toList, "not a function".toList, "+ expects numbers".toList,
          "- expects numbers".toList] ∨
        ∃ name ∈ names, name ≠ ['+'] ∧ name ≠ ['-'] ∧
          complaint.reason = "unbound symbol: ".toList ++ name) := by
  cases expected with
  | emptyCall => exact ⟨_, rfl, rfl, .inl (by decide)⟩
  | notAFunction head =>
    refine ⟨_, rfl, rfl, .inl ?_⟩
    exact List.mem_cons_of_mem _ List.mem_cons_self
  | expectsNumbers function =>
    refine ⟨_, rfl, rfl, .inl ?_⟩
    cases function <;> decide
  | unbound name member other => exact ⟨_, rfl, rfl, .inr ⟨name, member, other add, other sub, rfl⟩⟩

/-- Evaluation in the scope of every program is decided by syntax, under the limit of `evaluate` and
under every other. For source expressions within the limit: exactly the arithmetic ones and the two
function symbols have values, an arithmetic one has its amount for value, and the others lead to a
complaint that is never an internal one. -/
theorem evaluate_source (limit : Nat) (expr : Expr Builtin) (source : expr.isSource = true)
    (within : expr.callDepth ≤ limit) :
    evaluate expr = (evalWithin natives scope callLimit expr).result ∧
    let result := (evalWithin natives scope limit expr).result
    ((∃ value, result = .ok value) ↔
      Arithmetic expr ∨ expr = symbol ['+'] ∨ expr = symbol ['-']) ∧
    (Arithmetic expr → result = .ok (number expr.amount)) ∧
    ∀ fault, result = .error fault → fault ≠ .emptyPlace ∧
      ∃ complaint, fault.signal = .complaint complaint ∧ complaint.internal = false ∧
        (complaint.reason ∈ ["empty list".toList, "not a function".toList, "+ expects numbers".toList,
            "- expects numbers".toList] ∨
          ∃ name ∈ expr.symbols, name ≠ ['+'] ∧ name ≠ ['-'] ∧
            complaint.reason = "unbound symbol: ".toList ++ name) := by
  refine ⟨rfl, ?_⟩
  intro result
  have verdict : Verdict expr result := verdict_evalWithin expr limit source within
  generalize result = outcome at verdict ⊢
  cases verdict with
  | amount arithmetic =>
    refine ⟨⟨fun _ => .inl arithmetic, fun _ => ⟨_, rfl⟩⟩, fun _ => rfl, ?_⟩
    intro fault failure
    cases failure
  | function function named =>
    subst named
    refine ⟨⟨fun _ => .inr ?_, fun _ => ⟨_, rfl⟩⟩, ?_, ?_⟩
    · rcases name_cases function with plus | minus
      · exact .inl (congrArg symbol plus)
      · exact .inr (congrArg symbol minus)
    · intro arithmetic
      exact absurd arithmetic (not_arithmetic_symbol _)
    · intro fault failure
      cases failure
  | fault expected other unnamed =>
    refine ⟨⟨?_, ?_⟩, fun arithmetic => absurd arithmetic other, ?_⟩
    · rintro ⟨value, success⟩
      cases success
    · rintro (arithmetic | plus | minus)
      · exact absurd arithmetic other
      · exact absurd plus (unnamed add)
      · exact absurd minus (unnamed sub)
    · rintro fault ⟨⟩
      refine ⟨?_, expected.signal⟩
      rintro rfl
      cases expected

/-- A difference of sums, one of them empty, has their amounts subtracted for value. A call of an
unbound symbol inside an argument has no value, so it is not arithmetic. -/
theorem evaluate_source_nested :
    let expr : Expr Builtin :=
      list [symbol ['-'], list [symbol ['+'], number 1, number 2], list [symbol ['+']]]
    let stuck : Expr Builtin := list [symbol ['+'], number 1, list [symbol ['f'], symbol ['+']]]
    (expr.isSource = true ∧ expr.callDepth ≤ callLimit ∧
      evaluate expr = .ok (number (difference [sum [1, 2], sum []]))) ∧
    stuck.isSource = true ∧ stuck.callDepth ≤ callLimit ∧
      evaluate stuck = .error (.unbound ['f']) ∧ ¬Arithmetic stuck := by
  intro expr stuck
  have sums : ∀ argument ∈ [list [symbol ['+'], number 1, number 2], (list [symbol ['+']] : Expr Builtin)],
      Arithmetic argument := by
    simp only [List.forall_mem_cons]
    refine ⟨.sum _ ?_, .sum [] (by simp), by simp⟩
    simp only [List.forall_mem_cons]
    exact ⟨.number 1, .number 2, by simp⟩
  have failure : evaluate stuck = .error (.unbound ['f']) := rfl
  obtain ⟨-, success, -, -⟩ := evaluate_source callLimit stuck rfl (by decide)
  refine ⟨⟨rfl, by decide, ?_⟩, rfl, by decide, failure, ?_⟩
  · exact (evaluate_source callLimit expr rfl (by decide)).2.2.1 (.difference _ _ sums)
  · intro arithmetic
    obtain ⟨value, found⟩ := success.mpr (.inl arithmetic)
    cases failure.symm.trans found

end Builtin

end ParenCalc
