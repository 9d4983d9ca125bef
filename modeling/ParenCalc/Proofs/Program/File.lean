import ParenCalc.Program
import ParenCalc.Proofs.Evaluation.Arithmetic
import ParenCalc.Proofs.Reader.Grammar
import ParenCalc.Proofs.Report.Lines
import ParenCalc.Proofs.Session.Queue
import ParenCalc.Proofs.Statement.Tidy

/-! # A whole run on a file

All the statements of a file are read before any of them is run. So a statement that cannot be read
leaves nothing but its report. Otherwise the values are printed in order, up to the first expression
that has none, which is reported. The report names the one statement that is registered at that
moment, and the handler, being fatal, ends the run after it.
-/

namespace ParenCalc

/-- An argument that does not start with a dash is the file. -/
theorem Options.parse_file {path : Text} (plain : path.head? ≠ some '-') :
    Options.parse [path] = .ok { file := some path } := by
  have sorted : Argument.sortAll [path] = .ok [.word path] := by
    cases path with
    | nil => rfl
    | cons c rest =>
      have dash : c ≠ '-' := by
        rintro rfl
        exact plain rfl
      have divided : c :: rest ≠ "--".toList := by
        intro same
        exact dash (List.cons.inj same).1
      have word : Argument.sort (c :: rest) = .ok (.word (c :: rest)) := by
        unfold Argument.sort
        split
        · next same => exact absurd (List.cons.inj same).1 dash
        · next same => exact absurd (List.cons.inj same).1 dash
        · next same => exact absurd (List.cons.inj same).1 dash
        · rfl
      rw [Argument.sortAll, if_neg divided, word]
      rfl
  rw [Options.parse, sorted]
  rfl

namespace Program

open Session

/-- A run that the handler ends after what was printed. -/
def ended (printed : List Notice) : Run := { printed, ending := .error (.exit (.code 1)) }

section File

variable {documents : Documents} (settings : Settings) {lines : List Text}
  (named : settings.path ≠ typedPath) (readable : readLines documents settings.path = .ok lines)
  (quiet : settings.interactive = false)

include named readable in
theorem start_of_readable :
    start {} documents settings = (Session.fresh {} settings).addAll (Statement.group lines) := by
  simp only [start, if_neg named, readable]

include quiet in
theorem fatal_fresh : (Session.fresh {} settings).handler.fatal = true := by
  simp [Session.fresh, Handler.registerFile, quiet]

include named readable in
/-- No session is opened where a statement cannot be read. -/
theorem start_of_unread {before after : List Statement} {statement : Statement}
    (split : Statement.group lines = before ++ statement :: after)
    {exprs : Statement → List (Expr Builtin)}
    (read : ∀ earlier ∈ before, earlier.exprs = .ok (exprs earlier)) {fault : ReadFault}
    (unread : statement.exprs = .error fault) :
    start {} documents settings =
      ⟨register { Session.fresh {} settings with
          queue := before.flatMap fun each => each.queued (exprs each) } statement,
        (before.flatMap fun each => settings.shown each (exprs each)) ++ settings.listing statement,
        .error fault.signal⟩ := by
  rw [start_of_readable settings named readable, split,
    addAll_of_fault (Alone.fresh settings).atRest read unread]
  rfl

include named readable quiet in
/-- The first statement that cannot be read is reported, and nothing is run. -/
theorem runFile_of_unread {before after : List Statement} {statement : Statement}
    (split : Statement.group lines = before ++ statement :: after)
    {exprs : Statement → List (Expr Builtin)}
    (read : ∀ earlier ∈ before, earlier.exprs = .ok (exprs earlier)) {fault : ReadFault}
    (unread : statement.exprs = .error fault) {complaint : Complaint}
    (reported : Reported fault.signal complaint) :
    runFile documents settings =
      ended ((before.flatMap fun each => settings.shown each (exprs each))
        ++ settings.listing statement ++ [reportFor settings.path statement complaint]) := by
  have member : statement ∈ Statement.group lines := by simp [split]
  have guarded := guarded_register_of_fatal
    { Session.fresh {} settings with
      queue := before.flatMap fun each => each.queued (exprs each) }
    (Alone.fresh settings) (Statement.text_ne_nil_of_mem_group member) reported
    ((before.flatMap fun each => settings.shown each (exprs each)) ++ settings.listing statement)
    (fatal_fresh settings quiet)
  rw [runFile, start_of_unread settings named readable split read unread]
  exact congrArg (fun outcome => Run.mk outcome.printed [] (outcome.ending.map fun _ => ())) guarded

section Read

variable {exprs : Statement → List (Expr Builtin)}
  (read : ∀ statement ∈ Statement.group lines, statement.exprs = .ok (exprs statement))

/-- All the expressions of a file, in order, each with its statement. -/
def itemsOf (exprs : Statement → List (Expr Builtin)) (lines : List Text) : List Queued :=
  (Statement.group lines).flatMap fun each => each.queued (exprs each)

/-- Every expression belongs to a statement of the file. -/
theorem mem_of_mem_itemsOf {item : Queued} (member : item ∈ itemsOf exprs lines) :
    item.statement ∈ Statement.group lines ∧ item.expr ∈ exprs item.statement := by
  obtain ⟨statement, present, inside⟩ := List.mem_flatMap.mp member
  obtain ⟨expr, own, rfl⟩ := List.mem_map.mp inside
  exact ⟨present, own⟩

include read in
/-- No failure of an expression that was read is an internal one. -/
theorem internal_of_item {item : Queued} (member : item ∈ itemsOf exprs lines) {fault : EvalFault}
    (failure : Builtin.evaluate item.expr = .error fault) {complaint : Complaint}
    (reported : Reported fault.signal complaint) : complaint.internal = false := by
  obtain ⟨present, own⟩ := mem_of_mem_itemsOf member
  have source := Expr.isSource_of_readAllFrom (read item.statement present) item.expr own
  generalize signalled : fault.signal = signal at reported
  cases reported with
  | complaint => exact Builtin.internal_of_evaluate (Expr.isFilled_of_isSource _ source) failure signalled
  | overflow => rfl

/-- What is shown of a file while its statements are added. -/
def shownOf (settings : Settings) (exprs : Statement → List (Expr Builtin)) (lines : List Text) :
    List Notice :=
  (Statement.group lines).flatMap fun each => settings.shown each (exprs each)

include named readable read in
/-- Where all statements are read, all their expressions are run. -/
theorem start_andThen_run :
    ((start {} documents settings).andThen fun session _ => session.run) =
      (runQueue { Session.fresh {} settings with queue := itemsOf exprs lines }
        (itemsOf exprs lines)).preceded (shownOf settings exprs lines) := by
  rw [start_of_readable settings named readable, addAll_of_read (Alone.fresh settings).atRest read]
  rfl

include quiet in
theorem shownValues_of_quiet (values : List (Expr Builtin)) :
    settings.shownValues values = values.map .value := by
  simp [Settings.shownValues, quiet]

include named readable quiet read in
/-- Where all expressions have values, the values are printed. -/
theorem runFile_of_yields {values : List (Expr Builtin)}
    (each : List.Forall₂ Queued.Yields (itemsOf exprs lines) values) :
    runFile documents settings =
      { printed := shownOf settings exprs lines ++ values.map .value, ending := .ok () } := by
  have ran := runQueue_of_yields
    { Session.fresh {} settings with queue := itemsOf exprs lines }
    (Alone.fresh settings).atRest each
  rw [runFile, start_andThen_run settings named readable read, ran, ← shownValues_of_quiet settings quiet]
  rfl

include named readable quiet read in
/-- The first expression that has no value is reported, after the values before it. -/
theorem runFile_of_fault {before after : List Queued} {item : Queued}
    (split : itemsOf exprs lines = before ++ item :: after) {values : List (Expr Builtin)}
    (each : List.Forall₂ Queued.Yields before values) {fault : EvalFault}
    (failure : Builtin.evaluate item.expr = .error fault) {complaint : Complaint}
    (reported : Reported fault.signal complaint) :
    runFile documents settings =
      ended (shownOf settings exprs lines ++ values.map .value
        ++ [reportFor settings.path item.statement complaint]) := by
  have member : item ∈ itemsOf exprs lines := by simp [split]
  have inhabited := Statement.text_ne_nil_of_mem_group (mem_of_mem_itemsOf member).1
  have ran := runQueue_of_fault
    { Session.fresh {} settings with queue := itemsOf exprs lines }
    (Alone.fresh settings).atRest each failure after
  have guarded := guarded_register_of_fatal
    { Session.fresh {} settings with results := values }
    (Alone.fresh settings) inhabited reported
    (shownOf settings exprs lines ++ settings.shownValues values) (fatal_fresh settings quiet)
  rw [← split] at ran
  rw [runFile, start_andThen_run settings named readable read, ran, ← shownValues_of_quiet settings quiet]
  exact congrArg (fun outcome => Run.mk outcome.printed [] (outcome.ending.map fun _ => ())) guarded

end Read

end File

/-- The report of a statement prints where it starts, its text, and the reason. -/
theorem prints_reportFor (emphasis : Emphasis) (path : Text) (statement : Statement)
    {complaint : Complaint} (usual : complaint.internal = false) :
    Report.Prints emphasis
      (Report.headerLines path (some statement.number) statement.text
        ++ [emphasis.mark "error: ".toList ++ complaint.reason])
      (Notice.renderAll emphasis [reportFor path statement complaint]) := by
  have prints := Report.prints_render emphasis
    ⟨[⟨path, statement.text, some statement.number⟩], complaint⟩
  rw [List.flatMap_singleton, usual, if_neg Bool.false_ne_true, List.nil_append] at prints
  rwa [Notice.renderAll, List.flatMap_singleton]

/-- Values and then a report are printed line by line. -/
theorem prints_values_reportFor (emphasis : Emphasis) (values : List (Expr Builtin)) (path : Text)
    (statement : Statement) {complaint : Complaint} (usual : complaint.internal = false) :
    Report.Prints emphasis
      (values.map Expr.text ++ (Report.headerLines path (some statement.number) statement.text
        ++ [emphasis.mark "error: ".toList ++ complaint.reason]))
      (Notice.renderAll emphasis (values.map .value ++ [reportFor path statement complaint])) := by
  rw [Notice.renderAll_append, Notice.renderAll_values]
  exact (prints_reportFor emphasis path statement usual).after (values.map Expr.text)

/-- The law of a run on a readable file. If a statement cannot be read, no session is opened and
nothing is evaluated; the only thing printed is the report of the first such statement. Otherwise the
values are printed in order, each on its own line, up to the first expression that has none, and that
expression is reported, or all the values are printed. A report has one header, with the path, the
first line and the text of the one statement it is about, and the reason below that; the run ends with
code 1 after it. -/
theorem run_on_file (path : Text) (documents : Documents) (inputs : List Shell.Input)
    (lines : List Text) (named : path ≠ typedPath) (plain : path.head? ≠ some '-')
    (readable : readLines documents path = .ok lines) :
    (∀ before statement after fault, Statement.group lines = before ++ statement :: after →
      (∀ earlier ∈ before, ∃ exprs, earlier.exprs = .ok exprs) → statement.exprs = .error fault →
        (∃ session, start {} documents { path } = .interrupted session fault.signal ∧
          session.results = []) ∧
        ∃ complaint, Reported fault.signal complaint ∧
          run [path] documents inputs = ended [reportFor path statement complaint] ∧
          ∀ emphasis, Report.Prints emphasis
            (Report.headerLines path (some statement.number) statement.text
              ++ [emphasis.mark "error: ".toList ++ fault.reason])
            (Notice.renderAll emphasis (run [path] documents inputs).printed)) ∧
    ∀ exprs : Statement → List (Expr Builtin),
      (∀ statement ∈ Statement.group lines, statement.exprs = .ok (exprs statement)) →
        (∀ values, List.Forall₂ Queued.Yields (itemsOf exprs lines) values →
          run [path] documents inputs = { printed := values.map .value, ending := .ok () } ∧
          ∀ emphasis, Notice.renderAll emphasis (run [path] documents inputs).printed =
            values.flatMap fun value => value.text ++ ['\n']) ∧
        ∀ before item after values fault, itemsOf exprs lines = before ++ item :: after →
          List.Forall₂ Queued.Yields before values → Builtin.evaluate item.expr = .error fault →
            ∃ complaint, Reported fault.signal complaint ∧
              run [path] documents inputs =
                ended (values.map .value ++ [reportFor path item.statement complaint]) ∧
              ∀ emphasis, Report.Prints emphasis
                (values.map Expr.text
                  ++ (Report.headerLines path (some item.statement.number) item.statement.text
                    ++ [emphasis.mark "error: ".toList ++ fault.reason]))
                (Notice.renderAll emphasis (run [path] documents inputs).printed) := by
  have file : run [path] documents inputs = runFile documents { path } := by
    rw [run, Options.parse_file plain]
    rfl
  -- nothing is shown of a statement when no flag asks for it
  have silent : ∀ (exprs : Statement → List (Expr Builtin)) (statements : List Statement),
      (statements.flatMap fun each => Settings.shown { path } each (exprs each)) = [] := by
    intro exprs statements
    exact List.flatMap_eq_nil_iff.mpr fun statement _ => rfl
  rw [file]
  refine ⟨?_, ?_⟩
  · intro before statement after fault split earlier unread
    obtain ⟨complaint, reported⟩ := fault.exists_reported
    choose! exprs read using earlier
    have opened := start_of_unread { path } named readable split read unread
    have ran := runFile_of_unread { path } named readable rfl split read unread reported
    rw [silent] at opened ran
    refine ⟨⟨_, opened, rfl⟩, complaint, reported, ran, ?_⟩
    intro emphasis
    rw [ran, ← ReadFault.reason_of_reported reported]
    exact prints_reportFor emphasis path statement (ReadFault.internal_of_reported reported)
  · intro exprs read
    refine ⟨?_, ?_⟩
    · intro values each
      have ran := runFile_of_yields { path } named readable rfl read each
      rw [shownOf, silent, List.nil_append] at ran
      refine ⟨ran, ?_⟩
      intro emphasis
      rw [ran, Notice.renderAll_values, Text.unlines, List.flatMap_map]
    · intro before item after values fault split each failure
      obtain ⟨complaint, reported⟩ := fault.exists_reported
      have ran := runFile_of_fault { path } named readable rfl read split each failure reported
      rw [shownOf, silent] at ran
      have member : item ∈ itemsOf exprs lines := by simp [split]
      refine ⟨complaint, reported, ran, ?_⟩
      intro emphasis
      rw [ran, ← EvalFault.reason_of_reported reported]
      exact prints_values_reportFor emphasis values path item.statement
        (internal_of_item read member failure reported)

/-- A call of an unbound symbol over two lines is reported after the value before it, and the
expression after it is not run. A surplus parenthesis on the second line suppresses the value of the
first. -/
theorem run_on_file_stopped :
    let encoded (text : String) : List UInt8 := text.toList.map fun c => UInt8.ofNat c.toNat
    let path : Text := ['p']
    let call : Documents := fun _ => some (encoded "+\n(f ;)\n x) -\n")
    let surplus : Documents := fun _ => some (encoded "+\n)\n")
    path ≠ typedPath ∧ path.head? ≠ some '-' ∧
    readLines call path = .ok ["+".toList, "(f ;)".toList, " x) -".toList] ∧
    (run [path] call [] = ended [.value (.native .add), reportFor path ⟨"(f x) -".toList, 2⟩
        { reason := "unbound symbol: f".toList, culprit := ['f'] }] ∧
      Report.Prints .plain ["<native +>".toList, "  File 'p', line 2:".toList, "    (f x) -".toList,
        "error: unbound symbol: f".toList] (Notice.renderAll .plain (run [path] call []).printed)) ∧
    readLines surplus path = .ok ["+".toList, [')']] ∧
    run [path] surplus [] = ended [reportFor path ⟨[')'], 2⟩
      { reason := "unexpected )".toList, culprit := [')'] }] ∧
    Report.Prints .plain ["  File 'p', line 2:".toList, "    )".toList, "error: unexpected )".toList]
      (Notice.renderAll .plain (run [path] surplus []).printed) := by
  intro encoded path call surplus
  have named : path ≠ typedPath := by decide
  have plain : path.head? ≠ some '-' := by decide
  have callLines : readLines call path = .ok ["+".toList, "(f ;)".toList, " x) -".toList] := by rfl
  have surplusLines : readLines surplus path = .ok ["+".toList, [')']] := by rfl
  refine ⟨named, plain, callLines, ?_, surplusLines, ?_⟩
  · let exprs : Statement → List (Expr Builtin) := fun statement =>
      if statement.number = 1 then [.symbol ['+']]
      else [.list [.symbol ['f'], .symbol ['x']], .symbol ['-']]
    have read : ∀ statement ∈ Statement.group ["+".toList, "(f ;)".toList, " x) -".toList],
        statement.exprs = .ok (exprs statement) := by
      have grouped : Statement.group ["+".toList, "(f ;)".toList, " x) -".toList] =
          [⟨['+'], 1⟩, ⟨"(f x) -".toList, 2⟩] := by rfl
      rw [grouped]
      simp only [List.forall_mem_cons]
      exact ⟨rfl, rfl, by simp⟩
    obtain ⟨complaint, reported, ran, printed⟩ :=
      ((run_on_file path call [] _ named plain callLines).2 exprs read).2
        [⟨⟨['+'], 1⟩, .symbol ['+']⟩] ⟨⟨"(f x) -".toList, 2⟩, .list [.symbol ['f'], .symbol ['x']]⟩
        [⟨⟨"(f x) -".toList, 2⟩, .symbol ['-']⟩] [.native .add] (.unbound ['f']) rfl
        (.cons rfl .nil) rfl
    cases reported
    exact ⟨ran, printed .plain⟩
  · obtain ⟨-, complaint, reported, ran, printed⟩ :=
      (run_on_file path surplus [] _ named plain surplusLines).1
        [⟨['+'], 1⟩] ⟨[')'], 2⟩ [] .unexpectedClose rfl (by
          simp only [List.forall_mem_cons]
          exact ⟨⟨[.symbol ['+']], rfl⟩, by simp⟩) rfl
    cases reported
    exact ⟨ran, printed .plain⟩

end Program

end ParenCalc
