import ParenCalc.Proofs.Program.File
import ParenCalc.Proofs.Shell.Flags

/-! # What the flags of a run change

A path that is taken for a file when it stands alone is taken for the same file in front of flags, and
the flags are then set. A run on a file goes through the same states with flags as without, so all that
the flags have shown stands in front; and whatever the file is, the run returns or ends with code 1. The
same holds line by line for the shell.
-/

namespace ParenCalc

/-! ## The arguments -/

/-- One of the flags that have something shown. -/
def Flag.Shows (flag : Text) : Prop := flag = "--tokens".toList ∨ flag = "--tree".toList

namespace Argument

/-- What a flag that has something shown is sorted into. -/
def ofFlag (flag : Text) : Argument := .long (if flag = "--tokens".toList then .tokens else .tree) none

theorem sortAll_of_shows {flags : List Text} (known : ∀ flag ∈ flags, Flag.Shows flag) :
    sortAll flags = .ok (flags.map ofFlag) := by
  induction flags with
  | nil => rfl
  | cons flag rest ih =>
    obtain ⟨first, later⟩ := List.forall_mem_cons.mp known
    rw [sortAll, ih later]
    rcases first with rfl | rfl
    · rfl
    · rfl

end Argument

namespace Options

open Argument

theorem take_of_shows {flags : List Text} (known : ∀ flag ∈ flags, Flag.Shows flag)
    (options : Options) (vacant : Bool) :
    take options vacant [] (flags.map ofFlag) = .ok { options with
      showTokens := options.showTokens || flags.contains "--tokens".toList
      showTree := options.showTree || flags.contains "--tree".toList } := by
  induction flags generalizing options with
  | nil => simp [take]
  | cons flag rest ih =>
    obtain ⟨first, later⟩ := List.forall_mem_cons.mp known
    rcases first with rfl | rfl
    · have taken := ih later { options with showTokens := true }
      simpa [take, ofFlag] using taken
    · have taken := ih later { options with showTree := true }
      simpa [take, ofFlag] using taken

/-- A path that is the file when it stands alone is a word in front of any divider. -/
theorem sort_of_parse {path : Text} (file : parse [path] = .ok { file := some path }) :
    path ≠ "--".toList ∧ sort path = .ok (.word path) := by
  have undivided : path ≠ "--".toList := by
    rintro rfl
    cases file
  have sortAll : sortAll [path] = (sort path).map fun first => [first] := by
    rw [Argument.sortAll, if_neg undivided]
    cases sort path <;> rfl
  rw [parse, sortAll] at file
  refine ⟨undivided, ?_⟩
  cases sorted : sort path with
  | error misuse =>
    rw [sorted] at file
    cases file
  | ok argument =>
    -- any other argument sets a flag, is refused or leaves the place of the file vacant
    simp only [sorted, Except.map] at file
    cases argument with
    | word text =>
      cases file
      rfl
    | divider => cases file
    | long flag value =>
      cases value with
      | some value => cases file
      | none => cases flag <;> cases file
    | short attached => cases file
    | unknown text => cases file

/-- Flags after a file are set and leave the file as it is. -/
theorem parse_with_flags {path : Text} (file : parse [path] = .ok { file := some path })
    {flags : List Text} (known : ∀ flag ∈ flags, Flag.Shows flag) :
    parse (path :: flags) = .ok {
      file := some path
      showTokens := flags.contains "--tokens".toList
      showTree := flags.contains "--tree".toList } := by
  obtain ⟨undivided, word⟩ := sort_of_parse file
  have sorted : sortAll (path :: flags) = .ok (.word path :: flags.map ofFlag) := by
    rw [sortAll, if_neg undivided, word, sortAll_of_shows known]
    rfl
  have first : take {} true [] (.word path :: flags.map ofFlag) =
      take { file := some path } false [] (flags.map ofFlag) := by
    cases flags <;> rfl
  rw [parse, sorted]
  simp only [first, take_of_shows known, Bool.false_or]

end Options

namespace Program

open Session Outcome

/-! ## A run on a file -/

/-- What keeps a file from being read is reported. -/
theorem complaintFor_of_unreadable {documents : Documents} {path : Text} {signal : Signal}
    (unreadable : readLines documents path = .error signal) :
    ∃ complaint, Handler.complaintFor signal = some complaint := by
  unfold readLines at unreadable
  split at unreadable
  · cases unreadable
    exact ⟨_, rfl⟩
  · split at unreadable
    · cases unreadable
      exact ⟨_, rfl⟩
    · split at unreadable
      · cases unreadable
        exact ⟨_, rfl⟩
      · cases unreadable

/-- A run whose session is not opened ends with code 1. -/
theorem ending_runFile_of_unopened {documents : Documents} {settings : Settings}
    (quiet : settings.interactive = false) {signal : Signal} {complaint : Complaint}
    (unopened : start {} documents settings = .interrupted (fresh {} settings) signal)
    (told : Handler.complaintFor signal = some complaint) :
    (runFile documents settings).ending = .error (.exit (.code 1)) := by
  have failure : ((start {} documents settings).andThen fun session _ => session.run) =
      .interrupted (fresh {} settings) signal := by
    rw [unopened, interrupted_andThen]
  have ending : (Handler.guarded (Outcome.interrupted (α := Unit) (fresh {} settings) signal)).ending =
      .error (.exit (.code 1)) :=
    Handler.ending_guarded_of_fatal rfl told (fatal_fresh settings quiet)
  rw [runFile, failure]
  simp only [ending]
  rfl

/-- A run on a file returns or ends with code 1, whatever the file is. -/
theorem ending_runFile (documents : Documents) {settings : Settings}
    (quiet : settings.interactive = false) :
    (runFile documents settings).ending = .ok () ∨
      (runFile documents settings).ending = .error (.exit (.code 1)) := by
  by_cases typed : settings.path = typedPath
  · have reserved : start {} documents settings = .interrupted (fresh {} settings)
        (.complaint { reason := "'<in>' is a reserved filename".toList }) := by
      simp only [start, if_pos typed, quiet]
      rfl
    exact .inr (ending_runFile_of_unopened quiet reserved rfl)
  cases readable : readLines documents settings.path with
  | error signal =>
    obtain ⟨complaint, told⟩ := complaintFor_of_unreadable readable
    have unopened : start {} documents settings = .interrupted (fresh {} settings) signal := by
      simp only [start, if_neg typed, readable]
    exact .inr (ending_runFile_of_unopened quiet unopened told)
  | ok lines =>
    obtain ⟨_, all⟩ | ⟨before, statement, after, _, fault, split, all, unread⟩ :=
      values_or_first_fault Statement.exprs (Statement.group lines)
    · have some : ∀ statement ∈ Statement.group lines, ∃ exprs, statement.exprs = .ok exprs :=
        fun _ => exists_value_of_mem all
      choose! exprs read using some
      obtain ⟨values, each⟩ | ⟨before, item, after, values, fault, split, each, failure⟩ :=
        values_or_first_fault (fun item => Builtin.evaluate item.expr) (itemsOf exprs lines)
      · left
        rw [runFile_of_yields settings typed readable quiet read each]
      · right
        obtain ⟨complaint, reported⟩ := fault.exists_reported
        rw [runFile_of_fault settings typed readable quiet read split each failure reported]
        rfl
    · right
      have some : ∀ earlier ∈ before, ∃ exprs, earlier.exprs = .ok exprs :=
        fun _ => exists_value_of_mem all
      choose! exprs read using some
      obtain ⟨complaint, reported⟩ := fault.exists_reported
      rw [runFile_of_unread settings typed readable quiet split read unread reported]
      rfl

/-- Flags only have something shown before all else that a run on a file prints. -/
theorem runFile_flagged (showTokens showTree : Bool) (documents : Documents) {settings : Settings}
    (quiet : settings.Quiet) :
    let plain := runFile documents settings
    let full := runFile documents (settings.flagged showTokens showTree)
    (∃ shown, (∀ notice ∈ shown, notice.AskedFor showTokens showTree) ∧
      full.printed = shown ++ plain.printed) ∧
    full.errors = plain.errors ∧ full.ending = plain.ending := by
  intro plain full
  have related : ShowsBefore (Notice.AskedFor showTokens showTree) (·.flagged showTokens showTree)
      ((start {} documents settings).andThen fun session _ => session.run)
      ((start {} documents (settings.flagged showTokens showTree)).andThen
        fun session _ => session.run) := by
    apply (start_flagged showTokens showTree {} documents quiet).andThen_alike
    intro session _
    exact session.run_flagged showTokens showTree
  obtain ⟨-, ending, shown⟩ := (guarded_flagged showTokens showTree related).exists_shown
  exact ⟨shown, rfl, congrArg (Except.map fun _ => ()) ending⟩

/-! ## Two runs -/

/-- Flags only print in front. With flags after the file, a run prints lists of tokens and trees that
the flags ask for, and then what it prints without them; both runs end alike, and they return or end
with code 1. Of two shells that were given the same lines, one with flags and one without, a further
line gets the same reply, leaves the same text, prompt, line number, results and trace, and is answered
with what the flags ask for in front of what is printed without them. -/
theorem flags_only_print_in_front :
    (∀ (path : Text) (flags : List Text) (documents : Documents) (inputs : List Shell.Input),
      Options.parse [path] = .ok { file := some path } →
      (∀ flag ∈ flags, flag = "--tokens".toList ∨ flag = "--tree".toList) →
      let plain := run [path] documents inputs
      let full := run (path :: flags) documents inputs
      (∃ shown, (∀ notice ∈ shown, notice.AskedFor (flags.contains "--tokens".toList)
          (flags.contains "--tree".toList)) ∧ full.printed = shown ++ plain.printed) ∧
      full.errors = plain.errors ∧ full.ending = plain.ending ∧
      (plain.ending = .ok () ∨ plain.ending = .error (.exit (.code 1)))) ∧
    ∀ (showTokens showTree : Bool) (history : List Text) (line : Text),
      let plain := ((Shell.opened false false).after history).take line
      let full := ((Shell.opened showTokens showTree).after history).take line
      full.ending = plain.ending ∧ full.state.pending = plain.state.pending ∧
      full.state.prompt = plain.state.prompt ∧ full.state.lineNumber = plain.state.lineNumber ∧
      full.state.session.results = plain.state.session.results ∧
      full.state.session.handler = plain.state.session.handler ∧
      ∃ shown, (∀ notice ∈ shown, notice.AskedFor showTokens showTree) ∧
        full.printed = shown ++ plain.printed := by
  constructor
  · intro path flags documents inputs file known plain full
    have alone : plain = runFile documents { path } := by
      simp only [plain, run, file]
      rfl
    have followed : full = runFile documents (Settings.flagged { path }
        (flags.contains "--tokens".toList) (flags.contains "--tree".toList)) := by
      simp only [full, run, Options.parse_with_flags file known]
      rfl
    have quiet : Settings.Quiet { path } := ⟨rfl, rfl⟩
    obtain ⟨shown, errors, ending⟩ := runFile_flagged (flags.contains "--tokens".toList)
      (flags.contains "--tree".toList) documents quiet
    rw [alone, followed]
    exact ⟨shown, errors, ending, ending_runFile documents rfl⟩
  · intro showTokens showTree history line plain full
    have related := Shell.take_flagged showTokens showTree (Shell.quiet_after history) line
    rw [← Shell.after_flagged] at related
    obtain ⟨state, ending, shown⟩ := related.exists_shown
    have same : full.state = plain.state.flagged showTokens showTree := state
    rw [same]
    exact ⟨ending, rfl, rfl, rfl, rfl, rfl, shown⟩

/-- A file whose second statement cannot be read has a report printed, after three things that the
flags ask for: the tokens and the tree of the first statement and the tokens of the second. -/
theorem flags_only_print_in_front_unread :
    let documents : Documents := fun _ => some ("+\n)\n".toList.map fun c => UInt8.ofNat c.toNat)
    let plain := run [['p']] documents []
    let full := run [['p'], "--tree".toList, "--tokens".toList] documents []
    plain.ending = .error (.exit (.code 1)) ∧ full.ending = .error (.exit (.code 1)) ∧
    ∃ shown, shown.length = 3 ∧ (∀ notice ∈ shown, notice.AskedFor true true) ∧
      full.printed = shown ++ plain.printed := by
  intro documents plain full
  have file : Options.parse [['p']] = .ok { file := some ['p'] } := rfl
  obtain ⟨⟨shown, asked, printed⟩, -, ending, -⟩ := flags_only_print_in_front.1 ['p']
    ["--tree".toList, "--tokens".toList] documents [] file (by simp)
  have stopped : plain.ending = .error (.exit (.code 1)) := rfl
  refine ⟨stopped, ending.trans stopped, shown, ?_, asked, printed⟩
  have one : plain.printed.length = 1 := rfl
  have four : full.printed.length = 4 := rfl
  have both : full.printed.length = shown.length + plain.printed.length := by
    rw [show full.printed = _ from printed, List.length_append]
  omega

end Program

end ParenCalc
