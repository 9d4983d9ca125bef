import ParenCalc.Text.Quoted

/-! # Options of the command line

Arguments are sorted first: words, flags, unknown options, and a divider after which everything is
a word. Long flags may be shortened while they stay unambiguous. The sorted arguments are then
taken from left to right: the first word is the file, further words and unknown options are left
over, and what is left over is refused at the end.
-/

namespace ParenCalc

/-- What is asked for on the command line. -/
structure Options where
  file : Option Text := none
  showTokens : Bool := false
  showTree : Bool := false
deriving DecidableEq, Repr

/-- The options that take no argument. -/
inductive Flag where
  | help
  | tokens
  | tree
deriving DecidableEq, Repr

namespace Flag

def names : Flag → List Text
  | help => ["-h".toList, "--help".toList]
  | tokens => ["--tokens".toList]
  | tree => ["--tree".toList]

/-- Every spelling of a flag in full. -/
def spellings : List (Text × Flag) :=
  [help, tokens, tree].flatMap fun flag => flag.names.map (·, flag)

end Flag

/-- Why arguments are refused. -/
inductive Misuse where
  | ambiguous (argument : Text) (matching : List Text)
  | ignoredValue (flag : Flag) (value : Text)
  | unrecognized (arguments : List Text)
deriving DecidableEq, Repr

/-- What the user is told about a misuse. -/
def Misuse.text : Misuse → Text
  | ambiguous argument matching =>
    "ambiguous option: ".toList ++ argument ++ " could match ".toList
      ++ List.intercalate ", ".toList matching
  | ignoredValue flag value =>
    "argument ".toList ++ List.intercalate ['/'] flag.names ++ ": ignored explicit argument ".toList
      ++ Text.quoted value
  | unrecognized arguments =>
    "unrecognized arguments: ".toList ++ List.intercalate [' '] arguments

/-- An argument after sorting. -/
inductive Argument where
  | word (text : Text)
  | divider
  /-- A flag in full or shortened, perhaps with a value after an equals sign. -/
  | long (flag : Flag) (value : Option Text)
  /-- The short flag, with what is attached to it. -/
  | short (attached : Text)
  | unknown (text : Text)
deriving DecidableEq, Repr

namespace Argument

/-- An option and the value after its equals sign. -/
def splitValue (text : Text) : Text × Option Text :=
  match text.dropWhile (· != '=') with
  | [] => (text, none)
  | _ :: value => (text.takeWhile (· != '='), some value)

/-- Negative numbers count as words: digits, or digits with a point before the last of them. -/
def isNegativeNumber : Text → Bool
  | '-' :: rest =>
    let body := if rest.getLast? = some '\n' then rest.dropLast else rest
    let whole := body.takeWhile Text.isDigit
    match body.dropWhile Text.isDigit with
    | [] => !whole.isEmpty
    | '.' :: places => !places.isEmpty && places.all Text.isDigit
    | _ => false
  | _ => false

/-- Sorts an argument that starts with two dashes. -/
def sortLong (text : Text) : Except Misuse Argument :=
  let (name, value) := splitValue text
  match Flag.spellings.lookup name with
  | some flag => .ok (long flag value)
  | none =>
    match Flag.spellings.filter fun spelling => name.isPrefixOf spelling.1 with
    | [] => .ok (if text.contains ' ' then word text else unknown text)
    | [(_, flag)] => .ok (long flag value)
    | several => .error (.ambiguous text (several.map Prod.fst))

/-- Sorts one argument before the divider. -/
def sort : Text → Except Misuse Argument
  | '-' :: '-' :: rest => sortLong ('-' :: '-' :: rest)
  | '-' :: 'h' :: attached => .ok (short attached)
  | '-' :: c :: rest =>
    let text := '-' :: c :: rest
    .ok (if isNegativeNumber text || text.contains ' ' then word text else unknown text)
  | text => .ok (word text)

/-- Sorts the arguments up to the divider; what follows it are words. -/
def sortAll : List Text → Except Misuse (List Argument)
  | [] => .ok []
  | text :: rest =>
    if text = "--".toList then .ok (divider :: rest.map word)
    else do
      let first ← sort text
      return first :: (← sortAll rest)

end Argument

/-- Why no options are given back: the usage was asked for, or the arguments are refused. -/
inductive Refusal where
  | usage
  | misuse (misuse : Misuse)
deriving DecidableEq, Repr

namespace Options

/-- Short flags may be run together after the first; they ask for the usage, unless something else
follows them, which would be a value. -/
def furtherFlags : Text → Refusal
  | [] => .usage
  | 'h' :: rest => furtherFlags rest
  | value => .misuse (.ignoredValue .help value)

/-- What the short flag leads to, given what is attached to it. An equals sign right after the flag
divides it from what follows, but then something has to follow. -/
def attached : Text → Refusal
  | ['='] => .misuse (.ignoredValue .help [])
  | '=' :: rest => furtherFlags rest
  | rest => furtherFlags rest

/-- Takes sorted arguments from left to right. `vacant` says that no file was taken yet, and
`leftOver` holds what is refused at the end, the latest first. -/
def take (options : Options) (vacant : Bool) (leftOver : List Text) :
    List Argument → Except Refusal Options
  | [] =>
    if leftOver.isEmpty then .ok options
    else .error (.misuse (.unrecognized leftOver.reverse))
  | .word text :: .divider :: rest =>
    if vacant then take { options with file := some text } false leftOver rest
    else take options false ("--".toList :: text :: leftOver) rest
  | .word text :: rest =>
    if vacant then take { options with file := some text } false leftOver rest
    else take options false (text :: leftOver) rest
  | .divider :: .word text :: rest =>
    if vacant then take { options with file := some text } false leftOver rest
    else take options false (text :: "--".toList :: leftOver) rest
  | .divider :: rest =>
    if vacant then take options false leftOver rest
    else take options false ("--".toList :: leftOver) rest
  | .long flag (some value) :: _ => .error (.misuse (.ignoredValue flag value))
  | .long .help none :: _ => .error .usage
  | .long .tokens none :: rest => take { options with showTokens := true } vacant leftOver rest
  | .long .tree none :: rest => take { options with showTree := true } vacant leftOver rest
  | .short text :: _ => .error (attached text)
  | .unknown text :: rest => take options vacant (text :: leftOver) rest

/-- The options that the arguments ask for. -/
def parse (arguments : List Text) : Except Refusal Options :=
  match Argument.sortAll arguments with
  | .error misuse => .error (.misuse misuse)
  | .ok sorted => take {} true [] sorted

end Options

end ParenCalc
