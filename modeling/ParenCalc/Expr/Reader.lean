import ParenCalc.Expr.Basic
import ParenCalc.Number
import ParenCalc.Token

/-! # Reading expressions from tokens

The reader goes through the tokens once and keeps the lists that are still open. Each token opens
a list, closes the innermost one, or adds an atom to it. An expression is finished when no list is
open any more. Only so many lists may be open at a time.

The same reading is a recursive descent: an opening parenthesis reads the elements of its list, each
of which is read in the same way. Both have the same results and the same faults under every limit.
-/

namespace ParenCalc

/-- Why tokens cannot be read as expressions. -/
inductive ReadFault where
  | emptyInput
  | unexpectedClose
  | unclosedList
  | tooDeep
deriving DecidableEq, Repr

namespace Expr

variable {F : Type}

/-- An atom is a number when it reads as one and holds no underscore, and a symbol otherwise. -/
def ofAtom (atom : Text) : Expr F :=
  if atom.contains '_' then symbol atom
  else
    match Number.ofText? atom with
    | some value => number value
    | none => symbol atom

/-- The lists still open, innermost first, each with its elements so far, latest first. -/
abbrev Open (F : Type) := List (List (Expr F))

/-- What a token leads to: a finished expression, or lists still open. -/
inductive Progress (F : Type) where
  | finished (expr : Expr F)
  | reading (openLists : Open F)

/-- An expression goes into the innermost open list, and is finished where none is open. -/
def place (expr : Expr F) : Open F → Progress F
  | [] => .finished expr
  | elements :: outer => .reading ((expr :: elements) :: outer)

/-- The effect of one token when at most `limit` lists may be open. -/
def step (limit : Nat) (openLists : Open F) : Token → Except ReadFault (Progress F)
  | .opening =>
    if openLists.length < limit then .ok (.reading ([] :: openLists)) else .error .tooDeep
  | .closing =>
    match openLists with
    | [] => .error .unexpectedClose
    | elements :: outer => .ok (place (list elements.reverse) outer)
  | .atom name => .ok (place (ofAtom name) openLists)

/-- Reads on to the end of the first expression; also gives the tokens after it. -/
def readFrom (limit : Nat) (openLists : Open F) :
    List Token → Except ReadFault (Expr F × List Token)
  | [] => .error (if openLists.isEmpty then .emptyInput else .unclosedList)
  | token :: rest =>
    match step limit openLists token with
    | .error fault => .error fault
    | .ok (.finished expr) => .ok (expr, rest)
    | .ok (.reading openLists') => readFrom limit openLists' rest

/-- Reads on to the end of the tokens. -/
def readAllFrom (limit : Nat) (openLists : Open F) : List Token → Except ReadFault (List (Expr F))
  | [] => if openLists.isEmpty then .ok [] else .error .unclosedList
  | token :: rest =>
    match step limit openLists token with
    | .error fault => .error fault
    | .ok (.finished expr) => (readAllFrom limit [] rest).map (expr :: ·)
    | .ok (.reading openLists') => readAllFrom limit openLists' rest

/-- The greatest number of lists that may be open at a time. It stands for the room that an interpreter
leaves to the descent below, and results about reading hold under every limit. Only open lists are
charged: neither the work around the reader takes any of the room, nor the recursion over an expression
that was read, as for its text. -/
def nestingLimit : Nat := 480

/-- The first expression, and the tokens after it. -/
def read (tokens : List Token) : Except ReadFault (Expr F × List Token) :=
  readFrom nestingLimit [] tokens

/-- The list whose opening parenthesis stands just before the tokens, and the tokens after it. -/
def readList (tokens : List Token) : Except ReadFault (Expr F × List Token) :=
  readFrom nestingLimit [[]] tokens

/-- All the expressions, in order. -/
def readAll (tokens : List Token) : Except ReadFault (List (Expr F)) :=
  readAllFrom nestingLimit [] tokens

/-! ## Recursive descent -/

/-- What is left of tokens of which at least one was read. -/
abbrev Rest (tokens : List Token) := { rest : List Token // rest.length < tokens.length }

mutual

/-- The first expression, and the tokens after it, when at most `room` lists may be open. -/
def descend (room : Nat) (tokens : List Token) : Except ReadFault (Expr F × Rest tokens) :=
  match tokens with
  | [] => .error .emptyInput
  | .closing :: _ => .error .unexpectedClose
  | .atom name :: rest => .ok (ofAtom name, ⟨rest, Nat.lt_succ_self _⟩)
  | .opening :: rest =>
    match room with
    | 0 => .error .tooDeep
    | inner + 1 =>
      (descendList inner [] rest).map fun (expr, ⟨left, shorter⟩) =>
        (expr, ⟨left, Nat.lt_succ_of_lt shorter⟩)
termination_by (tokens.length, 0)

/-- The list that has the given elements so far, and the tokens after its closing parenthesis. -/
def descendList (room : Nat) (elements : List (Expr F)) (tokens : List Token) :
    Except ReadFault (Expr F × Rest tokens) :=
  match tokens with
  | [] => .error .unclosedList
  | .closing :: rest => .ok (list elements, ⟨rest, Nat.lt_succ_self _⟩)
  | token :: rest =>
    descend room (token :: rest) >>= fun (expr, ⟨left, shorter⟩) =>
      (descendList room (elements ++ [expr]) left).map fun (found, ⟨last, less⟩) =>
        (found, ⟨last, Nat.lt_trans less shorter⟩)
termination_by (tokens.length, 1)

end

/-- All the expressions, one after the other. -/
def descendAll (room : Nat) (tokens : List Token) : Except ReadFault (List (Expr F)) :=
  match tokens with
  | [] => .ok []
  | token :: rest =>
    descend room (token :: rest) >>= fun (expr, ⟨left, _⟩) =>
      (descendAll room left).map (expr :: ·)
termination_by tokens.length
decreasing_by assumption

end Expr

end ParenCalc
