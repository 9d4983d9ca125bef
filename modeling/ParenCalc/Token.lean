import ParenCalc.Text.Quoted

/-! # Tokens

Source text is a sequence of parentheses and atoms. A parenthesis is always a token of its own; an
atom is a run of characters that are neither blank nor a parenthesis.
-/

namespace ParenCalc

/-- A parenthesis, or the text of an atom. -/
inductive Token where
  | opening
  | closing
  | atom (text : Text)
deriving DecidableEq, Repr

namespace Token

/-- A token as it stands in the source. -/
def text : Token → Text
  | opening => ['(']
  | closing => [')']
  | atom name => name

/-- The token with the given text. -/
def ofText : Text → Token
  | ['('] => opening
  | [')'] => closing
  | name => atom name

/-- Every text is the text of its token. -/
@[simp] theorem text_ofText (name : Text) : (ofText name).text = name := by
  unfold ofText
  split <;> rfl

/-- A parenthesis with a space on either side; any other character alone. -/
def padded (c : Char) : Text :=
  if c = '(' ∨ c = ')' then [' ', c, ' '] else [c]

/-- Padding the parentheses makes every token a word. -/
def tokenize (source : Text) : List Token :=
  (Text.words (source.flatMap padded)).map ofText

/-- A list of tokens as it is shown: their quoted texts between brackets. -/
def listing (tokens : List Token) : Text :=
  Text.bracketed (tokens.map fun token => Text.quoted token.text)

end Token

end ParenCalc
