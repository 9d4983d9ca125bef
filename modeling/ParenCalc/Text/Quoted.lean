import ParenCalc.Text.Basic

/-! # Quoted text

Text is quoted with apostrophes, or with double quotes when it holds an apostrophe and no double
quote. The quote in use, the backslash and every character that does not show are escaped, so
quoted text stands on one line.
-/

namespace ParenCalc.Text

def apostrophe : Char := '\x27'

def doubleQuote : Char := '\x22'

def backslash : Char := '\x5c'

/-- Double quotes are used only where they save an escape. -/
def quoteFor (text : Text) : Char :=
  if text.contains apostrophe && !text.contains doubleQuote then doubleQuote else apostrophe

/-- The shortest of the three hexadecimal escapes that holds the code point. -/
def hexEscape (c : Char) : Text :=
  if c.toNat < 0x100 then backslash :: 'x' :: ofHex 2 c.toNat
  else if c.toNat < 0x10000 then backslash :: 'u' :: ofHex 4 c.toNat
  else backslash :: 'U' :: ofHex 8 c.toNat

/-- A character as it stands between quotes. -/
def escaped (quote c : Char) : Text :=
  if c = quote ∨ c = backslash then [backslash, c]
  else if c = '\n' then [backslash, 'n']
  else if c = '\r' then [backslash, 'r']
  else if c = '\t' then [backslash, 't']
  else if isPrintable c then [c]
  else hexEscape c

/-- Text between quotes, with its escapes. -/
def quoted (text : Text) : Text :=
  let quote := quoteFor text
  quote :: text.flatMap (escaped quote) ++ [quote]

/-- Items between brackets, with a comma and a space between them. -/
def bracketed (items : List Text) : Text :=
  '[' :: List.intercalate [',', ' '] items ++ [']']

end ParenCalc.Text
