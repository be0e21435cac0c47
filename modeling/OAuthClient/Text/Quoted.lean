import OAuthClient.Text.Digit
import OAuthClient.Text.Printable

/-!
# Quoted text

The form in which a text appears inside messages and descriptions: between single quotes, with what cannot be printed escaped.
Double quotes are used only for a text that has single quotes and no double ones.
-/

namespace OAuthClient.Text

/-- The quote around a text: single, unless the text has a single quote and no double one. -/
def quoteFor (cs : List Char) : Char :=
  if cs.contains '\'' && !cs.contains '"' then '"' else '\''

/-- An escape by code point, in as few of the widths two, four and eight as hold it. -/
def codeEscape (c : Char) : List Char :=
  if c.toNat < 0x100 then '\\' :: 'x' :: paddedDigits 16 2 c.toNat
  else if c.toNat < 0x10000 then '\\' :: 'u' :: paddedDigits 16 4 c.toNat
  else '\\' :: 'U' :: paddedDigits 16 8 c.toNat

/-- One character inside quotes: the quote and the backslash after a backslash, tab and line ends by letter, other unprintable
characters by code point. -/
def quoteChar (quote c : Char) : List Char :=
  if c == quote || c == '\\' then ['\\', c]
  else if c == '\t' then ['\\', 't']
  else if c == '\n' then ['\\', 'n']
  else if c == '\r' then ['\\', 'r']
  else if isPrintable c then [c]
  else codeEscape c

/-- The quoted form of a text, as characters. -/
def quoteChars (cs : List Char) : List Char :=
  let quote := quoteFor cs
  quote :: cs.flatMap (quoteChar quote) ++ [quote]

/-- The quoted form of a text. -/
def quoted (s : String) : String :=
  String.ofList (quoteChars s.toList)

/-! ## Descriptions -/

/-- Fields by name, each with its value, and a separator between neighbours. -/
def fieldTexts (sep : String) (fields : List (String × String)) : String :=
  sep.intercalate (fields.map fun (n, v) => n ++ "=" ++ v)

/-- The description of a thing: its name and its fields in brackets. -/
def description (name : String) (fields : List (String × String)) : String :=
  name ++ "(" ++ fieldTexts ", " fields ++ ")"

end OAuthClient.Text
