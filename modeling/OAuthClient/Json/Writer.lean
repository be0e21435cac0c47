import OAuthClient.Json.Basic
import OAuthClient.Text.Digit

/-!
# Writing JSON

The JSON text of a value, without blanks. Quotes, backslashes and control characters are escaped, all other characters stand for
themselves.
-/

namespace OAuthClient.Json

/-- One character between the quotes of a JSON text. -/
def writeChar (c : Char) : List Char :=
  if c == '"' || c == '\\' then ['\\', c]
  else if c.toNat < 0x20 then '\\' :: 'u' :: Text.paddedDigits 16 4 c.toNat
  else [c]

/-- One code point between the quotes of a JSON text. -/
def writeCode (code : Nat) : List Char :=
  if isHalf code then '\\' :: 'u' :: Text.paddedDigits 16 4 code else writeChar (charOf code)

/-- A string as JSON text. -/
def writeString (s : String) : List Char :=
  '"' :: s.toList.flatMap writeChar ++ ['"']

/-- A string of code points as JSON text. -/
def writeCodes (codes : List Nat) : List Char :=
  '"' :: codes.flatMap writeCode ++ ['"']

mutual

/-- A value as JSON text. -/
def writeChars : Json → List Char
  | .null => "null".toList
  | .bool b => if b then "true".toList else "false".toList
  | .int n => (toString n).toList
  | .float x =>
    match x with
    | .nan => "NaN".toList
    | .infinite negative => if negative then "-Infinity".toList else "Infinity".toList
    | x => x.text.toList
  | .str s => writeString s
  | .illFormed codes => writeCodes codes
  | .arr items => '[' :: writeItems items ++ [']']
  | .obj members => '\x7b' :: writeMembers members ++ ['\x7d']
  | .illNamed members => '\x7b' :: writeNamed members ++ ['\x7d']

/-- The items of an array as JSON text, with commas between them. -/
def writeItems : List Json → List Char
  | [] => []
  | [item] => writeChars item
  | item :: items => writeChars item ++ ',' :: writeItems items

/-- The members of an object as JSON text, with commas between them. -/
def writeMembers : List (String × Json) → List Char
  | [] => []
  | [(name, value)] => writeString name ++ ':' :: writeChars value
  | (name, value) :: members => writeString name ++ ':' :: (writeChars value ++ ',' :: writeMembers members)

/-- The members of an object with names as code points as JSON text, with commas between them. -/
def writeNamed : List (List Nat × Json) → List Char
  | [] => []
  | [(name, value)] => writeCodes name ++ ':' :: writeChars value
  | (name, value) :: members => writeCodes name ++ ':' :: (writeChars value ++ ',' :: writeNamed members)

end

/-- A value as JSON text. -/
def write (v : Json) : String :=
  String.ofList (writeChars v)

end OAuthClient.Json
