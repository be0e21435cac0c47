import OAuthClient.Json.Basic
import OAuthClient.Text.Quoted

/-!
# Values in messages

The text of a value inside messages and where a text is stored in its place. A text stands for itself on its own and is quoted
inside a list or an object.
-/

namespace OAuthClient.Json

/-- The quoted form of a text that is no sequence of characters: halves of surrogate pairs are escaped. -/
def quotedCodes (codes : List Nat) : String :=
  let quote := Text.quoteFor (codes.map charOf)
  String.ofList (quote :: codes.flatMap (fun code =>
    if isHalf code then '\\' :: 'u' :: Text.paddedDigits 16 4 code else Text.quoteChar quote (charOf code)) ++ [quote])

mutual

/-- The text of a value inside another one. -/
def inspect : Json → String
  | .null => "None"
  | .bool b => if b then "True" else "False"
  | .int n => toString n
  | .float x => x.text
  | .str s => Text.quoted s
  | .illFormed codes => quotedCodes codes
  | .arr items => "[" ++ ", ".intercalate (inspectItems items) ++ "]"
  | .obj members => "\x7b" ++ ", ".intercalate (inspectMembers members) ++ "\x7d"
  | .illNamed members => "\x7b" ++ ", ".intercalate (inspectNamed members) ++ "\x7d"

/-- The texts of the items of an array. -/
def inspectItems : List Json → List String
  | [] => []
  | item :: items => inspect item :: inspectItems items

/-- The texts of the members of an object, each with its quoted name. -/
def inspectMembers : List (String × Json) → List String
  | [] => []
  | (name, value) :: members => (Text.quoted name ++ ": " ++ inspect value) :: inspectMembers members

/-- The texts of the members of an object with names as code points. -/
def inspectNamed : List (List Nat × Json) → List String
  | [] => []
  | (name, value) :: members => (quotedCodes name ++ ": " ++ inspect value) :: inspectNamed members

end

/-- The text of a value on its own. -/
def display : Json → String
  | .str s => s
  | .illFormed codes => textOf codes
  | v => inspect v

/-- The name of the kind of a value. -/
def kindName : Json → String
  | .null => "NoneType"
  | .bool _ => "bool"
  | .int _ => "int"
  | .float _ => "float"
  | .str _ => "str"
  | .illFormed _ => "str"
  | .arr _ => "list"
  | .obj _ => "dict"
  | .illNamed _ => "dict"

end OAuthClient.Json
