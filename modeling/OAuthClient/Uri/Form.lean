import OAuthClient.Text.Split
import OAuthClient.Uri.Percent

/-!
# Forms

Names with values as one text, the way URL queries and request bodies carry them: each name and its value joined by an equals
sign, and the fields by ampersands. A blank is written in percent form in a URL and as a plus sign in a request body; both are
read.
-/

namespace OAuthClient.Form

open OAuthClient.Text

/-- How a blank is written. -/
inductive Style where
  /-- In percent form. -/
  | percent
  /-- As a plus sign. -/
  | plus
  deriving DecidableEq, Repr

/-- A name or a value in encoded form. -/
def Style.encode (style : Style) (cs : List Char) : List Char :=
  match style with
  | .percent => Percent.encode cs
  | .plus => cs.flatMap fun c => if c == ' ' then ['+'] else Percent.encodeChar Percent.isUnreserved c

/-- A field in encoded form. -/
def encodeField (style : Style) (field : String × String) : List Char :=
  style.encode field.1.toList ++ '=' :: style.encode field.2.toList

/-- Fields as one text. -/
def encode (style : Style) (fields : List (String × String)) : String :=
  String.ofList (join ['&'] (fields.map (encodeField style)))

/-- The text that a name or a value stands for. -/
def decodePart (cs : List Char) : String :=
  String.ofList (Percent.decode (cs.map fun c => if c == '+' then ' ' else c))

/-- A field without an equals sign, as it stands in the text. -/
structure BadField where
  field : String
  deriving DecidableEq, Repr

/-- The name and the value of a field. -/
def decodeField (cs : List Char) : Except BadField (String × String) :=
  match cut '=' cs with
  | (_, none) => .error ⟨String.ofList cs⟩
  | (name, some value) => .ok (decodePart name, decodePart value)

/-- The fields of a list of pieces, or the first piece that is none. -/
def decodeFields : List (List Char) → Except BadField (List (String × String))
  | [] => .ok []
  | piece :: rest => do
    let field ← decodeField piece
    let fields ← decodeFields rest
    return field :: fields

/-- The fields of a text, each of which must have an equals sign. The empty text has no fields. -/
def decode (s : String) : Except BadField (List (String × String)) :=
  if s.isEmpty then .ok [] else decodeFields (pieces '&' s.toList)

/-- The fields of a text as far as they go: a piece without an equals sign is a name with an empty value, and empty pieces are
no fields. -/
def decodeLenient (s : String) : List (String × String) :=
  ((pieces '&' s.toList).filter (!·.isEmpty)).map fun piece =>
    let (name, value) := cut '=' piece
    (decodePart name, decodePart (value.getD []))

end OAuthClient.Form
