import OAuthClient.Failure

/-!
# Failures from arguments

A failure can be made by a caller too, from the name of its kind and what it is about, in order or by name.
-/

namespace OAuthClient

/-- The kind with a name. -/
def Kind.ofName? (name : String) : Option Kind :=
  all.find? (·.name = name)

namespace Failure

/-- The names of what a failure of a kind is about, in order. -/
def argumentNames : Kind → List String
  | .invalidUrl => ["parameter", "value"]
  | .missing => ["alias", "message"]
  | .exclusive => ["first", "second"]
  | .unsupported => ["grant", "request", "message"]
  | .transport => ["message", "status_code", "error", "error_description"]
  | .browser => ["uri"]
  | _ => []

/-- The message of a failure that is about nothing else: nothing, one value, or several in brackets. -/
def plainMessage : List Json → String
  | [] => ""
  | [v] => v.display
  | list => "(" ++ ", ".intercalate (list.map Json.inspect) ++ ")"

/-- A value as a text that need not be there. -/
def textValue : Json → Option String
  | .null => none
  | v => some v.display

/-- A value as a whole number that need not be there. -/
def wholeValue : Json → Option Int
  | .int n => some n
  | _ => none

/-- The failure of a kind that is about named values, or `none` when a value that it needs is not there. -/
def ofNamed? (kind : Kind) (arguments : List Json) (named : List (String × Json)) : Option Failure := do
  let values := (argumentNames kind).zip arguments ++ named
  let text (name : String) : Option String := (Json.find? name values).map Json.display
  let value (name : String) : Json := (Json.find? name values).getD .null
  match kind with
  | .general => return .general (plainMessage arguments)
  | .configuration => return .configuration (plainMessage arguments)
  | .malformed => return .malformed (plainMessage arguments) none
  | .invalidUrl => return .invalidUrl (← text "parameter") (← text "value") none
  | .missing => return .missing (← text "alias") (textValue (value "message"))
  | .exclusive => return .exclusive (← text "first") (← text "second")
  | .unsupported => return .unsupported (← text "grant") (← text "request") (← text "message")
  | .transport =>
    return .transport (← text "message") (wholeValue (value "status_code")) (value "error") (value "error_description") none
  | .browser => return .browser (← text "uri")

end Failure

end OAuthClient
