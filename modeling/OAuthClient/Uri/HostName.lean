import OAuthClient.Text.LowerCase
import OAuthClient.Text.Split
import OAuthClient.Uri.Label.Basic

/-!
# International host names

A host name with characters beyond ASCII is labels with dots between them, and a dot may end it. Four characters count as dots.
-/

namespace OAuthClient.Uri

open OAuthClient.Text

/-- Whether a code point separates labels. -/
def isDot (c : Nat) : Bool :=
  c = 0x2e || c = 0x3002 || c = 0xff0e || c = 0xff61

/-- The ASCII form of an international name, whatever the case of its letters: that of its labels with full stops between them.
A label has at most 63 characters then, and the name 253, not counting a dot at its end. -/
def asciiName? (host : List Char) : Option (List Char) := do
  let cs := host.flatMap fun c => lowerCase c.toNat
  let labels := piecesBy isDot cs
  let (labels, dot) := if labels.getLast? = some [] then (labels.dropLast, [0x2e]) else (labels, [])
  let labels ← labels.mapM Label.ascii?
  let name := join [0x2e] labels
  if cs.length ≤ 254 && labels.all (·.length ≤ 63) && name.length ≤ 253 then some ((name ++ dot).map Char.ofNat) else none

/-- Whether a host is an international name. -/
def isHostName (host : List Char) : Bool :=
  (asciiName? host).isSome

end OAuthClient.Uri
