import OAuthClient.Json.Reader
import OAuthClient.Parameter
import OAuthClient.Failure
import OAuthClient.Uri.Form
import OAuthClient.Validation.Lax

/-!
# Id tokens

What comes back from a sign-in: the id token, an authorization code, the state of the request and the state of the session, and
whatever else the service sends along. It is read from a JSON object, from form fields, or from the bare id token.
-/

namespace OAuthClient

open OAuthClient.Text OAuthClient.Validation

/-- An id token with what was sent along. -/
structure IdToken where
  code : Option String := none
  idToken : String := ""
  state : Option String := none
  sessionState : Option String := none
  /-- The fields without a place of their own, in order. -/
  extra : List (String × Json) := []
  deriving DecidableEq

namespace IdToken

/-- The names of the fields that have a place of their own. -/
def fieldNames : List String := ["code", "id_token", "state", "session_state"]

/-- The id token that the members of an object describe, or the issues of its fields. -/
def ofMembers (members : List (String × Json)) : Except (List Issue) IdToken :=
  let code := readField "code" members none textOrNull
  let idToken := readField "id_token" members "" text
  let state := readField "state" members none textOrNull
  let sessionState := readField "session_state" members none textOrNull
  match code, idToken, state, sessionState with
  | .ok code, .ok idToken, .ok state, .ok sessionState =>
    .ok { code, idToken, state, sessionState, extra := members.filter fun m => !fieldNames.contains m.1 }
  | _, _, _, _ => .error (issuesOf code ++ issuesOf idToken ++ issuesOf state ++ issuesOf sessionState)

/-- The id token that form fields describe: of a name that occurs twice the last value counts. -/
def ofPairs (pairs : List (String × Json)) : Except (List Issue) IdToken :=
  ofMembers (Json.collect pairs)

/-- The id token that a JSON value describes. The names of the fields are texts, so in an object one that is none is an issue, and
then the only one that is told. -/
def ofValue : Json → Except (List Issue) IdToken
  | .obj members => ofMembers members
  | .illNamed _ => .error [Issue.ofName]
  | _ => ofMembers []

/-- The id token of a JSON text, when the stack has room for so many levels. -/
def ofJsonText (cs : List Char) (room : Nat) : Except Fault IdToken :=
  match Json.read cs room with
  | .error ⟨.depth, _⟩ => .error .tooDeep
  | .error flaw =>
    .error (Failure.malformed ("Invalid id token JSON: " ++ flaw.message cs) (some (if flaw.isSyntactic then .json else .value)))
  | .ok v =>
    match ofValue v with
    | .ok t => .ok t
    | .error issues => .error (Failure.malformed "Invalid id token: " (some (.fields issues)))

/-- The text of an id token without what surrounds it: blanks at its ends and the marks at the start of a query or fragment. -/
def bareText (cs : List Char) : List Char :=
  (trim isBlank cs).dropWhile fun c => c == '#' || c == '?'

/-- The id token that a text carries: a JSON object, the id token alone when there is no field in it, or form fields. -/
def ofText (s : String) (room : Nat := Json.stackRoom) : Except Fault IdToken :=
  let cs := bareText s.toList
  if cs.head? = some '\x7b' then ofJsonText cs room
  else if !cs.isEmpty && !cs.contains '=' && !cs.contains '&' then .ok { idToken := String.ofList cs }
  else match Form.decode (String.ofList cs) with
    | .error bad =>
      .error (Failure.malformed ("Invalid id token form data: bad query field: " ++ quoted bad.field) (some .value))
    | .ok pairs =>
      match ofPairs (pairs.map fun (n, v) => (n, .str v)) with
      | .ok t => .ok t
      | .error issues => .error (Failure.malformed "Invalid id token: " (some (.fields issues)))

/-- The id token that octets carry, which must be text in UTF-8. -/
def ofOctets (bs : List UInt8) (room : Nat := Json.stackRoom) : Except Fault IdToken :=
  match Utf8.decode bs with
  | .error _ => .error .octets
  | .ok cs => ofText (String.ofList cs) room

/-- What an id token is made from. -/
inductive Source where
  /-- Named values. -/
  | members (members : List (String × Json))
  /-- The id token, the code, the state and the state of the session. -/
  | values (idToken code state sessionState : Json)
  /-- Form fields that have been read already. -/
  | pairs (pairs : List (String × Json))
  | text (s : String)
  | octets (bs : List UInt8)

/-- The id token that is made from a source. -/
def ofSource (source : Source) (room : Nat := Json.stackRoom) : Except Fault IdToken :=
  match source with
  | .members members => (ofMembers members).mapError .fields
  | .values idToken code state sessionState =>
    (ofMembers [("id_token", idToken), ("code", code), ("state", state), ("session_state", sessionState)]).mapError .fields
  | .pairs pairs => (ofPairs pairs).mapError .fields
  | .text s => ofText s room
  | .octets bs => ofOctets bs room

/-! ## Description -/

/-- The fields by name, in the order in which a description shows them. The id token itself is hidden unless secrets are
shown. -/
def shownFields (t : IdToken) (showSecrets : Bool) : List (String × String) :=
  [("code", (Failure.optional t.code).inspect),
    ("id_token", quoted (if showSecrets then t.idToken else redactedPlaceholder)),
    ("state", (Failure.optional t.state).inspect),
    ("session_state", (Failure.optional t.sessionState).inspect)] ++
    t.extra.map fun (n, v) => (n, v.inspect)

/-- The description of an id token. -/
def describe (t : IdToken) (showSecrets : Bool) : String :=
  Text.description "IdToken" (t.shownFields showSecrets)

/-- The fields of an id token as a text. -/
def summary (t : IdToken) (showSecrets : Bool) : String :=
  Text.fieldTexts " " (t.shownFields showSecrets)

end IdToken

end OAuthClient
