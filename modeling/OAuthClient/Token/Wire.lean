import OAuthClient.Token.Basic
import OAuthClient.Validation.Moment

/-!
# Tokens from the wire

How a token is read from the answer of a token endpoint. A response must carry the access token, its type and its lifetime;
fields without a place of their own are kept. Times that a response carries must be times, but do not count: the clock decides.
-/

namespace OAuthClient

open OAuthClient.Text OAuthClient.Validation

namespace Token

/-- The names of the fields that have a place of their own. -/
def declaredNames : List String :=
  ["access_token", "token_type", "expires_in", "ext_expires_in", "scope", "refresh_token", "user_id", "id_token", "state",
    "correlation_id", "client_info", "timestamp", "expires_on"]

/-- A lifetime: a text is a whole number on its own, anything else is read leniently. -/
def readLifetime : Json → Except Problem Int
  | .str s => ofText s
  | .illFormed codes => ofText (Json.textOf codes)
  | v => integer v
where
  /-- A lifetime in a text. -/
  ofText (s : String) : Except Problem Int :=
    (Integer.read (trim isBlank s.toList)).mapError fun flaw => .rule (flaw.message (strip s))

/-- The scopes: nothing, a text with spaces between them, or a list of texts. -/
def readScopes : Json → Except (List Issue) (List String)
  | .null => .ok []
  | .str s => .ok (((pieces ' ' s.toList).filter (!·.isEmpty)).map String.ofList)
  | .illFormed codes => textList "scope" (.arr (((pieces ' '.toNat codes).filter (!·.isEmpty)).map Json.ofCodes))
  | v => textList "scope" v

/-- The value of a field in the members of an object, and its default when it is not there. -/
def given (members : List (String × Json)) (f : Field) : Json :=
  (Json.find? f.name members).getD f.default

/-- The issue of a field that is read as a text, or as a text or nothing. -/
def textIssues (members : List (String × Json)) (f : Field) (required : Bool) : List Issue :=
  match given members f with
  | .str _ => []
  | .null => if required then [⟨[.field f.name], .notText⟩] else []
  | .illFormed _ => [⟨[.field f.name], .notUnicode⟩]
  | _ => [⟨[.field f.name], .notText⟩]

/-- The issue of a time field. -/
def momentIssues (members : List (String × Json)) (name : String) : List Issue :=
  match momentOrNull ((Json.find? name members).getD .null) with
  | .ok () => []
  | .error p => [⟨[.field name], p⟩]

/-- The fields that are texts or nothing. -/
def optionalTexts : List Field := [.refreshToken, .userId, .idToken, .state, .correlationId, .clientInfo]

/-- The token that the members of an object describe, without times, or the issues of its fields. -/
def ofMembers (members : List (String × Json)) : Except (List Issue) Token :=
  let lifetime := readField "expires_in" members 0 readLifetime
  let extLifetime := readField "ext_expires_in" members none integerOrNull
  let scopes := readScopes (given members .scope)
  let issues := textIssues members .accessToken true ++ textIssues members .tokenType true ++ issuesOf lifetime ++
    issuesOf extLifetime ++ issuesOf scopes ++ optionalTexts.flatMap (textIssues members · false) ++
    momentIssues members "timestamp" ++ momentIssues members "expires_on"
  match lifetime, extLifetime, scopes, issues with
  | .ok lifetime, .ok extLifetime, .ok scopes, [] =>
    .ok {
      values := fun
        | .extExpiresIn => extLifetime.elim .null .int
        | .scope => .arr (scopes.map .str)
        | f => given members f
      expiresIn := lifetime
      timestamp := .value .null
      expiresOn := .value .null
      extra := members.filter fun m => !declaredNames.contains m.1 }
  | _, _, _, issues => .error issues

/-- A token issued now. -/
def issue (now : Instant) (t : Token) : Except Fault Token :=
  let run := stamp now t
  run.result.map fun _ => run.state

/-- The token that named values describe, issued now. -/
def construct (now : Instant) (members : List (String × Json)) : Except Fault Token :=
  match ofMembers members with
  | .error issues => .error (.fields issues)
  | .ok t => issue now t

/-- The fields that every response must carry. -/
def requiredNames : List String := ["access_token", "token_type", "expires_in"]

/-- The required fields that a response does not carry. -/
def missingNames (members : List (String × Json)) : List String :=
  requiredNames.filter fun name => (Json.find? name members).getD .null = .null

/-- A response that does not carry all the required fields. -/
def missingFailure (missing : List String) : Failure :=
  .malformed ("Invalid token response: missing " ++ ", ".intercalate missing) none

/-- The token that the members of a response describe. -/
def ofResponseMembers (now : Instant) (members : List (String × Json)) : Except Fault Token :=
  match missingNames members with
  | [] =>
    match ofMembers members with
    | .error issues => .error (Failure.malformed "Invalid token response: " (some (.fields issues)))
    | .ok t => issue now t
  | missing => .error (missingFailure missing)

/-- Why the members of a response describe no token when one of their names is no text. -/
def illNamedFailure (members : List (List Nat × Json)) : Failure :=
  match missingNames (Json.wellNamed members) with
  | [] => .malformed "Invalid token response: " (some (.fields [Issue.ofName]))
  | missing => missingFailure missing

/-- The token that a value describes, which must be an object. -/
def ofJson (now : Instant) : Json → Except Fault Token
  | .obj members => ofResponseMembers now members
  | .illNamed members => .error (illNamedFailure members)
  | _ => .error .unknownOperation

/-- Where a JSON text comes from: a text, or octets whose encoding is told by their beginning. -/
inductive Source where
  | text (s : String)
  | octets (bs : List UInt8)

/-- Why a source has no value. -/
inductive Source.Flaw where
  /-- It is no JSON text, for a cause with a message. -/
  | malformed (message : String) (cause : Cause)
  /-- It is nested deeper than the stack has room for. -/
  | tooDeep
  deriving DecidableEq

/-- What a flaw of a text makes of its source. -/
def Source.Flaw.ofText (cs : List Char) (flaw : Json.Flaw) : Source.Flaw :=
  match flaw.problem with
  | .depth => .tooDeep
  | _ => .malformed (flaw.message cs) (if flaw.isSyntactic then .json else .value)

/-- The value of a source when the stack has room for so many levels, or why there is none. -/
def Source.read (source : Source) (room : Nat) : Except Source.Flaw Json :=
  match source with
  | .text s => (Json.read s.toList room).mapError (Source.Flaw.ofText s.toList)
  | .octets bs =>
    match decodeDetected bs with
    | .error flaw => .error (.malformed flaw.message .encoding)
    | .ok codes => (Json.readCodes codes room).mapError (Source.Flaw.ofText (codes.map Json.charOf))

/-- The token of a response body. -/
def ofSource (now : Instant) (source : Source) (room : Nat) : Except Fault Token :=
  match source.read room with
  | .error .tooDeep => .error .tooDeep
  | .error (.malformed message cause) =>
    .error (Failure.malformed ("Token response is not valid JSON: " ++ message) (some cause))
  | .ok (.obj members) => ofResponseMembers now members
  | .ok (.illNamed members) => .error (illNamedFailure members)
  | .ok _ => .error (Failure.malformed "Token response must be a JSON object" none)

/-- A response of a token endpoint. -/
structure Response where
  status : Int
  body : List UInt8

namespace Response

/-- Whether a response reports success. -/
def isSuccess (r : Response) : Bool :=
  200 ≤ r.status && r.status ≤ 299

/-- The error and its description that a response carries. Both are null when the body is no object, and a body that is nested too
deep is none that can be looked at. -/
def oauthError (r : Response) (room : Nat) : Except Fault (Json × Json) :=
  match (Source.octets r.body).read room with
  | .ok v => .ok ((v.member? "error").getD .null, (v.member? "error_description").getD .null)
  | .error .tooDeep => .error .tooDeep
  | .error (.malformed ..) => .ok (.null, .null)

/-- What a response that reports no success says went wrong: its error with the description, where it has them, and otherwise
its status. -/
def detail (r : Response) (error description : Json) : String :=
  if error.truthy then
    if description.truthy then error.display ++ ": " ++ description.display else error.display
  else "HTTP " ++ toString r.status

/-- The failure that a response reports. -/
def failure (r : Response) (error description : Json) : Failure :=
  .transport ("Token request failed: " ++ r.detail error description) (some r.status) error description none

end Response

/-- The token of a response. A response without success is told to the log and is a failure. -/
def ofResponse {σ : Type} (now : Instant) (r : Response) (room : Nat) : Act σ Token :=
  if r.isSuccess then Act.ofExcept (ofSource now (.octets r.body) room)
  else do
    let (error, description) ← Act.ofExcept (r.oauthError room)
    Act.tell .error Log.tokenLogger ("Token request failed (" ++ toString r.status ++ "): " ++ r.detail error description)
    Act.fail (r.failure error description)

/-- The items of a value, where it has any: of a list its items, of a text its characters, of an object its names. -/
def itemsOf : Json → Except Fault (List Json)
  | .arr items => .ok items
  | .str s => .ok (s.toList.map fun c => .str (String.ofList [c]))
  | .illFormed codes => .ok (codes.map fun code => Json.ofCodes [code])
  | .obj members => .ok (members.map fun m => .str m.1)
  | .illNamed members => .ok (members.map fun m => Json.ofCodes m.1)
  | v => .error (.items v.kindName)

/-- The token with a type, a lifetime, an access token and scopes, issued now. Scopes that count as unset are none. -/
def new (now : Instant) (tokenType lifetime accessToken scopes : Json) : Except Fault Token := do
  let items ← if scopes.truthy then itemsOf scopes else .ok []
  construct now [("token_type", tokenType), ("expires_in", lifetime), ("access_token", accessToken), ("scope", .arr items)]

end Token

end OAuthClient
