import OAuthClient.Credential.Code
import OAuthClient.Credential.CodeUrl
import OAuthClient.Credential.OpenIdUrl
import OAuthClient.Credential.TokenFlowUrl
import OAuthClient.Session.Basic

/-!
# Sessions on credentials

A session fills in a draft of one kind of credential, value by value, and keeps what it builds under names. What is built is a
value of its own: the draft can change afterwards without a change of what was built from it.
-/

namespace OAuthClient

/-- A kind of credential. -/
inductive CredentialKind where
  | code
  | codeUrl
  | tokenFlowUrl
  | openIdUrl
  deriving DecidableEq, Repr

/-- The kind of credential with a name. -/
def CredentialKind.ofName? : String → Option CredentialKind
  | "AuthorizationCodeCredential" => some .code
  | "AuthorizationCodeAuthorizationUrl" => some .codeUrl
  | "TokenFlowAuthorizationUrl" => some .tokenFlowUrl
  | "OpenIdAuthorizationUrl" => some .openIdUrl
  | _ => none

/-- A credential of any kind. -/
inductive Draft where
  | code (c : CodeCredential)
  | codeUrl (u : CodeUrl)
  | tokenFlowUrl (u : TokenFlowUrl)
  | openIdUrl (u : OpenIdUrl)

namespace Draft

open OAuthClient.Session

/-! ## Values -/

/-- A value as a text that need not be there. -/
def textValue : Json → Option String
  | .null => none
  | v => some v.display

/-- A value as a list of texts: the items of a list, or the characters of a text. -/
def listValue (v : Json) : Except Fault (List String) :=
  (Token.itemsOf v).map (·.map Json.display)

/-- A value as a prompt that need not be there. -/
def promptValue : Json → Except Fault (Option Prompt)
  | .null => .ok none
  | v => (choice "Prompt" Prompt.ofWireName? v).map some

/-- The value of a list of texts. -/
def listJson (list : List String) : Json := .arr (list.map .str)

/-! ## Fields by name -/

/-- Sets a field of a credential with a code by its name. -/
def setCodeField (field : String) (v : Json) (c : CodeCredential) : Except Fault CodeCredential :=
  match field with
  | "client_id" => .ok { c with clientId := textValue v }
  | "client_secret" => .ok { c with clientSecret := textValue v }
  | "redirect_uri" => .ok { c with redirectUri := textValue v }
  | "authorization_code" => .ok { c with authorizationCode := textValue v }
  | "refresh_token" => .ok { c with refreshToken := textValue v }
  | "code_verifier" => .ok { c with codeVerifier := textValue v }
  | "scopes" => (listValue v).map fun scopes => { c with scopes }
  | "authority" => .ok { c with authority := textValue v }
  | _ => .error .unknownOperation

/-- Sets a field of an authorization URL of the code grant by its name. -/
def setCodeUrlField (field : String) (v : Json) (u : CodeUrl) : Except Fault CodeUrl :=
  match field with
  | "client_id" => .ok { u with clientId := textValue v }
  | "redirect_uri" => .ok { u with redirectUri := textValue v }
  | "authority" => .ok { u with authority := textValue v }
  | "response_mode" => .ok { u with responseMode := textValue v }
  | "response_type" => .ok { u with responseType := textValue v }
  | "nonce" => .ok { u with nonce := textValue v }
  | "state" => .ok { u with state := textValue v }
  | "scopes" => (listValue v).map fun scopes => { u with scopes }
  | "prompt" => (promptValue v).map fun prompt => { u with prompt }
  | "domain_hint" => .ok { u with domainHint := textValue v }
  | "login_hint" => .ok { u with loginHint := textValue v }
  | "code_verifier" => .ok { u with codeVerifier := textValue v }
  | "code_challenge" => .ok { u with codeChallenge := textValue v }
  | "code_challenge_method" => .ok { u with codeChallengeMethod := textValue v }
  | _ => .error .unknownOperation

/-- Sets a field of an authorization URL of the token flow by its name. -/
def setTokenFlowUrlField (field : String) (v : Json) (u : TokenFlowUrl) : Except Fault TokenFlowUrl :=
  match field with
  | "client_id" => .ok { u with clientId := textValue v }
  | "redirect_uri" => .ok { u with redirectUri := textValue v }
  | "scopes" => (listValue v).map fun scopes => { u with scopes }
  | "response_type" => .ok { u with responseType := textValue v }
  | _ => .error .unknownOperation

/-- Sets a field of an authorization URL of a sign-in by its name. -/
def setOpenIdUrlField (field : String) (v : Json) (u : OpenIdUrl) : Except Fault OpenIdUrl :=
  match field with
  | "client_id" => .ok { u with clientId := textValue v }
  | "redirect_uri" => .ok { u with redirectUri := textValue v }
  | "response_types" => (listValue v).map fun responseTypes => { u with responseTypes }
  | "response_mode" => .ok { u with responseMode := textValue v }
  | "nonce" => .ok { u with nonce := textValue v }
  | "state" => .ok { u with state := textValue v }
  | "scopes" => (listValue v).map fun scopes => { u with scopes }
  | "prompts" => (listValue v).map fun prompts => { u with prompts }
  | "domain_hint" => .ok { u with domainHint := textValue v }
  | "login_hint" => .ok { u with loginHint := textValue v }
  | "authority" => .ok { u with authority := textValue v }
  | _ => .error .unknownOperation

/-- Sets a field by its name. -/
def setField (field : String) (v : Json) : Draft → Except Fault Draft
  | .code c => (setCodeField field v c).map .code
  | .codeUrl u => (setCodeUrlField field v u).map .codeUrl
  | .tokenFlowUrl u => (setTokenFlowUrlField field v u).map .tokenFlowUrl
  | .openIdUrl u => (setOpenIdUrlField field v u).map .openIdUrl

/-- The fields by name. -/
def fields : Draft → List (String × Json)
  | .code c =>
    [("client_id", Failure.optional c.clientId), ("client_secret", Failure.optional c.clientSecret),
      ("redirect_uri", Failure.optional c.redirectUri), ("authorization_code", Failure.optional c.authorizationCode),
      ("refresh_token", Failure.optional c.refreshToken), ("code_verifier", Failure.optional c.codeVerifier),
      ("scopes", listJson c.scopes), ("authority", Failure.optional c.authority)]
  | .codeUrl u =>
    [("client_id", Failure.optional u.clientId), ("redirect_uri", Failure.optional u.redirectUri),
      ("authority", Failure.optional u.authority), ("response_mode", Failure.optional u.responseMode),
      ("response_type", Failure.optional u.responseType), ("nonce", Failure.optional u.nonce),
      ("state", Failure.optional u.state), ("scopes", listJson u.scopes),
      ("prompt", Failure.optional (u.prompt.map Prompt.wireName)), ("domain_hint", Failure.optional u.domainHint),
      ("login_hint", Failure.optional u.loginHint), ("code_verifier", Failure.optional u.codeVerifier),
      ("code_challenge", Failure.optional u.codeChallenge),
      ("code_challenge_method", Failure.optional u.codeChallengeMethod)]
  | .tokenFlowUrl u =>
    [("client_id", Failure.optional u.clientId), ("redirect_uri", Failure.optional u.redirectUri),
      ("scopes", listJson u.scopes), ("response_type", Failure.optional u.responseType)]
  | .openIdUrl u =>
    [("client_id", Failure.optional u.clientId), ("redirect_uri", Failure.optional u.redirectUri),
      ("response_types", listJson u.responseTypes), ("response_mode", Failure.optional u.responseMode),
      ("nonce", Failure.optional u.nonce), ("state", Failure.optional u.state), ("scopes", listJson u.scopes),
      ("prompts", listJson u.prompts), ("domain_hint", Failure.optional u.domainHint),
      ("login_hint", Failure.optional u.loginHint), ("authority", Failure.optional u.authority)]

/-! ## Setters -/

/-- The field that a setter of any kind sets, where the name differs. -/
def fieldOf (setter : String) : String :=
  match setter with
  | "tenant" => "authority"
  | "scope" => "scopes"
  | _ => setter

/-- Whether a draft has a setter of this name. -/
def hasSetter : Draft → String → Bool
  | .code _, setter =>
    ["authorization_code", "refresh_token", "redirect_uri", "client_id", "client_secret", "tenant", "authority", "code_verifier",
      "scope"].contains setter
  | .codeUrl _, setter =>
    ["redirect_uri", "client_id", "tenant", "authority", "response_type", "response_mode", "nonce", "state", "scope", "prompt",
      "domain_hint", "login_hint", "code_challenge", "code_challenge_method"].contains setter
  | .tokenFlowUrl _, setter => ["client_id", "redirect_uri", "scope"].contains setter
  | .openIdUrl _, setter =>
    ["redirect_uri", "client_id", "tenant", "authority", "response_type", "response_mode", "nonce", "state", "scope", "prompt",
      "domain_hint", "login_hint"].contains setter

/-- Sets a value by the name of its setter. A sign-in takes lists of response types and prompts; the response type of the code
grant must be one of the closed list. -/
def setValue (setter : String) (v : Json) (d : Draft) : Except Fault Draft :=
  if d.hasSetter setter then
    match d, setter with
    | .openIdUrl _, "response_type" => d.setField "response_types" v
    | .openIdUrl _, "prompt" => d.setField "prompts" v
    | .codeUrl _, "response_type" => do
      let t ← choice "ResponseType" ResponseType.ofWireName? v
      d.setField "response_type" (.str t.wireName)
    | d, setter => d.setField (fieldOf setter) v
  else .error .unknownOperation

/-- Sets fields in order. -/
def setFields (members : List (String × Json)) (d : Draft) : Except Fault Draft :=
  members.foldlM (fun d m => d.setField m.1 m.2) d

end Draft

/-- The state of a session. -/
structure CredentialSession where
  draft : Draft
  /-- What was built, by name, the latest first. -/
  built : List (String × Draft) := []
  /-- The requests by name, the latest first. -/
  requests : List (String × Request) := []
  /-- Where the time and random octets come from. -/
  supply : Session.Supply

namespace CredentialSession

open OAuthClient.Session

/-- A step of a session. Names and values are as the caller gives them. -/
inductive Step where
  | set (setter : String) (value : Json)
  | setPkce
  | setDefaultScope
  | build (keepAs : String)
  | new (arguments : List Json) (keepAs : String)
  | create (members : List (String × Json)) (keepAs : String)
  | fields (name : String)
  | grant (name : String)
  | url (name : Option String) (host : Option Json)
  | uri (name : String) (host : Option Json)
  | form (name : String)
  | request (name : String) (nonblocking : Bool) (host : Option Json) (keepAs : String)
  | send (name : String) (timeout : Binary64) (delivery : Delivery)

/-- What a step answers. -/
inductive Answer where
  /-- The draft itself, for the next call. -/
  | itself
  | fields (list : List (String × Json))
  | text (s : String)
  | pairs (list : List (String × String))
  | request (r : Request)
  | sent (s : Sent)

/-- The empty draft of a kind. A sign-in takes a random nonce unless one will be given. -/
def emptyDraft (kind : CredentialKind) (nonceGiven : Bool) : Act Supply Draft :=
  match kind with
  | .code => return .code {}
  | .codeUrl => return .codeUrl {}
  | .tokenFlowUrl => return .tokenFlowUrl {}
  | .openIdUrl =>
    if nonceGiven then return .openIdUrl { nonce := none }
    else do
      let octets ← Supply.draw
      return .openIdUrl { nonce := some (OpenIdUrl.nonceOf octets) }

/-- A session with an empty draft of a kind. -/
def start (kind : CredentialKind) (supply : Supply) : Except Fault CredentialSession :=
  let run := emptyDraft kind false supply
  run.result.map fun draft => { draft, supply := run.state }

/-- The kind of the draft. -/
def kind (s : CredentialSession) : CredentialKind :=
  match s.draft with
  | .code _ => .code
  | .codeUrl _ => .codeUrl
  | .tokenFlowUrl _ => .tokenFlowUrl
  | .openIdUrl _ => .openIdUrl

/-- An act on the supply. -/
def onSupply {α : Type} (act : Act Supply α) : Act CredentialSession α :=
  Act.within supply (fun supply s => { s with supply }) act

/-- Keeps what was built under a name. -/
def keep (name : String) (d : Draft) : Act CredentialSession Answer := do
  Act.modify fun s => { s with built := (name, d) :: s.built }
  return .fields d.fields

/-- The names of the fields that positional arguments give. -/
def positional : CredentialKind → List String
  | .code => ["client_id", "client_secret", "authorization_code", "redirect_uri"]
  | .codeUrl => ["client_id", "redirect_uri"]
  | .tokenFlowUrl => ["client_id", "redirect_uri", "scopes"]
  | .openIdUrl => ["client_id", "redirect_uri"]

/-- The URL of a draft at the cloud of a host. Values that must be there are checked before the host is. -/
def urlOf (d : Draft) (host : Option Json) : Act CredentialSession String :=
  match d with
  | .code _ => Act.fail .unknownOperation
  | .codeUrl u => Credential.onFresh do
    u.insertIdentity
    let cloud ← lift (cloudOr host)
    u.complete cloud
  | .tokenFlowUrl u => u.url
  | .openIdUrl u => Credential.onFresh do
    u.insertIdentity
    let cloud ← lift (cloudOr host)
    u.complete cloud

/-- The credential with a code that is kept under a name. -/
def codeNamed (name : String) (s : CredentialSession) : Except Fault CodeCredential := do
  match ← named name s.built with
  | .code c => return c
  | _ => .error .unknownOperation

/-- Does a step that changes the draft or builds from it. -/
def draftStep : Step → Act CredentialSession Answer
  | .set setter v => do
    let s ← Act.get
    let draft ← lift (s.draft.setValue setter v)
    Act.modify fun s => { s with draft }
    return .itself
  | .setPkce => do
    match (← Act.get).draft with
    | .codeUrl u =>
      let octets ← onSupply Supply.draw
      Act.modify fun s => { s with draft := .codeUrl (u.setPkce (.ofOctets octets)) }
      return .itself
    | _ => Act.fail .unknownOperation
  | .setDefaultScope => do
    match (← Act.get).draft with
    | .openIdUrl u =>
      let octets ← onSupply Supply.draw
      Act.modify fun s => { s with draft := .openIdUrl (u.setDefaultScope (OpenIdUrl.nonceOf octets)) }
      return .itself
    | _ => Act.fail .unknownOperation
  | .build name => do
    keep name (← Act.get).draft
  | .new arguments name => do
    let s ← Act.get
    let empty ← onSupply (emptyDraft s.kind false)
    keep name (← lift (empty.setFields ((positional s.kind).zip arguments)))
  | .create members name => do
    let s ← Act.get
    let empty ← onSupply (emptyDraft s.kind (members.any (·.1 = "nonce")))
    keep name (← lift (empty.setFields members))
  | _ => Act.fail .unknownOperation

/-- Does a step of a session. -/
def perform : Step → Act CredentialSession Answer
  | .fields name => do
    return .fields (← lift (named name (← Act.get).built)).fields
  | .grant name => do
    match ← lift (named name (← Act.get).built) with
    | .code _ => return .text CodeCredential.grant.name
    | .codeUrl _ => return .text CodeUrl.grant.name
    | .tokenFlowUrl _ => Act.fail .unknownOperation
    | .openIdUrl _ => return .text OpenIdUrl.grant.name
  | .url name host => do
    let s ← Act.get
    match name with
    | none => return .text (← urlOf s.draft host)
    | some name => return .text (← urlOf (← lift (named name s.built)) host)
  | .uri name host => do
    let c ← lift ((← Act.get).codeNamed name)
    let cloud ← lift (cloudOr host)
    return .text (← c.uri cloud)
  | .form name => do
    let c ← lift ((← Act.get).codeNamed name)
    return .pairs (← c.form)
  | .request name nonblocking host keepAs => do
    let c ← lift ((← Act.get).codeNamed name)
    let cloud ← lift (cloudOr host)
    let r ← c.request nonblocking cloud
    Act.modify fun s => { s with requests := (keepAs, r) :: s.requests }
    return .request r
  | .send name timeout delivery => do
    let s ← Act.get
    let r ← lift (named name s.requests)
    return .sent (← Session.send s.supply.now r timeout delivery)
  | step => draftStep step

end CredentialSession

end OAuthClient
