import OAuthClient.Act
import OAuthClient.IdToken
import OAuthClient.Parameter
import OAuthClient.Pkce
import OAuthClient.Store.Scopes
import OAuthClient.Uri.HostName

/-!
# The store

What a client knows during one flow: a value for each parameter that is set, the scopes, and the last token response. Scopes are
a set of their own, which the parameter for the scope writes to and reads from.

An operation that writes either does all it says or fails and leaves the store as it was, but an operation that is a row of
writes ends at the first write that fails.
-/

namespace OAuthClient

/-- A store, with tokens of a given type. -/
structure Store (τ : Type) where
  values : Parameter → Option String := fun _ => none
  scopes : Scopes := ∅
  token : Option τ := none

namespace Store

variable {τ υ : Type}

/-- The store in which nothing is set. -/
def empty : Store τ := {}

/-- The store with a value for a parameter. -/
def setValue (p : Parameter) (v : String) (s : Store τ) : Store τ :=
  { s with values := fun q => if q = p then some v else s.values q }

/-- The store without a value for a parameter. -/
def unsetValue (p : Parameter) (s : Store τ) : Store τ :=
  { s with values := fun q => if q = p then none else s.values q }

/-- The store with its token seen as one of another type, where it can be. -/
def mapToken (f : τ → Option υ) (s : Store τ) : Store υ :=
  { values := s.values, scopes := s.scopes, token := s.token.bind f }

/-! ## Reading -/

/-- The value of a parameter. The scope is set when there are scopes, and its value is all of them. -/
def get? (s : Store τ) (p : Parameter) : Option String :=
  if p = .scope then if s.scopes.isEmpty then none else some (s.scopes.join " ") else s.values p

/-- The value of a parameter that must be set. -/
def get (s : Store τ) (p : Parameter) : Except Failure String :=
  match s.get? p with
  | some v => .ok v
  | none => .error (.missing p.wireName none)

/-- Whether a parameter is set. -/
def contains (s : Store τ) (p : Parameter) : Bool :=
  (s.get? p).isSome

/-- Whether a value is kept under a wire name. -/
def containsKey (s : Store τ) (wireName : String) : Bool :=
  match Parameter.ofWireName? wireName with
  | some p => (s.values p).isSome
  | none => false

/-- The parameters that have a value of their own, in the order of their wire names, with the values. -/
def entries (s : Store τ) : List (Parameter × String) :=
  Parameter.sorted.filterMap fun p => (s.values p).map (p, ·)

/-- The description of a store: the values in the order of their wire names, those of secrets hidden, and the scopes. -/
def describe (s : Store τ) : String :=
  let shown := s.entries.map fun (p, v) => (p.wireName, Text.quoted (if p.isSecret then redactedPlaceholder else v))
  Text.description "OAuthSerializer" (shown ++ [("scopes", (Json.arr (s.scopes.toList.map .str)).inspect)])

/-! ## Writing -/

/-- Checks the value of a parameter that must be a URL with a scheme. -/
def checkUrl (p : Parameter) (v : String) : Except Failure Unit :=
  match Uri.Reference.read Uri.isHostName v.toList with
  | .error flaw => .error (.invalidUrl p.wireName v (some (.url flaw)))
  | .ok r => if r.scheme.isEmpty then .error (.invalidUrl p.wireName v none) else .ok ()

/-- Changes the scopes. -/
def changeScopes (f : Scopes → Scopes) : Act (Store τ) Unit :=
  Act.modify fun s => { s with scopes := f s.scopes }

/-- What the log is told when a parameter is set. The value of a secret is left out. -/
def setMessage (p : Parameter) (v : String) : String :=
  if p.isSecret then "Set " ++ p.wireName else "Set " ++ p.wireName ++ "=" ++ v

/-- Sets a parameter. The scope takes the words of the value and adds them to the scopes. -/
def insert (p : Parameter) (v : String) : Act (Store τ) Unit :=
  if p = .scope then changeScopes (·.insertAll (Text.words v))
  else do
    if p.isUrl then Act.ofExcept ((checkUrl p v).mapError Fault.failure)
    Act.tell .debug Log.storeLogger (setMessage p v)
    Act.modify (setValue p v)

/-- Sets a parameter that is not set, and gives the value that it has then. -/
def entryWith (p : Parameter) (v : String) : Act (Store τ) String := do
  let s ← Act.get
  if !s.contains p then insert p v
  let s ← Act.get
  return (s.get? p).getD ""

/-- Takes the value of a parameter away; for the scope, all scopes. -/
def remove (p : Parameter) : Act (Store τ) Unit :=
  if p = .scope then changeScopes fun _ => ∅ else Act.modify (unsetValue p)

/-- Sets parameters in order, up to the first that cannot be set. -/
def extend (pairs : List (Parameter × String)) : Act (Store τ) Unit :=
  Act.each (fun (p, v) => insert p v) pairs

/-- Points the store at endpoints. -/
def setEndpoints (e : Endpoints) : Act (Store τ) Unit :=
  extend [(.authorizationUrl, e.authorization), (.accessTokenUrl, e.token), (.refreshTokenUrl, e.token)]

/-- Points the store at the endpoints of a cloud for an authority. -/
def authority (cloud : Cloud) (authority : String) : Act (Store τ) Unit :=
  setEndpoints (.forStore cloud authority)

/-- Points the store at the endpoints of a cloud for an authority, with the authorization endpoint at the page for the consent of
an administrator. -/
def adminConsent (cloud : Cloud) (authority : String) : Act (Store τ) Unit :=
  setEndpoints (.adminConsent cloud authority)

/-- Sets a verifier, its challenge and the method between them. -/
def setPkce (pair : Pkce) : Act (Store τ) Unit :=
  extend [(.codeVerifier, pair.verifier), (.codeChallenge, pair.challenge), (.codeChallengeMethod, Pkce.method)]

/-- Takes over what came back from a sign-in. A state that is set already stays, so that it can be compared. -/
def acceptIdToken (t : IdToken) : Act (Store τ) Unit := do
  match t.code with
  | some code => if code ≠ "" then insert .authorizationCode code
  | none => Act.pure ()
  match t.state with
  | some state => if state ≠ "" then let _ ← entryWith .state state
  | none => Act.pure ()
  match t.sessionState with
  | some state => if state ≠ "" then insert .sessionState state
  | none => Act.pure ()
  insert .idToken t.idToken

/-- Keeps a token. Its refresh token, given apart where it has one, becomes the one that is set. -/
def acceptToken (token : τ) (refresh : Option String) : Act (Store τ) Unit := do
  match refresh with
  | some v => insert .refreshToken v
  | none => Act.pure ()
  Act.modify fun s => { s with token := some token }

end Store

end OAuthClient
