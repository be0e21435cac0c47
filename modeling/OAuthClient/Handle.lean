import OAuthClient.Request

/-!
# Handles

A handle builds the requests of one grant from a store of its own, a copy of the one it was made from. Each request is built
from a fresh copy of that store, so the values that one request fills in never reach another, and what happens to other stores
never reaches the handle.
-/

namespace OAuthClient

/-- What requests a handle offers. -/
inductive Handle.Family where
  /-- Only a page for the browser. -/
  | browserOnly
  /-- Also forms for a first token and for a fresh one. -/
  | exchange
  /-- Also a form that asks for a device code. -/
  | device
  deriving DecidableEq, Repr

/-- A handle for one grant. -/
structure Handle where
  family : Handle.Family
  nonblocking : Bool
  grant : Grant
  store : Store Token

namespace Handle

/-- The name of the class of a handle. -/
def className (h : Handle) : String :=
  match h.family, h.nonblocking with
  | .browserOnly, _ => "ImplicitGrant"
  | .exchange, false => "AccessTokenGrant"
  | .exchange, true => "AsyncAccessTokenGrant"
  | .device, false => "DeviceCodeGrant"
  | .device, true => "AsyncDeviceCodeGrant"

/-- The choices that a store offers: the name of each, what the handle offers, and its grant. -/
def choices : List (String × Family × Grant) :=
  [("token_flow", .browserOnly, .tokenFlow), ("code_flow", .exchange, .codeFlow), ("implicit_grant", .browserOnly, .implicit),
    ("authorization_code_grant", .exchange, .authorizationCode), ("device_code", .device, .deviceCode),
    ("open_id_connect", .exchange, .openId), ("client_credentials", .exchange, .clientCredentials),
    ("resource_owner_password_credentials", .exchange, .passwordCredentials)]

/-- The name of the class that offers the choices. -/
def selectorName (nonblocking : Bool) : String :=
  if nonblocking then "AsyncGrantSelector" else "GrantSelector"

/-- The handle that a choice makes from a store. -/
def select? (name : String) (nonblocking : Bool) (store : Store Token) : Option Handle :=
  (choices.lookup name).map fun (family, grant) => { family, nonblocking, grant, store }

/-- An act on a fresh copy of the store, which leaves the store of the handle as it is. -/
def onCopy {σ α : Type} (h : Handle) (act : Act (Store Token) α) : Act σ α := fun t =>
  let run := act h.store
  ⟨run.result, t, run.records⟩

/-- The URL of the authorization. -/
def authorizationUrl {σ : Type} (h : Handle) : Act σ String :=
  h.onCopy (Store.authorizationUrl h.grant)

/-- The page for the browser. A failure to build it is kept in the request. -/
def browserRequest {σ : Type} (h : Handle) : Act σ Request := do
  let target ← Act.attempt h.authorizationUrl
  match target with
  | .ok _ => Act.pure ()
  | .error f =>
    Act.tell .debug Log.requestLogger ("Authorization request for " ++ h.grant.name ++ " not built: " ++ f.message)
  return .browser target

/-- The form for a phase. A failure to build it is kept in the request. -/
def formRequest {σ : Type} (h : Handle) (phase : Phase) : Act σ Request := do
  let target ← Act.attempt (h.onCopy (Store.formRequest h.grant phase))
  match target with
  | .ok _ => Act.pure ()
  | .error f =>
    Act.tell .debug Log.requestLogger (phase.name ++ " request for " ++ h.grant.name ++ " not built: " ++ f.message)
  return .form h.nonblocking target

/-- A call on a handle. -/
inductive Call where
  | url
  | authorizationUrl
  | browserAuthorization
  | accessToken
  | refreshToken
  | authorization
  deriving DecidableEq, Repr

/-- The call with a name. -/
def Call.ofName? : String → Option Call
  | "url" => some .url
  | "authorization_url" => some .authorizationUrl
  | "browser_authorization" => some .browserAuthorization
  | "access_token" => some .accessToken
  | "refresh_token" => some .refreshToken
  | "authorization" => some .authorization
  | _ => none

/-- Whether a handle offers a call. -/
def offers (h : Handle) : Call → Bool
  | .url => h.family = .browserOnly
  | .authorizationUrl => true
  | .browserAuthorization => true
  | .accessToken => h.family ≠ .browserOnly
  | .refreshToken => h.family ≠ .browserOnly
  | .authorization => h.family = .device

/-- What a call gives. -/
inductive Answer where
  | url (s : String)
  | request (r : Request)

/-- Makes a call on a handle, which must offer it. -/
def call {σ : Type} (h : Handle) (c : Call) : Act σ Answer :=
  if h.offers c then
    match c with
    | .url => do return .url (← h.authorizationUrl)
    | .authorizationUrl => do return .url (← h.authorizationUrl)
    | .browserAuthorization => do return .request (← h.browserRequest)
    | .accessToken => do return .request (← h.formRequest .accessToken)
    | .refreshToken => do return .request (← h.formRequest .refreshToken)
    | .authorization => do return .request (← h.formRequest .authorization)
  else Act.fail .unknownOperation

end Handle

end OAuthClient
