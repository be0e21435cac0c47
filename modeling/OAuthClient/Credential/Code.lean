import OAuthClient.Credential.Basic
import OAuthClient.Request

/-!
# Credentials with an authorization code

What a client sends to the token endpoint to redeem an authorization code, or to get a fresh token for a refresh token. It holds
one of the two, never both.
-/

namespace OAuthClient

/-- A credential with an authorization code or a refresh token. -/
structure CodeCredential where
  clientId : Option String := some ""
  clientSecret : Option String := some ""
  redirectUri : Option String := some ""
  authorizationCode : Option String := none
  refreshToken : Option String := none
  codeVerifier : Option String := none
  scopes : List String := []
  authority : Option String := some commonAuthority
  deriving DecidableEq, Repr

namespace CodeCredential

open Credential

/-- The grant of these credentials. -/
def grant : Grant := .authorizationCode

/-- The credential that redeems a code. -/
def new (clientId clientSecret authorizationCode redirectUri : Option String) : CodeCredential :=
  { clientId, clientSecret, authorizationCode, redirectUri }

/-- Why a credential without a code or a refresh token is of no use. -/
def eitherNote : String := "Either authorization code or refresh token is required"

/-- The token endpoint of the cloud for the authority. -/
def uri {σ : Type} (c : CodeCredential) (cloud : Cloud) : Act σ String :=
  onFresh do
    Store.authority cloud (textOf c.authority)
    let s ← Act.get
    Act.ofExcept ((s.get .accessTokenUrl).mapError Fault.failure)

/-- The fields that ask for a fresh token. -/
def refreshForm (c : CodeCredential) : Act (Store Token) (List (String × String)) := do
  insertRequired .refreshToken c.refreshToken (some eitherNote)
  Store.insert .grantType "refresh_token"
  let s ← Act.get
  Act.ofExcept ((s.formParams [.clientId, .clientSecret, .refreshToken, .grantType] [.scope]).mapError Fault.failure)

/-- The fields that redeem a code. A verifier that is empty is left out. -/
def codeForm (c : CodeCredential) : Act (Store Token) (List (String × String)) := do
  insertRequired .authorizationCode c.authorizationCode (some eitherNote)
  Store.insert .grantType "authorization_code"
  insertRequired .redirectUri c.redirectUri
  insertOptional .codeVerifier (c.codeVerifier.filter (· ≠ ""))
  let s ← Act.get
  Act.ofExcept ((s.formParams [.clientId, .clientSecret, .redirectUri, .authorizationCode, .grantType]
    [.scope, .codeVerifier]).mapError Fault.failure)

/-- The fields of the request: for a fresh token when there is a refresh token, and for the code otherwise. -/
def form {σ : Type} (c : CodeCredential) : Act σ (List (String × String)) :=
  onFresh do
    if c.authorizationCode.isSome && c.refreshToken.isSome then
      Act.fail (Failure.exclusive Parameter.authorizationCode.wireName Parameter.refreshToken.wireName)
    else
      insertRequired .clientId c.clientId
      insertRequired .clientSecret c.clientSecret
      addScopes c.scopes
      if c.refreshToken.isSome then c.refreshForm
      else if c.authorizationCode.isSome then c.codeForm
      else
        let pair := Failure.pairName Parameter.authorizationCode.wireName Parameter.refreshToken.wireName
        Act.fail (Failure.missing pair (some eitherNote))

/-- The request to the token endpoint of a cloud. A failure to build it is kept in the request. -/
def request {σ : Type} (c : CodeCredential) (nonblocking : Bool) (cloud : Cloud) : Act σ Request := do
  let target ← Act.attempt do
    let uri ← c.uri cloud
    let params ← c.form
    return (⟨uri, params⟩ : FormRequest)
  return .form nonblocking target

end CodeCredential

end OAuthClient
