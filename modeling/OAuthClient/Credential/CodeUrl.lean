import OAuthClient.Credential.Basic

/-!
# Authorization URLs of the authorization code grant

The page at which a user signs in and agrees, with all that the grant lets a client ask for. Values that are not there are left
out, values that are empty are not.
-/

namespace OAuthClient

/-- The values of an authorization URL of the authorization code grant. The verifier is kept for the token request and is no
part of the URL. -/
structure CodeUrl where
  clientId : Option String := some ""
  redirectUri : Option String := some ""
  authority : Option String := some commonAuthority
  responseMode : Option String := some "query"
  responseType : Option String := some ResponseType.code.wireName
  nonce : Option String := none
  state : Option String := none
  scopes : List String := []
  prompt : Option Prompt := none
  domainHint : Option String := none
  loginHint : Option String := none
  codeVerifier : Option String := none
  codeChallenge : Option String := none
  codeChallengeMethod : Option String := none
  deriving DecidableEq, Repr

namespace CodeUrl

open Credential

/-- The grant of these URLs. -/
def grant : Grant := .authorizationCode

/-- The values with a verifier, its challenge and the method between them. -/
def setPkce (pair : Pkce) (u : CodeUrl) : CodeUrl :=
  { u with codeVerifier := some pair.verifier, codeChallenge := some pair.challenge, codeChallengeMethod := some Pkce.method }

/-- Sets what every such URL must have, before the endpoints. -/
def insertIdentity (u : CodeUrl) : Act (Store Token) Unit := do
  insertRequired .redirectUri u.redirectUri
  insertRequired .clientId u.clientId
  addScopes u.scopes

/-- Sets the endpoints of a cloud and all values that are there, and builds the URL. -/
def complete (u : CodeUrl) (cloud : Cloud) : Act (Store Token) String := do
  Store.authority cloud (textOf u.authority)
  Store.insert .responseMode (textOf u.responseMode)
  Store.insert .responseType (textOf u.responseType)
  insertOptional .state u.state
  insertOptional .nonce u.nonce
  insertOptional .prompt (u.prompt.map Prompt.wireName)
  insertOptional .domainHint u.domainHint
  insertOptional .loginHint u.loginHint
  insertOptional .codeChallenge u.codeChallenge
  insertOptional .codeChallengeMethod u.codeChallengeMethod
  Store.authorizationUrl grant

/-- The URL at a cloud. -/
def url {σ : Type} (u : CodeUrl) (cloud : Cloud) : Act σ String :=
  onFresh do
    u.insertIdentity
    u.complete cloud

end CodeUrl

end OAuthClient
