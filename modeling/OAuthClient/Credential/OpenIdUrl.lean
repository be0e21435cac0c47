import OAuthClient.Credential.Basic

/-!
# Authorization URLs of an OpenID Connect sign-in

The page at which a user signs in to the client. A nonce ties the id token to the request, so it must be there; a random one is
taken where none is given.
-/

namespace OAuthClient

/-- The values of an authorization URL of an OpenID Connect sign-in. -/
structure OpenIdUrl where
  clientId : Option String := some ""
  redirectUri : Option String := some ""
  responseTypes : List String := [ResponseType.code.wireName]
  responseMode : Option String := none
  nonce : Option String
  state : Option String := none
  scopes : List String := ["openid"]
  prompts : List String := []
  domainHint : Option String := none
  loginHint : Option String := none
  authority : Option String := some commonAuthority
  deriving DecidableEq, Repr

namespace OpenIdUrl

open Credential

/-- The grant of these URLs. -/
def grant : Grant := .openId

/-- The nonce that random octets give. -/
def nonceOf (octets : List UInt8) : String :=
  String.ofList (Base64Url.encode octets)

/-- The values with a fresh nonce that ask for a code and an id token, posted as a form, with the usual scopes of a profile. -/
def setDefaultScope (nonce : String) (u : OpenIdUrl) : OpenIdUrl :=
  { u with
    nonce := some nonce
    responseMode := some "form_post"
    responseTypes := [ResponseType.code.wireName, ResponseType.idToken.wireName]
    scopes := ["profile", "email", "id_token", "offline_access"] }

/-- Sets what every such URL must have, before the endpoints. -/
def insertIdentity (u : OpenIdUrl) : Act (Store Token) Unit := do
  insertRequired .redirectUri u.redirectUri
  insertRequired .clientId u.clientId
  insertRequired .nonce u.nonce
  addScopes u.scopes

/-- Sets the endpoints of a cloud and all values that are there, and builds the URL. No prompts is as good as no value. -/
def complete (u : OpenIdUrl) (cloud : Cloud) : Act (Store Token) String := do
  Store.authority cloud (textOf u.authority)
  Store.insert .responseType (" ".intercalate u.responseTypes)
  insertOptional .responseMode u.responseMode
  insertOptional .state u.state
  insertOptional .prompt (if u.prompts.isEmpty then none else some (" ".intercalate u.prompts))
  insertOptional .domainHint u.domainHint
  insertOptional .loginHint u.loginHint
  Store.authorizationUrl grant

/-- The URL at a cloud. -/
def url {σ : Type} (u : OpenIdUrl) (cloud : Cloud) : Act σ String :=
  onFresh do
    u.insertIdentity
    u.complete cloud

end OpenIdUrl

end OAuthClient
