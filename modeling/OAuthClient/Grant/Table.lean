import OAuthClient.Grant.Basic
import OAuthClient.Parameter

/-!
# The table of rules

For every grant and phase: which parameters the request must have, which it may have, which fixed values are filled in where the
caller set none, and to which endpoint it goes. Parameters are encoded in the order of the table.
-/

namespace OAuthClient

/-- The rules for one request. -/
structure Rules where
  required : List Parameter := []
  optional : List Parameter := []
  defaults : List (Parameter × String) := []
  /-- The parameter that holds the URL of the endpoint. -/
  endpoint : Parameter
  /-- Why the grant has no such phase, when it has none. -/
  unsupported : Option String := none
  deriving DecidableEq, Repr

namespace Rules

/-- Whether the grant has the phase. -/
def supported (r : Rules) : Bool := r.unsupported.isNone

/-- All parameters of the request, in order. -/
def parameters (r : Rules) : List Parameter := r.required ++ r.optional

/-- The rules for asking for a fresh token, with the parameters that may be sent along. -/
def refreshing (optional : List Parameter) : Rules where
  required := [.clientId, .refreshToken, .grantType]
  optional := optional
  defaults := [(.grantType, "refresh_token")]
  endpoint := .refreshTokenUrl

/-- The rules for redeeming an authorization code, with the parameters that may be sent along. -/
def redeeming (optional : List Parameter) : Rules where
  required := [.clientId, .redirectUri, .authorizationCode, .grantType]
  optional := optional
  defaults := [(.grantType, "authorization_code")]
  endpoint := .accessTokenUrl

/-- The rules for a request that the grant does not make. -/
def none (endpoint : Parameter) (reason : String) : Rules where
  endpoint := endpoint
  unsupported := some reason

end Rules

/-- Why a grant that ends in the browser has no request to the token endpoint. -/
def browserOnly : String :=
  "this grant type only supports browser-based authorization; there is no token endpoint exchange"

/-- Why a grant that needs no browser has no authorization request. -/
def tokenEndpointOnly : String :=
  "credentials are exchanged directly at the token endpoint; there is no browser authorization step"

/-- The name of the device code grant on the wire. -/
def deviceCodeGrantType : String := "urn:ietf:params:oauth:grant-type:device_code"

/-- The rules for a phase of a grant. -/
def Grant.rules : Grant → Phase → Rules
  | .tokenFlow, .authorization =>
    { required := [.clientId, .redirectUri, .scope, .responseType]
      optional := [.state]
      defaults := [(.responseType, "token")]
      endpoint := .authorizationUrl }
  | .tokenFlow, .accessToken => .none .accessTokenUrl browserOnly
  | .tokenFlow, .refreshToken => .none .refreshTokenUrl browserOnly
  | .codeFlow, .authorization =>
    { required := [.clientId, .redirectUri, .responseType, .responseMode]
      optional := [.scope, .state]
      defaults := [(.responseType, "code"), (.responseMode, "query")]
      endpoint := .authorizationUrl }
  | .codeFlow, .accessToken => .redeeming [.clientSecret]
  | .codeFlow, .refreshToken => .refreshing [.clientSecret, .redirectUri]
  | .authorizationCode, .authorization =>
    { required := [.clientId, .redirectUri, .responseType, .responseMode, .scope]
      optional := [.state, .prompt, .domainHint, .loginHint, .nonce, .codeChallenge, .codeChallengeMethod]
      defaults := [(.responseType, "code"), (.responseMode, "query")]
      endpoint := .authorizationUrl }
  | .authorizationCode, .accessToken => .redeeming [.clientSecret, .scope, .codeVerifier]
  | .authorizationCode, .refreshToken => .refreshing [.clientSecret, .scope]
  | .implicit, .authorization =>
    { required := [.clientId, .redirectUri, .responseType, .scope]
      optional := [.responseMode, .state, .nonce, .prompt, .loginHint, .domainHint]
      defaults := [(.responseType, "token")]
      endpoint := .authorizationUrl }
  | .implicit, .accessToken => .none .accessTokenUrl browserOnly
  | .implicit, .refreshToken => .none .refreshTokenUrl browserOnly
  | .deviceCode, .authorization =>
    { required := [.clientId, .scope]
      endpoint := .authorizationUrl }
  | .deviceCode, .accessToken =>
    { required := [.grantType, .clientId, .deviceCode]
      defaults := [(.grantType, deviceCodeGrantType)]
      endpoint := .accessTokenUrl }
  | .deviceCode, .refreshToken => .refreshing [.scope]
  | .openId, .authorization =>
    { required := [.clientId, .responseType, .redirectUri, .scope, .nonce]
      optional := [.responseMode, .state, .prompt, .loginHint, .domainHint, .resource]
      endpoint := .authorizationUrl }
  | .openId, .accessToken => .redeeming [.clientSecret, .scope, .codeVerifier]
  | .openId, .refreshToken => .refreshing [.clientSecret, .scope]
  | .clientCredentials, .authorization =>
    { required := [.clientId]
      optional := [.redirectUri, .state]
      endpoint := .authorizationUrl }
  | .clientCredentials, .accessToken =>
    { required := [.clientId, .grantType, .scope]
      optional := [.clientSecret, .clientAssertion, .clientAssertionType]
      defaults := [(.grantType, "client_credentials")]
      endpoint := .accessTokenUrl }
  | .clientCredentials, .refreshToken =>
    { required := [.clientId, .grantType, .scope]
      optional := [.clientSecret, .clientAssertion, .clientAssertionType]
      defaults := [(.grantType, "client_credentials")]
      endpoint := .refreshTokenUrl }
  | .passwordCredentials, .authorization => .none .authorizationUrl tokenEndpointOnly
  | .passwordCredentials, .accessToken =>
    { required := [.clientId, .grantType, .username, .password, .scope]
      optional := [.clientSecret]
      defaults := [(.grantType, "password")]
      endpoint := .accessTokenUrl }
  | .passwordCredentials, .refreshToken => .refreshing [.clientSecret, .scope]

end OAuthClient
