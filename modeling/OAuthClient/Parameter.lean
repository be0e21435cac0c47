/-!
# Parameters

The parameters of the protocol: each has a wire name, under which it is sent. Some are secrets, whose values no
log and no description shows, and some are URLs, whose values are checked when they are set.
-/

namespace OAuthClient

/-- A parameter of the protocol. -/
inductive Parameter where
  | clientId
  | clientSecret
  | authorizationUrl
  | accessTokenUrl
  | refreshTokenUrl
  | redirectUri
  | authorizationCode
  | accessToken
  | refreshToken
  | responseMode
  | state
  | sessionState
  | responseType
  | grantType
  | nonce
  | prompt
  | idToken
  | resource
  | domainHint
  | scope
  | loginHint
  | clientAssertion
  | clientAssertionType
  | codeVerifier
  | codeChallenge
  | codeChallengeMethod
  | postLogoutRedirectUri
  | logoutUrl
  | adminConsent
  | username
  | password
  | deviceCode
  deriving DecidableEq, Repr

namespace Parameter

/-- The parameters in the order in which they are declared. -/
def all : List Parameter :=
  [.clientId, .clientSecret, .authorizationUrl, .accessTokenUrl, .refreshTokenUrl, .redirectUri, .authorizationCode,
    .accessToken, .refreshToken, .responseMode, .state, .sessionState, .responseType, .grantType, .nonce, .prompt, .idToken,
    .resource, .domainHint, .scope, .loginHint, .clientAssertion, .clientAssertionType, .codeVerifier, .codeChallenge,
    .codeChallengeMethod, .postLogoutRedirectUri, .logoutUrl, .adminConsent, .username, .password, .deviceCode]

/-- The name of a parameter on the wire. -/
def wireName : Parameter → String
  | .clientId => "client_id"
  | .clientSecret => "client_secret"
  | .authorizationUrl => "authorization_url"
  | .accessTokenUrl => "access_token_url"
  | .refreshTokenUrl => "refresh_token_url"
  | .redirectUri => "redirect_uri"
  | .authorizationCode => "code"
  | .accessToken => "access_token"
  | .refreshToken => "refresh_token"
  | .responseMode => "response_mode"
  | .state => "state"
  | .sessionState => "session_state"
  | .responseType => "response_type"
  | .grantType => "grant_type"
  | .nonce => "nonce"
  | .prompt => "prompt"
  | .idToken => "id_token"
  | .resource => "resource"
  | .domainHint => "domain_hint"
  | .scope => "scope"
  | .loginHint => "login_hint"
  | .clientAssertion => "client_assertion"
  | .clientAssertionType => "client_assertion_type"
  | .codeVerifier => "code_verifier"
  | .codeChallenge => "code_challenge"
  | .codeChallengeMethod => "code_challenge_method"
  | .postLogoutRedirectUri => "post_logout_redirect_uri"
  | .logoutUrl => "logout_url"
  | .adminConsent => "admin_consent"
  | .username => "username"
  | .password => "password"
  | .deviceCode => "device_code"

/-- The name of a parameter in capitals: its wire name, but the code is named in full. -/
def constantName : Parameter → String
  | .authorizationCode => "AUTHORIZATION_CODE"
  | p => p.wireName.map Char.toUpper

/-- The parameter with a wire name. -/
def ofWireName? (wireName : String) : Option Parameter :=
  all.find? (·.wireName = wireName)

/-- Whether the value of a parameter must not be shown. -/
def isSecret : Parameter → Bool
  | .clientId | .clientSecret | .authorizationCode | .accessToken | .refreshToken | .idToken
  | .codeVerifier | .codeChallenge | .password => true
  | _ => false

/-- Whether the value of a parameter must be a URL with a scheme. -/
def isUrl : Parameter → Bool
  | .authorizationUrl | .accessTokenUrl | .refreshTokenUrl | .postLogoutRedirectUri | .logoutUrl => true
  | _ => false

/-- The parameters in the order of their wire names. -/
def sorted : List Parameter :=
  [.accessToken, .accessTokenUrl, .adminConsent, .authorizationUrl, .clientAssertion, .clientAssertionType, .clientId,
    .clientSecret, .authorizationCode, .codeChallenge, .codeChallengeMethod, .codeVerifier, .deviceCode, .domainHint,
    .grantType, .idToken, .loginHint, .logoutUrl, .nonce, .password, .postLogoutRedirectUri, .prompt, .redirectUri,
    .refreshToken, .refreshTokenUrl, .resource, .responseMode, .responseType, .scope, .sessionState, .state, .username]

/-- The wire names of the secret parameters, in order. -/
def secretWireNames : List String :=
  (sorted.filter isSecret).map wireName

end Parameter

/-- What is shown in the place of a secret. -/
def redactedPlaceholder : String := "[REDACTED]"

end OAuthClient
