/-!
# Grants and phases

A grant is a way to get tokens; each goes through up to three phases, and every phase is one request.
-/

namespace OAuthClient

/-- A way to get tokens. -/
inductive Grant where
  | tokenFlow
  | codeFlow
  | authorizationCode
  | implicit
  | deviceCode
  | openId
  | clientCredentials
  | passwordCredentials
  deriving DecidableEq, Repr

namespace Grant

/-- The grants in the order in which they are declared. -/
def all : List Grant :=
  [.tokenFlow, .codeFlow, .authorizationCode, .implicit, .deviceCode, .openId, .clientCredentials, .passwordCredentials]

/-- The name of a grant. -/
def name : Grant → String
  | .tokenFlow => "token_flow"
  | .codeFlow => "code_flow"
  | .authorizationCode => "authorization_code"
  | .implicit => "implicit"
  | .deviceCode => "device_code"
  | .openId => "open_id"
  | .clientCredentials => "client_credentials"
  | .passwordCredentials => "resource_owner_password_credentials"

/-- The grant with a name. -/
def ofName? (name : String) : Option Grant :=
  all.find? (·.name = name)

end Grant

/-- One request of a grant: to the browser for an authorization, or to the token endpoint for a first or a fresh token. -/
inductive Phase where
  | authorization
  | accessToken
  | refreshToken
  deriving DecidableEq, Repr

namespace Phase

/-- The phases in the order in which they are declared. -/
def all : List Phase := [.authorization, .accessToken, .refreshToken]

/-- The name of a phase. -/
def name : Phase → String
  | .authorization => "authorization"
  | .accessToken => "access_token"
  | .refreshToken => "refresh_token"

/-- The phase with a name. -/
def ofName? (name : String) : Option Phase :=
  all.find? (·.name = name)

end Phase

end OAuthClient
