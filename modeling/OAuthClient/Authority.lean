import OAuthClient.Json.Display

/-!
# Clouds and authorities

The clouds of the identity platform, each with its login host, and the endpoints that a host and an authority make. The
authority is a path segment: one of the well-known names or a tenant, and it is taken as it is given.
-/

namespace OAuthClient

/-- A cloud of the identity platform. The last one serves personal accounts. -/
inductive Cloud where
  | global
  | china
  | germany
  | government
  | personal
  deriving DecidableEq, Repr

namespace Cloud

/-- The clouds in the order in which they are declared. -/
def all : List Cloud := [.global, .china, .germany, .government, .personal]

/-- The login host of a cloud, as a URL. -/
def url : Cloud → String
  | .global => "https://login.microsoftonline.com"
  | .china => "https://login.chinacloudapi.cn"
  | .germany => "https://login.microsoftonline.de"
  | .government => "https://login.microsoftonline.us"
  | .personal => "https://login.live.com"

/-- The cloud with a login host. -/
def ofUrl? (url : String) : Option Cloud :=
  all.find? (·.url = url)

/-- The cloud that a value names. -/
def ofJson? : Json → Option Cloud
  | .str s => ofUrl? s
  | _ => none

end Cloud

/-- The authority used where none is named. -/
def commonAuthority : String := "common"

/-- The authorization and token endpoints of a service. -/
structure Endpoints where
  authorization : String
  token : String
  deriving DecidableEq, Repr

namespace Endpoints

/-- The endpoints of a cloud for an authority. -/
def of (cloud : Cloud) (authority : String) : Endpoints :=
  let base := cloud.url ++ "/" ++ authority ++ "/oauth2/v2.0"
  ⟨base ++ "/authorize", base ++ "/token"⟩

/-- The endpoints of a cloud for an authority, with the page where an administrator gives consent in the place of the
authorization endpoint. -/
def adminConsent (cloud : Cloud) (authority : String) : Endpoints :=
  { of cloud authority with authorization := cloud.url ++ "/" ++ authority ++ "/adminconsent" }

/-- The older endpoints for personal accounts. -/
def legacy : Endpoints :=
  ⟨"https://login.live.com/oauth20_authorize.srf", "https://login.live.com/oauth20_token.srf"⟩

/-- The endpoints that a store is pointed at for a cloud and an authority: the older ones for personal accounts. -/
def forStore (cloud : Cloud) (authority : String) : Endpoints :=
  if cloud = .personal then legacy else of cloud authority

end Endpoints

/-- What a user is asked to do at the authorization endpoint. -/
inductive Prompt where
  | none
  | login
  | consent
  | selectAccount
  | create
  deriving DecidableEq, Repr

namespace Prompt

/-- The name of a prompt on the wire. -/
def wireName : Prompt → String
  | .none => "none"
  | .login => "login"
  | .consent => "consent"
  | .selectAccount => "select_account"
  | .create => "create"

/-- The prompt with a name. -/
def ofWireName? (wireName : String) : Option Prompt :=
  [Prompt.none, .login, .consent, .selectAccount, .create].find? (·.wireName = wireName)

end Prompt

/-- What the authorization endpoint answers with. -/
inductive ResponseType where
  | code
  | idToken
  | token
  deriving DecidableEq, Repr

namespace ResponseType

/-- The name of a response type on the wire. -/
def wireName : ResponseType → String
  | .code => "code"
  | .idToken => "id_token"
  | .token => "token"

/-- The response type with a name. -/
def ofWireName? (wireName : String) : Option ResponseType :=
  [ResponseType.code, .idToken, .token].find? (·.wireName = wireName)

end ResponseType

/-- Values as one text, with a space between neighbours. -/
def joinValues (values : List Json) : String :=
  " ".intercalate (values.map Json.display)

end OAuthClient
