import OAuthClient.Failure
import OAuthClient.Validation.Lax

/-!
# Settings

What a client is configured with. Settings are read from values by names; the tenant goes by two names.
-/

namespace OAuthClient

open OAuthClient.Validation

/-- The settings of a client. -/
structure Settings where
  clientId : Option String
  clientSecret : Option String
  redirectUri : Option String
  tenant : String
  cloud : Cloud
  /-- How many seconds to wait for the token endpoint. -/
  timeout : Binary64
  logLevel : String
  deriving DecidableEq

namespace Settings

/-- A setting. -/
inductive Field where
  | clientId
  | clientSecret
  | redirectUri
  | tenant
  | cloud
  | timeout
  | logLevel
  deriving DecidableEq, Repr

namespace Field

/-- The settings in the order in which they are declared. -/
def all : List Field := [.clientId, .clientSecret, .redirectUri, .tenant, .cloud, .timeout, .logLevel]

/-- The name of a setting. -/
def name : Field → String
  | .clientId => "client_id"
  | .clientSecret => "client_secret"
  | .redirectUri => "redirect_uri"
  | .tenant => "tenant"
  | .cloud => "cloud_instance"
  | .timeout => "http_timeout"
  | .logLevel => "log_level"

/-- The names by which a setting goes, the preferred one first. -/
def names : Field → List String
  | .tenant => ["tenant", "tenant_id"]
  | f => [f.name]

/-- The value of a setting that no source gives. -/
def default : Field → Json
  | .clientId => .null
  | .clientSecret => .null
  | .redirectUri => .null
  | .tenant => .str commonAuthority
  | .cloud => .str Cloud.global.url
  | .timeout => .float (.ofInt 30)
  | .logLevel => .str "INFO"

end Field

/-! ## Reading -/

/-- Values by names. -/
abbrev State : Type := List (String × Json)

/-- The value of a setting: what a state has under the first of its names that occurs, or its default. -/
def value (state : State) (f : Field) : Json :=
  (f.names.findSome? (Json.find? · state)).getD f.default

/-- Where the users are sent back to: a web address, or nothing. -/
def redirectUriOf (v : Json) : Except Problem (Option String) := do
  match ← textOrNull v with
  | none => return none
  | some s =>
    if s.startsWith "https://" || s.startsWith "http://" then return some s
    else .error (.rule "Redirect URI must start with https:// or http://")

/-- The cloud, by its login host. -/
def cloudOf (v : Json) : Except Problem Cloud :=
  match Cloud.ofJson? v with
  | some cloud => .ok cloud
  | none => .error .notCloud

/-- How long to wait, which must not be zero or less. -/
def timeoutOf (v : Json) : Except Problem Binary64 := do
  let x ← number v
  if x.nonpositive then .error (.rule "HTTP timeout must be positive") else return x

/-- The value of a setting, read, or its issue. -/
def read {α : Type} (state : State) (f : Field) (read : Json → Except Problem α) : Except (List Issue) α :=
  (read (value state f)).mapError fun p => [⟨[.field f.name], p⟩]

/-- The settings of a state, or the issues of all that cannot be read. -/
def ofState (state : State) : Except (List Issue) Settings :=
  let clientId := read state .clientId textOrNull
  let clientSecret := read state .clientSecret textOrNull
  let redirectUri := read state .redirectUri redirectUriOf
  let tenant := read state .tenant text
  let cloud := read state .cloud cloudOf
  let timeout := read state .timeout timeoutOf
  let logLevel := read state .logLevel text
  match clientId, clientSecret, redirectUri, tenant, cloud, timeout, logLevel with
  | .ok clientId, .ok clientSecret, .ok redirectUri, .ok tenant, .ok cloud, .ok timeout, .ok logLevel =>
    .ok { clientId, clientSecret, redirectUri, tenant, cloud, timeout, logLevel }
  | _, _, _, _, _, _, _ =>
    .error (issuesOf clientId ++ issuesOf clientSecret ++ issuesOf redirectUri ++ issuesOf tenant ++ issuesOf cloud ++
      issuesOf timeout ++ issuesOf logLevel)

end Settings

end OAuthClient
