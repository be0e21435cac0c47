import OAuthClient.Credential.Basic

/-!
# Authorization URLs of the token flow

The page of the older endpoints for personal accounts, which answers with a token. It knows no cloud and no authority.
-/

namespace OAuthClient

/-- The values of an authorization URL of the token flow. -/
structure TokenFlowUrl where
  clientId : Option String := some ""
  redirectUri : Option String := some ""
  scopes : List String := []
  responseType : Option String := some ResponseType.token.wireName
  deriving DecidableEq, Repr

namespace TokenFlowUrl

open Credential

/-- The URL, which must have scopes. -/
def url {σ : Type} (u : TokenFlowUrl) : Act σ String :=
  onFresh do
    insertRequired .redirectUri u.redirectUri
    insertRequired .clientId u.clientId
    if u.scopes.isEmpty then Act.fail (Failure.missing Parameter.scope.wireName none)
    else
      addScopes u.scopes
      Store.setEndpoints .legacy
      Store.insert .responseType (textOf u.responseType)
      Store.authorizationUrl .tokenFlow

end TokenFlowUrl

end OAuthClient
