import OAuthClient.Json.Writer
import OAuthClient.Session.Credential
import OAuthClient.Session.Store
import OAuthClient.Session.Token
import OAuthClient.Settings.Store
import OAuthClient.Session.Key
import OAuthClient.Session.Logging
import OAuthClient.Failure.Arguments
import OAuthClient.Proofs.Session.Query
import OAuthClient.Proofs.Session.Requests
import OAuthClient.Proofs.Session.Isolation
import OAuthClient.Proofs.Session.Lifetime
import OAuthClient.Proofs.Session.Stores
import OAuthClient.Proofs.Log.Request
import OAuthClient.Proofs.Secret.Session
import OAuthClient.Proofs.Session.Secrets
import OAuthClient.Proofs.Request
import OAuthClient.Proofs.Credential.Load
import OAuthClient.Proofs.Credential.Page
import OAuthClient.Proofs.Credential.Form
import OAuthClient.Proofs.Session.Pkce
import OAuthClient.Proofs.Sending
import OAuthClient.Proofs.Json.Display
import OAuthClient.Proofs.Session.RefreshToken
import OAuthClient.Proofs.Store.Phases
import OAuthClient.Proofs.Store.Order
import OAuthClient.Proofs.Uri.Reference
import OAuthClient.Proofs.Session.Endpoints
import OAuthClient.Proofs.Session.Refusal
import OAuthClient.Proofs.Token.Reading
import OAuthClient.Proofs.Log.Handlers
import OAuthClient.Proofs.Session.Logging
import OAuthClient.Proofs.Store.Endpoint
import OAuthClient.Proofs.IdToken.Formats
import OAuthClient.Proofs.IdToken.Reading
import OAuthClient.Proofs.IdToken.Octets
import OAuthClient.Proofs.Credential.Refusal
import OAuthClient.Proofs.Session.Host
import OAuthClient.Proofs.Store.Repeat
import OAuthClient.Proofs.Log.Filter
import OAuthClient.Proofs.IdToken.Description
import OAuthClient.Proofs.Session.Description
import OAuthClient.Proofs.Token.Fields
import OAuthClient.Proofs.Session.Draws
import OAuthClient.Proofs.Token.WireTimes
import OAuthClient.Proofs.Token.TextLifetime
import OAuthClient.Proofs.Token.Rejection
import OAuthClient.Proofs.Session.Keys
import OAuthClient.Proofs.Token.Scope
import OAuthClient.Proofs.Store.ScopeText
import OAuthClient.Proofs.Settings.Sources
import OAuthClient.Proofs.Store.RefreshField
import OAuthClient.Proofs.Store.Absolute
