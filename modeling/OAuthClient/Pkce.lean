import OAuthClient.Crypto.Base64Url
import OAuthClient.Crypto.Sha256
import OAuthClient.Text.Utf8

/-!
# Proof key for code exchange

A client that asks for an authorization code sends a challenge with the request and the verifier behind it with the code. The
verifier is 32 random octets as text, the challenge is the text of the verifier's digest.
-/

namespace OAuthClient

/-- A verifier with its challenge. -/
structure Pkce where
  verifier : String
  challenge : String
  deriving DecidableEq, Repr

namespace Pkce

/-- The name of the method by which a challenge is made from a verifier. -/
def method : String := "S256"

/-- The challenge of a verifier. -/
def challengeOf (verifier : String) : String :=
  String.ofList (Base64Url.encode (Sha256.digest (Text.Utf8.encode verifier.toList)))

/-- The pair that random octets give. -/
def ofOctets (octets : List UInt8) : Pkce :=
  let verifier := String.ofList (Base64Url.encode octets)
  ⟨verifier, challengeOf verifier⟩

end Pkce

end OAuthClient
