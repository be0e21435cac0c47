import OAuthClient.Pkce
import OAuthClient.Proofs.Crypto.Base64Url
import OAuthClient.Proofs.Text.Utf8

/-!
# Verifiers and challenges

What a pair for a proof of possession looks like. The verifier is 43 characters of the alphabet, from which the random octets can be
read back, so two draws that differ give verifiers that differ. The challenge has the same form, and it is the text of the digest of the
verifier's octets, one for each character.
-/

namespace OAuthClient

namespace Sha256

/-- A number has as many octets as asked for. -/
theorem length_bigEndian (count n : Nat) : (bigEndian count n).length = count := by
  induction count generalizing n with
  | zero => rfl
  | succ count ih => rw [bigEndian, List.length_append, ih, List.length_singleton]

/-- A digest has 32 octets. -/
theorem length_digest (message : List UInt8) : (digest message).length = 32 := by
  simp [digest, State.octets, length_bigEndian]

end Sha256

namespace Pkce

/-- A text is that of 32 octets: it has 43 characters, all of the alphabet, and it is read as the octets. -/
structure IsTextOf (octets : List UInt8) (text : String) : Prop where
  encoded : text = String.ofList (Base64Url.encode octets)
  length : text.length = 43
  alphabet : ∀ c ∈ text.toList, c ∈ Base64Url.alphabet
  decodes : Base64Url.decode text.toList = some octets

/-- A pair belongs to a draw: the verifier is the text of the octets that were drawn, and the challenge is the text of the digest of the
verifier as ASCII. -/
structure BelongsTo (octets : List UInt8) (pair : Pkce) : Prop where
  verifier : IsTextOf octets pair.verifier
  challenge : IsTextOf (Sha256.digest (pair.verifier.toList.map fun c => UInt8.ofNat c.toNat)) pair.challenge

/-- The text of 32 octets. -/
theorem isTextOf_encode {octets : List UInt8} (h : octets.length = 32) :
    IsTextOf octets (String.ofList (Base64Url.encode octets)) := by
  refine ⟨rfl, ?_, ?_, ?_⟩
  · rw [String.length_ofList, Base64Url.length_encode, h]
  · rw [String.toList_ofList]
    exact Base64Url.mem_alphabet_of_mem_encode
  · rw [String.toList_ofList]
    exact Base64Url.decode_encode octets

/-- The pair of 32 octets belongs to them. -/
theorem belongsTo_ofOctets {octets : List UInt8} (h : octets.length = 32) : BelongsTo octets (ofOctets octets) := by
  have hverifier : IsTextOf octets (ofOctets octets).verifier := isTextOf_encode h
  refine ⟨hverifier, ?_⟩
  have hascii : Text.Utf8.encode (ofOctets octets).verifier.toList =
      (ofOctets octets).verifier.toList.map fun c => UInt8.ofNat c.toNat :=
    Text.Utf8.encode_of_ascii fun c hc => Base64Url.toNat_lt_of_mem_alphabet c (hverifier.alphabet c hc)
  show IsTextOf _ (challengeOf (ofOctets octets).verifier)
  rw [challengeOf, hascii]
  exact isTextOf_encode (Sha256.length_digest _)

/-- Different octets give different verifiers. -/
theorem verifier_injective {octets octets' : List UInt8} (h : (ofOctets octets).verifier = (ofOctets octets').verifier) :
    octets = octets' :=
  Base64Url.encode_injective (String.ofList_injective h)

end Pkce

end OAuthClient
