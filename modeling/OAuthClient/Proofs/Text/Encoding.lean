import OAuthClient.Proofs.Text.Utf8Octets
import OAuthClient.Text.Encoding

/-!
# Detecting UTF-8

Octets of UTF-8 that begin as an object or an array in JSON does are taken for what they are, and they are read as the text whose encoding
they are.
-/

namespace OAuthClient.Text

open Utf8

/-! ## Surrogates -/

/-- An octet is left as it is unless it begins a surrogate. -/
theorem replaceSurrogates_cons {a : UInt8} {bs : List UInt8} (h : a = 0xed → ∀ b ∈ bs.head?, b < 0xa0) :
    replaceSurrogates (a :: bs) = a :: replaceSurrogates bs := by
  match bs with
  | [] => rfl
  | [b] => rfl
  | b :: c :: bs =>
    rw [replaceSurrogates, if_neg]
    intro hmark
    simp only [Bool.and_eq_true, decide_eq_true_eq] at hmark
    obtain ⟨⟨⟨⟨ha, hb⟩, -⟩, -⟩, -⟩ := hmark
    exact absurd (h ha b rfl) (UInt8.not_lt.mpr hb)

/-- An octet below the one that begins surrogates, or above it, is left as it is. -/
theorem replaceSurrogates_ofNat {n : Nat} (h : n < 256) (hne : n ≠ 0xed) (bs : List UInt8) :
    replaceSurrogates (UInt8.ofNat n :: bs) = UInt8.ofNat n :: replaceSurrogates bs := by
  refine replaceSurrogates_cons fun he => absurd ?_ hne
  rw [← toNat_octet h, he]
  rfl

/-- The octets of a character hold no surrogate. -/
theorem replaceSurrogates_utf8EncodeChar (c : Char) (bs : List UInt8) :
    replaceSurrogates (String.utf8EncodeChar c ++ bs) = String.utf8EncodeChar c ++ replaceSurrogates bs := by
  have hv : c.val.toNat < 0xd800 ∨ 0xdfff < c.val.toNat ∧ c.val.toNat < 0x110000 := c.valid
  generalize hn : c.val.toNat = v at hv
  simp only [String.utf8EncodeChar, hn]
  by_cases h1 : v ≤ 0x7f
  · simp only [if_pos h1, List.cons_append, List.nil_append]
    rw [replaceSurrogates_ofNat (by omega) (by omega)]
  by_cases h2 : v ≤ 0x7ff
  · simp only [if_neg h1, if_pos h2, List.cons_append, List.nil_append]
    rw [replaceSurrogates_ofNat (by omega) (by omega), replaceSurrogates_ofNat (by omega) (by omega)]
  by_cases h3 : v ≤ 0xffff
  · simp only [if_neg h1, if_neg h2, if_pos h3, List.cons_append, List.nil_append]
    rw [replaceSurrogates_cons, replaceSurrogates_ofNat (by omega) (by omega), replaceSurrogates_ofNat (by omega) (by omega)]
    -- no character is a surrogate, so what follows the octet that begins them is too small for one
    intro hlead b hb
    obtain rfl := Option.some.inj hb
    have hfirst : (UInt8.ofNat (v / 4096 % 16 + 224)).toNat = 0xed := congrArg UInt8.toNat hlead
    rw [toNat_octet (by omega)] at hfirst
    rw [UInt8.lt_iff_toNat_lt, toNat_octet (by omega)]
    show v / 64 % 64 + 128 < 0xa0
    omega
  · simp only [if_neg h1, if_neg h2, if_neg h3, List.cons_append, List.nil_append]
    rw [replaceSurrogates_ofNat (by omega) (by omega), replaceSurrogates_ofNat (by omega) (by omega),
      replaceSurrogates_ofNat (by omega) (by omega), replaceSurrogates_ofNat (by omega) (by omega)]

/-- The octets of a text hold no surrogate. -/
theorem replaceSurrogates_encode (cs : List Char) : replaceSurrogates (encode cs) = encode cs := by
  induction cs with
  | nil => rfl
  | cons c cs ih => rw [encode, List.flatMap_cons, ← encode, replaceSurrogates_utf8EncodeChar, ih]

/-- The code points of a text are restored from its octets. -/
theorem restoreSurrogates_encode (cs : List Char) : restoreSurrogates (encode cs) cs = cs.map Char.toNat := by
  induction cs with
  | nil => rfl
  | cons c cs ih =>
    have hdrop : (encode (c :: cs)).drop c.utf8Size = encode cs := by
      rw [encode, List.flatMap_cons, ← encode, ← String.length_utf8EncodeChar, List.drop_left]
    rw [restoreSurrogates, hdrop, ih, List.map_cons]
    split
    · next hc =>
      subst hc
      rfl
    · rfl

/-! ## Detecting -/

/-- The characters that can stand before a name of an object in JSON, or before a value that is nested in arrays. -/
def opening : List Char := [' ', '\t', '\n', '\r', '\x7b', '[', '"']

/-- Octets that begin as an object or an array in JSON does are taken for UTF-8 without a mark. -/
theorem detect_encode {c d : Char} (hc : c ∈ opening) (hd : d ∈ opening) (cs : List Char) :
    Encoding.detect (encode (c :: d :: cs)) = (.utf8, 0, 0) := by
  have hencode : encode (c :: d :: cs) = String.utf8EncodeChar c ++ (String.utf8EncodeChar d ++ encode cs) := rfl
  rw [hencode]
  generalize encode cs = bs
  simp only [opening, List.mem_cons, List.not_mem_nil, or_false] at hc hd
  -- the octets are looked at one by one, and up to two of those that follow are counted
  rcases hc with rfl | rfl | rfl | rfl | rfl | rfl | rfl <;> rcases hd with rfl | rfl | rfl | rfl | rfl | rfl | rfl <;>
    rcases bs with _ | ⟨_, _ | ⟨_, _⟩⟩ <;> rfl

/-- The octets of a text that begins as an object or an array in JSON does are read as the code points of the text. -/
theorem decodeDetected_encode {c d : Char} (hc : c ∈ opening) (hd : d ∈ opening) (cs : List Char) :
    decodeDetected (encode (c :: d :: cs)) = .ok ((c :: d :: cs).map Char.toNat) := by
  rw [decodeDetected, detect_encode hc hd]
  show (decodeWithSurrogates (encode (c :: d :: cs))).mapError _ = _
  rw [decodeWithSurrogates, replaceSurrogates_encode, decode_eq_ok_iff.mpr rfl]
  show Except.ok (restoreSurrogates (encode (c :: d :: cs)) (c :: d :: cs)) = _
  rw [restoreSurrogates_encode]

end OAuthClient.Text
