import OAuthClient.Proofs.Text.Utf8
import OAuthClient.Uri.Percent

/-!
# Reading back percent encoding

Statements about `encodeExcept` and `decode`. As long as the percent sign itself is not kept, every text is read back from its
encoded form, and the encoded form is made of kept characters, percent signs and hexadecimal digits only.
-/

namespace OAuthClient.Percent

open OAuthClient.Text

/-! ## Hexadecimal digits -/

/-- A hexadecimal digit has the value it was written for. -/
theorem hexValue?_hexChar {n : Nat} (h : n < 16) : hexValue? (hexChar n) = some n := by
  revert n
  decide

/-- A hexadecimal digit stands for itself, so it is none of the characters that are encoded. -/
theorem isUnreserved_hexChar {n : Nat} (h : n < 16) : isUnreserved (hexChar n) = true := by
  revert n
  decide

/-! ## Octets -/

/-- A character other than the percent sign stands for its own octets. -/
theorem octets_cons {c : Char} (h : c ≠ '%') (cs : List Char) : octets (c :: cs) = String.utf8EncodeChar c ++ octets cs := by
  match cs with
  | [] => simp [octets]
  | [d] => simp [octets]
  | d :: e :: cs => simp [octets, h]

/-- An octet in percent form stands for itself. -/
theorem octets_encodeOctet (b : UInt8) (cs : List Char) : octets (encodeOctet b ++ cs) = b :: octets cs := by
  have hb : b.toNat < 256 := b.toNat_lt
  have high : hexValue? (hexChar (b.toNat / 16)) = some (b.toNat / 16) := hexValue?_hexChar (by omega)
  have low : hexValue? (hexChar (b.toNat % 16)) = some (b.toNat % 16) := hexValue?_hexChar (by omega)
  have hsum : b.toNat / 16 * 16 + b.toNat % 16 = b.toNat := by omega
  simp only [encodeOctet, List.cons_append, List.nil_append, octets, beq_self_eq_true, if_true, high, low, hsum,
    UInt8.ofNat_toNat]

/-- Octets in percent form stand for themselves. -/
theorem octets_flatMap_encodeOctet (bs : List UInt8) (cs : List Char) :
    octets (bs.flatMap encodeOctet ++ cs) = bs ++ octets cs := by
  induction bs with
  | nil => rfl
  | cons b bs ih => rw [List.flatMap_cons, List.append_assoc, octets_encodeOctet, ih, List.cons_append]

variable {kept : Char → Bool}

/-- The encoded form of a character stands for the octets of the character. -/
theorem octets_encodeChar (h : kept '%' = false) (c : Char) (cs : List Char) :
    octets (encodeChar kept c ++ cs) = String.utf8EncodeChar c ++ octets cs := by
  rw [encodeChar]
  by_cases hc : kept c = true
  · have hne : c ≠ '%' := by
      rintro rfl
      rw [h] at hc
      cases hc
    rw [if_pos hc, List.singleton_append, octets_cons hne]
  · rw [if_neg hc, octets_flatMap_encodeOctet]

/-- The encoded form of a text stands for the octets of the text. -/
theorem octets_encodeExcept (h : kept '%' = false) (cs : List Char) : octets (encodeExcept kept cs) = Utf8.encode cs := by
  induction cs with
  | nil => rfl
  | cons c cs ih =>
    rw [encodeExcept, List.flatMap_cons, ← encodeExcept, octets_encodeChar h, ih]
    simp only [Utf8.encode, List.flatMap_cons]

/-- Every text is read back from its encoded form. -/
theorem decode_encodeExcept (h : kept '%' = false) (cs : List Char) : decode (encodeExcept kept cs) = cs := by
  rw [decode, octets_encodeExcept h, Utf8.decodeLenient_encode]

/-! ## The characters of an encoded text -/

/-- A character that stands for itself is one of ASCII. -/
theorem toNat_lt_of_isUnreserved {c : Char} (h : isUnreserved c = true) : c.toNat < 128 := by
  have hle {d : Char} (hd : c ≤ d) (hd' : d.toNat < 128) : c.toNat < 128 := Nat.lt_of_le_of_lt hd hd'
  simp only [isUnreserved, isAsciiLetter, isAsciiDigit, Bool.or_eq_true, Bool.and_eq_true, decide_eq_true_eq, beq_iff_eq] at h
  rcases h with (((((⟨_, h⟩ | ⟨_, h⟩) | ⟨_, h⟩) | rfl) | rfl) | rfl) | rfl
  · exact hle h (by decide)
  · exact hle h (by decide)
  · exact hle h (by decide)
  all_goals decide

/-- There are so few characters of ASCII that all of them can be looked at. -/
theorem of_toNat_lt {p : Char → Prop} (hall : ∀ n < 128, p (Char.ofNat n)) {c : Char} (h : c.toNat < 128) : p c := by
  have hc := hall c.toNat h
  rwa [Char.ofNat_toNat] at hc

/-- What holds of the characters of ASCII that stand for themselves holds of all that do. -/
theorem of_isUnreserved {p : Char → Prop} (hall : ∀ n < 128, isUnreserved (Char.ofNat n) = true → p (Char.ofNat n)) {c : Char}
    (h : isUnreserved c = true) : p c :=
  of_toNat_lt (p := fun c => isUnreserved c = true → p c) hall (toNat_lt_of_isUnreserved h) h

/-- An octet in percent form is made of a percent sign and characters that stand for themselves. -/
theorem isUnreserved_of_mem_encodeOctet {b : UInt8} {c : Char} (h : c ∈ encodeOctet b) : c = '%' ∨ isUnreserved c = true := by
  have hb : b.toNat < 256 := b.toNat_lt
  simp only [encodeOctet, List.mem_cons, List.not_mem_nil, or_false] at h
  rcases h with rfl | rfl | rfl
  · exact Or.inl rfl
  · exact Or.inr (isUnreserved_hexChar (by omega))
  · exact Or.inr (isUnreserved_hexChar (by omega))

/-- An encoded character is made of kept characters, percent signs and characters that stand for themselves. -/
theorem mem_encodeChar {c d : Char} (h : d ∈ encodeChar kept c) : kept d = true ∨ d = '%' ∨ isUnreserved d = true := by
  rw [encodeChar] at h
  by_cases hc : kept c = true
  · rw [if_pos hc, List.mem_singleton] at h
    exact Or.inl (h ▸ hc)
  · rw [if_neg hc] at h
    obtain ⟨b, _, hd⟩ := List.mem_flatMap.mp h
    exact Or.inr (isUnreserved_of_mem_encodeOctet hd)

end OAuthClient.Percent
