import OAuthClient.Crypto.Base64Url

/-!
# Reading back base64

Statements about the text of octets. Its characters are those of the alphabet, six bits each, and there are as many as the bits of the
octets need. The decoder puts the bits together again, so octets can be told from their text.
-/

namespace OAuthClient.Base64Url

/-! ## The alphabet -/

/-- The characters of the alphabet, each at the place of the six bits that it stands for. -/
def alphabet : List Char :=
  "ABCDEFGHIJKLMNOPQRSTUVWXYZabcdefghijklmnopqrstuvwxyz0123456789-_".toList

/-- The character of six bits stands at their place in the alphabet. -/
theorem alphabet_getElem? {n : Nat} (h : n < 64) : alphabet[n]? = some (sextetChar n) := by
  revert n
  decide

/-- The character of six bits is one of the alphabet. -/
theorem sextetChar_mem_alphabet {n : Nat} (h : n < 64) : sextetChar n ∈ alphabet :=
  List.mem_of_getElem? (alphabet_getElem? h)

/-- The character of six bits is read back. -/
theorem sextet?_sextetChar {n : Nat} (h : n < 64) : sextet? (sextetChar n) = some n := by
  revert n
  decide

/-- The characters of the alphabet are those of ASCII. -/
theorem toNat_lt_of_mem_alphabet : ∀ c ∈ alphabet, c.toNat < 0x80 := by
  have hall : alphabet.all (fun c => decide (c.toNat < 0x80)) = true := by decide
  exact fun c hc => of_decide_eq_true (List.all_eq_true.mp hall c hc)

/-! ## Groups of bits -/

/-- The octet of a number is that of its last eight bits. -/
theorem octet_of_mod {n : Nat} {b : UInt8} (h : n % 256 = b.toNat) : UInt8.ofNat n = b :=
  UInt8.toNat_inj.mp (by rw [UInt8.toNat_ofNat', h])

/-- One octet is two characters, of which the second has four bits to spare. -/
theorem encode_one (a : UInt8) :
    ∃ p q, p < 64 ∧ q < 64 ∧ p * 64 + q = a.toNat * 16 ∧ encode [a] = [sextetChar p, sextetChar q] := by
  have ha := a.toNat_lt
  exact ⟨a.toNat * 16 / 64, a.toNat * 16 % 64, by omega, by omega, by omega, rfl⟩

/-- Two octets are three characters, of which the third has two bits to spare. -/
theorem encode_two (a b : UInt8) :
    ∃ p q r, p < 64 ∧ q < 64 ∧ r < 64 ∧ (p * 64 + q) * 64 + r = (a.toNat * 256 + b.toNat) * 4 ∧
      encode [a, b] = [sextetChar p, sextetChar q, sextetChar r] := by
  have ha := a.toNat_lt
  have hb := b.toNat_lt
  exact ⟨_, _, _, by omega, by omega, by omega, by omega, rfl⟩

/-- Three octets are four characters, and the text goes on behind them. -/
theorem encode_three (a b c : UInt8) (rest : List UInt8) :
    ∃ p q r s, p < 64 ∧ q < 64 ∧ r < 64 ∧ s < 64 ∧
      ((p * 64 + q) * 64 + r) * 64 + s = (a.toNat * 256 + b.toNat) * 256 + c.toNat ∧
      encode (a :: b :: c :: rest) = sextetChar p :: sextetChar q :: sextetChar r :: sextetChar s :: encode rest := by
  have ha := a.toNat_lt
  have hb := b.toNat_lt
  have hc := c.toNat_lt
  exact ⟨_, _, _, _, by omega, by omega, by omega, by omega, by omega, rfl⟩

/-! ## Texts of octets -/

/-- The text of octets has a character for every six bits, the last of which may be fewer. -/
theorem length_encode (octets : List UInt8) : (encode octets).length = (octets.length * 8 + 5) / 6 := by
  induction octets using encode.induct with
  | case1 => rfl
  | case2 a =>
    obtain ⟨p, q, -, -, -, heq⟩ := encode_one a
    simp [heq]
  | case3 a b =>
    obtain ⟨p, q, r, -, -, -, -, heq⟩ := encode_two a b
    simp [heq]
  | case4 a b c rest ih =>
    obtain ⟨p, q, r, s, -, -, -, -, -, heq⟩ := encode_three a b c rest
    simp only [heq, List.length_cons, ih]
    omega

/-- The text of octets has characters of the alphabet only. -/
theorem mem_alphabet_of_mem_encode {octets : List UInt8} : ∀ c ∈ encode octets, c ∈ alphabet := by
  induction octets using encode.induct with
  | case1 => exact nofun
  | case2 a =>
    obtain ⟨p, q, hp, hq, -, heq⟩ := encode_one a
    simp [heq, sextetChar_mem_alphabet hp, sextetChar_mem_alphabet hq]
  | case3 a b =>
    obtain ⟨p, q, r, hp, hq, hr, -, heq⟩ := encode_two a b
    simp [heq, sextetChar_mem_alphabet hp, sextetChar_mem_alphabet hq, sextetChar_mem_alphabet hr]
  | case4 a b c rest ih =>
    obtain ⟨p, q, r, s, hp, hq, hr, hs, -, heq⟩ := encode_three a b c rest
    rw [heq]
    simp only [List.forall_mem_cons]
    exact ⟨sextetChar_mem_alphabet hp, sextetChar_mem_alphabet hq, sextetChar_mem_alphabet hr, sextetChar_mem_alphabet hs, ih⟩

/-- The text of octets is read back as the octets. -/
theorem decode_encode (octets : List UInt8) : decode (encode octets) = some octets := by
  induction octets using encode.induct with
  | case1 => rfl
  | case2 a =>
    obtain ⟨p, q, hp, hq, hbits, heq⟩ := encode_one a
    have ha := a.toNat_lt
    rw [heq, decode, sextet?_sextetChar hp, sextet?_sextetChar hq]
    dsimp only [bind, Option.bind]
    rw [hbits, if_pos (by omega), octet_of_mod (b := a) (by omega)]
    rfl
  | case3 a b =>
    obtain ⟨p, q, r, hp, hq, hr, hbits, heq⟩ := encode_two a b
    have ha := a.toNat_lt
    have hb := b.toNat_lt
    rw [heq, decode, sextet?_sextetChar hp, sextet?_sextetChar hq, sextet?_sextetChar hr]
    dsimp only [bind, Option.bind]
    rw [hbits, if_pos (by omega), octet_of_mod (b := a) (by omega), octet_of_mod (b := b) (by omega)]
    rfl
  | case4 a b c rest ih =>
    obtain ⟨p, q, r, s, hp, hq, hr, hs, hbits, heq⟩ := encode_three a b c rest
    have ha := a.toNat_lt
    have hb := b.toNat_lt
    have hc := c.toNat_lt
    rw [heq, decode, sextet?_sextetChar hp, sextet?_sextetChar hq, sextet?_sextetChar hr, sextet?_sextetChar hs, ih]
    dsimp only [bind, Option.bind]
    rw [hbits, octet_of_mod (b := a) (by omega), octet_of_mod (b := b) (by omega), octet_of_mod (b := c) (by omega)]
    rfl

/-- Octets with the same text are the same. -/
theorem encode_injective {octets octets' : List UInt8} (h : encode octets = encode octets') : octets = octets' := by
  have hread := decode_encode octets
  rw [h, decode_encode] at hread
  exact (Option.some.inj hread).symm

/-- The text of octets is empty only when there are none. -/
theorem encode_eq_nil {octets : List UInt8} : encode octets = [] ↔ octets = [] := by
  refine ⟨fun h => encode_injective h, ?_⟩
  rintro rfl
  rfl

end OAuthClient.Base64Url
