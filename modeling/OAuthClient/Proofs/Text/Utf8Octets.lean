import OAuthClient.Proofs.Text.Utf8

/-!
# Which octets are UTF-8

Statements about the strict reading of any octets. What a first octet begins is a character as far as it goes, and each further octet
within its bounds takes it further, so what is read without a flaw has the octets that were read. With the round trip of a text this
says which octets have a text at all: those that are its encoding, and no others.
-/

namespace OAuthClient.Text.Utf8

variable {position : Nat} {p : Pending} {b : UInt8} {bs : List UInt8} {cs : List Char}

/-! ## Characters that have begun -/

/-- A number without its last groups of six bits. -/
def above (v : Nat) : Nat → Nat
  | 0 => v
  | n + 1 => above v n / 64

/-- The last octets of a number, with six bits in each. -/
def continuation (v : Nat) : Nat → List UInt8
  | 0 => []
  | n + 1 => UInt8.ofNat (above v n % 64 + 0x80) :: continuation v n

/-- A character that has begun is one as far as it goes: every number that goes on from its bits, with a next octet within the bounds,
is a character, and its octets are those seen and behind them the missing ones of the number. -/
structure Pending.Begun (p : Pending) : Prop where
  missing : 0 < p.missing
  low : 0x80 ≤ p.low
  high : p.high ≤ 0xbf
  octets : ∀ v, above v p.missing = p.bits → p.low ≤ above v (p.missing - 1) % 64 + 0x80 →
    above v (p.missing - 1) % 64 + 0x80 ≤ p.high →
    v.isValidChar ∧ String.utf8EncodeChar (Char.ofNat v) = p.seen.reverse ++ continuation v p.missing

/-- The character of a number has that number. -/
theorem val_ofNat {v : Nat} (h : v.isValidChar) : (Char.ofNat v).val.toNat = v := by
  rw [Char.ofNat, dif_pos h]
  rfl

/-- An octet is made of its number. -/
theorem octet_eq {n : Nat} (h : n = b.toNat) : UInt8.ofNat n = b := by
  rw [h, UInt8.ofNat_toNat]

/-- A first octet begins a character of two octets. -/
theorem begun_two {k : Nat} (hb : k + 0xc0 = b.toNat) (hk : 2 ≤ k) (hk' : k < 32) :
    Pending.Begun ⟨k, 1, 0x80, 0xbf, position, [b]⟩ := by
  refine ⟨Nat.one_pos, Nat.le_refl _, Nat.le_refl _, fun v hbits _ _ => ?_⟩
  replace hbits : v / 64 = k := hbits
  have hv : v.isValidChar := Or.inl (by omega)
  refine ⟨hv, ?_⟩
  simp only [String.utf8EncodeChar, val_ofNat hv]
  rw [if_neg (by omega), if_pos (by omega), octet_eq (b := b) (by omega)]
  simp [continuation, above]

/-- A first octet begins a character of three octets, when the bounds of the second keep out overlong forms and surrogates. -/
theorem begun_three {k low high : Nat} (hb : k + 0xe0 = b.toNat) (hk : k < 16) (hlow : 0x80 ≤ low) (hhigh : high ≤ 0xbf)
    (overlong : k = 0 → 0xa0 ≤ low) (surrogate : k = 13 → high ≤ 0x9f) :
    Pending.Begun ⟨k, 2, low, high, position, [b]⟩ := by
  refine ⟨Nat.two_pos, hlow, hhigh, fun v hbits hnext hnext' => ?_⟩
  replace hbits : v / 64 / 64 = k := hbits
  replace hnext : low ≤ v / 64 % 64 + 0x80 := hnext
  replace hnext' : v / 64 % 64 + 0x80 ≤ high := hnext'
  have hv : v.isValidChar := by
    by_cases h : k < 13
    · exact Or.inl (by omega)
    by_cases h : k = 13
    · have hlast := surrogate h
      exact Or.inl (by omega)
    · exact Or.inr (by omega)
  have hlong : 0x7ff < v := by
    by_cases h : k = 0
    · have hfirst := overlong h
      omega
    · omega
  refine ⟨hv, ?_⟩
  simp only [String.utf8EncodeChar, val_ofNat hv]
  rw [if_neg (by omega), if_neg (by omega), if_pos (by omega), octet_eq (b := b) (by omega)]
  simp [continuation, above]

/-- A first octet begins a character of four octets, when the bounds of the second keep out overlong forms and numbers past the last
character. -/
theorem begun_four {k low high : Nat} (hb : k + 0xf0 = b.toNat) (hk : k ≤ 4) (hlow : 0x80 ≤ low) (hhigh : high ≤ 0xbf)
    (overlong : k = 0 → 0x90 ≤ low) (last : k = 4 → high ≤ 0x8f) :
    Pending.Begun ⟨k, 3, low, high, position, [b]⟩ := by
  refine ⟨Nat.zero_lt_succ 2, hlow, hhigh, fun v hbits hnext hnext' => ?_⟩
  replace hbits : v / 64 / 64 / 64 = k := hbits
  replace hnext : low ≤ v / 64 / 64 % 64 + 0x80 := hnext
  replace hnext' : v / 64 / 64 % 64 + 0x80 ≤ high := hnext'
  have hlong : 0xffff < v := by
    by_cases h : k = 0
    · have hfirst := overlong h
      omega
    · omega
  have hv : v.isValidChar := by
    by_cases h : k = 4
    · have hlast := last h
      exact Or.inr (by omega)
    · exact Or.inr (by omega)
  refine ⟨hv, ?_⟩
  simp only [String.utf8EncodeChar, val_ofNat hv]
  rw [if_neg (by omega), if_neg (by omega), if_neg (by omega), octet_eq (b := b) (by omega)]
  simp [continuation, above, Nat.div_div_eq_div_mul]

/-- What a first octet can give: the character that is that octet, a flaw, or a character that has begun with it. -/
inductive Starts (b : UInt8) : List Item × Option Pending → Prop
  | char (c : Char) (h : String.utf8EncodeChar c = [b]) : Starts b ([.char c], none)
  | flaw (f : Flaw) : Starts b ([.flaw f], none)
  | begun (p : Pending) (h : p.Begun) (hseen : p.seen = [b]) : Starts b ([], some p)

/-- Every first octet gives one of these. -/
theorem starts (position : Nat) (b : UInt8) : Starts b (start position b) := by
  rw [start]
  by_cases ascii : b.toNat < 0x80
  · rw [if_pos ascii]
    have hv : b.toNat.isValidChar := Or.inl (by omega)
    refine .char _ ?_
    simp only [String.utf8EncodeChar, val_ofNat hv]
    rw [if_pos (by omega), octet_eq rfl]
  rw [if_neg ascii]
  by_cases early : b.toNat < 0xc2
  · rw [if_pos early]
    exact .flaw _
  rw [if_neg early]
  by_cases two : b.toNat < 0xe0
  · rw [if_pos two]
    exact .begun _ (begun_two (by omega) (by omega) (by omega)) rfl
  rw [if_neg two]
  by_cases overlong : b.toNat = 0xe0
  · rw [if_pos overlong]
    exact .begun _ (begun_three (by omega) (by omega) (by omega) (by omega) (by omega) (by omega)) rfl
  rw [if_neg overlong]
  by_cases surrogate : b.toNat = 0xed
  · rw [if_pos surrogate]
    exact .begun _ (begun_three (by omega) (by omega) (by omega) (by omega) (by omega) (by omega)) rfl
  rw [if_neg surrogate]
  by_cases three : b.toNat < 0xf0
  · rw [if_pos three]
    exact .begun _ (begun_three (by omega) (by omega) (by omega) (by omega) (by omega) (by omega)) rfl
  rw [if_neg three]
  by_cases overlong : b.toNat = 0xf0
  · rw [if_pos overlong]
    exact .begun _ (begun_four (by omega) (by omega) (by omega) (by omega) (by omega) (by omega)) rfl
  rw [if_neg overlong]
  by_cases four : b.toNat < 0xf4
  · rw [if_pos four]
    exact .begun _ (begun_four (by omega) (by omega) (by omega) (by omega) (by omega) (by omega)) rfl
  rw [if_neg four]
  by_cases last : b.toNat = 0xf4
  · rw [if_pos last]
    exact .begun _ (begun_four (by omega) (by omega) (by omega) (by omega) (by omega) (by omega)) rfl
  · rw [if_neg last]
    exact .flaw _

/-- An octet within the bounds takes a character that lacks more than one octet further. -/
theorem Pending.Begun.next (h : p.Begun) (hlow : p.low ≤ b.toNat) (hhigh : b.toNat ≤ p.high) (hmissing : 1 < p.missing) :
    Pending.Begun ⟨p.bits * 0x40 + b.toNat % 0x40, p.missing - 1, 0x80, 0xbf, p.start, b :: p.seen⟩ := by
  obtain ⟨n, hn⟩ : ∃ n, p.missing = n + 2 := ⟨p.missing - 2, by omega⟩
  have hfirst := h.low
  have hlast := h.high
  have hnext : p.missing - 1 = n + 1 := by omega
  refine ⟨by simp only [hnext]; omega, Nat.le_refl _, Nat.le_refl _, fun v hbits _ _ => ?_⟩
  simp only [hnext] at hbits ⊢
  have hquotient : above v p.missing = p.bits := by
    rw [hn, above]
    omega
  have hoctet : above v (p.missing - 1) % 64 + 0x80 = b.toNat := by
    rw [hnext]
    omega
  obtain ⟨hv, hoctets⟩ := h.octets v hquotient (by omega) (by omega)
  refine ⟨hv, ?_⟩
  rw [hoctets, hn, continuation, octet_eq (hnext ▸ hoctet), List.reverse_cons, List.append_assoc]
  rfl

/-- An octet within the bounds ends a character that lacks one octet. -/
theorem Pending.Begun.last (h : p.Begun) (hlow : p.low ≤ b.toNat) (hhigh : b.toNat ≤ p.high) (hmissing : p.missing ≤ 1) :
    String.utf8EncodeChar (Char.ofNat (p.bits * 0x40 + b.toNat % 0x40)) = p.seen.reverse ++ [b] := by
  have hone : p.missing = 1 := Nat.le_antisymm hmissing h.missing
  have hfirst := h.low
  have hlast := h.high
  have hoctets := h.octets (p.bits * 0x40 + b.toNat % 0x40)
  simp only [hone, Nat.sub_self, above] at hoctets
  obtain ⟨-, hoctets⟩ := hoctets (by omega) (by omega) (by omega)
  rw [hoctets, continuation, continuation, octet_eq (b := b) (by rw [above]; omega)]

/-! ## Texts -/

/-- The octets of a character that has begun. -/
def seenOctets (pending : Option Pending) : List UInt8 :=
  pending.elim [] fun p => p.seen.reverse

/-- Between characters none has begun. -/
theorem begun_of_mem_none : ∀ p ∈ (none : Option Pending), p.Begun :=
  fun p hp => absurd hp (Option.not_mem_none p)

/-- A character that is read strictly is in front of what is read behind it. -/
theorem strict_char_eq_ok {c : Char} {items : List Item} (h : strict (.char c :: items) = .ok cs) :
    ∃ rest, strict items = .ok rest ∧ cs = c :: rest := by
  rw [strict] at h
  cases hitems : strict items with
  | error f =>
    rw [hitems] at h
    cases h
  | ok rest =>
    rw [hitems] at h
    cases h
    exact ⟨rest, rfl, rfl⟩

/-- Characters without a flaw are read strictly as they are. -/
theorem strict_map_char (cs : List Char) : strict (cs.map .char) = .ok cs := by
  induction cs with
  | nil => rfl
  | cons c cs ih =>
    rw [List.map_cons, strict, ih]
    rfl

/-- What is read without a flaw has the octets that were read, those of a character that has begun with them. -/
theorem eq_encode_of_strict_scan (bs : List UInt8) : ∀ (position : Nat) (pending : Option Pending) (cs : List Char),
    (∀ p ∈ pending, p.Begun) → strict (scan position pending bs) = .ok cs → seenOctets pending ++ bs = encode cs := by
  induction bs with
  | nil =>
    rintro position (_ | p) cs _ hscan
    · cases hscan
      rfl
    · cases hscan
  | cons b bs ih =>
    rintro position (_ | p) cs hbegun hscan
    · rw [scan] at hscan
      have hstarts := starts position b
      generalize start position b = items at hscan hstarts
      cases hstarts with
      | char c hc =>
        obtain ⟨rest, hrest, rfl⟩ := strict_char_eq_ok hscan
        rw [encode, List.flatMap_cons, hc, ← encode, ← ih _ none rest begun_of_mem_none hrest]
        rfl
      | flaw f => cases hscan
      | begun p hp hseen =>
        have hrest := ih _ (some p) cs (fun q hq => Option.some.inj hq ▸ hp) hscan
        rwa [seenOctets, Option.elim, hseen] at hrest
    · have hp := hbegun p rfl
      rw [scan] at hscan
      split at hscan
      · next hbounds =>
        rw [Bool.and_eq_true, decide_eq_true_eq, decide_eq_true_eq] at hbounds
        dsimp only at hscan
        split at hscan
        · next hmissing =>
          obtain ⟨rest, hrest, rfl⟩ := strict_char_eq_ok hscan
          rw [encode, List.flatMap_cons, hp.last hbounds.1 hbounds.2 hmissing, ← encode, ← ih _ none rest begun_of_mem_none hrest,
            List.append_assoc]
          rfl
        · next hmissing =>
          have hrest := ih _ (some _) cs
            (fun q hq => Option.some.inj hq ▸ hp.next hbounds.1 hbounds.2 (Nat.lt_of_not_le hmissing)) hscan
          rwa [seenOctets, Option.elim, List.reverse_cons, List.append_assoc] at hrest
      · cases hscan

/-- Octets are read as a text exactly when they are its encoding. -/
theorem decode_eq_ok_iff : decode bs = .ok cs ↔ bs = encode cs := by
  constructor
  · exact eq_encode_of_strict_scan bs 0 none cs begun_of_mem_none
  · rintro rfl
    rw [decode, scan_encode, strict_map_char]

/-- Octets are UTF-8 exactly when they are the encoding of a text. -/
theorem isValidUTF8_iff : bs.toByteArray.IsValidUTF8 ↔ ∃ cs, bs = encode cs := by
  constructor
  · rintro ⟨cs, h⟩
    have hlists := congrArg (fun octets : ByteArray => octets.data.toList) h
    exact ⟨cs, by simpa [List.utf8Encode, encode] using hlists⟩
  · rintro ⟨cs, rfl⟩
    exact ⟨cs, rfl⟩

end OAuthClient.Text.Utf8
