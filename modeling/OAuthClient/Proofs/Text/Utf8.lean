import OAuthClient.Text.Utf8

/-!
# Reading back UTF-8

Statements about `Utf8.scan` on the octets of a text. The octets of a character are read as that character whatever follows, so
the octets of a text are read as its characters, without a flaw, and the lenient reading undoes the encoding.
-/

namespace OAuthClient.Text.Utf8

variable {position : Nat} {p : Pending} {b : UInt8} {bs : List UInt8}

/-- An octet made of a number below 256 has that number. -/
theorem toNat_octet {n : Nat} (h : n < 256) : (UInt8.ofNat n).toNat = n := by
  rw [UInt8.toNat_ofNat']
  omega

/-! ## One octet -/

/-- A first octet that begins a longer character. -/
theorem scan_first (h : start position b = ([], some p)) :
    scan position none (b :: bs) = scan (position + 1) (some p) bs := by
  rw [scan, h]
  rfl

/-- An octet within the bounds takes a character further that lacks more than one octet. -/
theorem scan_more {n : Nat} (low : p.low ≤ n % 0x40 + 0x80) (high : n % 0x40 + 0x80 ≤ p.high) (missing : 1 < p.missing) :
    scan position (some p) (UInt8.ofNat (n % 0x40 + 0x80) :: bs) =
      scan (position + 1) (some ⟨p.bits * 0x40 + n % 0x40, p.missing - 1, 0x80, 0xbf, p.start,
        UInt8.ofNat (n % 0x40 + 0x80) :: p.seen⟩) bs := by
  rw [scan, toNat_octet (by omega)]
  have hbits : (n % 0x40 + 0x80) % 0x40 = n % 0x40 := by omega
  simp [low, high, hbits, Nat.not_le.mpr missing]

/-- An octet within the bounds ends a character that lacks one octet. -/
theorem scan_last {n : Nat} (low : p.low ≤ n % 0x40 + 0x80) (high : n % 0x40 + 0x80 ≤ p.high) (missing : p.missing ≤ 1) :
    scan position (some p) (UInt8.ofNat (n % 0x40 + 0x80) :: bs) =
      .char (Char.ofNat (p.bits * 0x40 + n % 0x40)) :: scan (position + 1) none bs := by
  rw [scan, toNat_octet (by omega)]
  have hbits : (n % 0x40 + 0x80) % 0x40 = n % 0x40 := by omega
  simp [low, high, hbits, missing]

/-! ## First octets -/

/-- The first octet of a character of two octets. -/
theorem start_two (position : Nat) {v : Nat} (h : 0x7f < v) (h' : v ≤ 0x7ff) :
    ∃ p, start position (UInt8.ofNat (v / 64 % 0x20 + 0xc0)) = ([], some p) ∧ p.bits = v / 64 ∧ p.missing = 1 ∧
      p.low = 0x80 ∧ p.high = 0xbf := by
  have hb : (UInt8.ofNat (v / 64 % 0x20 + 0xc0)).toNat = v / 64 + 0xc0 := by
    rw [toNat_octet (by omega)]
    omega
  simp only [start, hb]
  rw [if_neg (by omega), if_neg (by omega), if_pos (by omega)]
  exact ⟨_, rfl, by simp, rfl, rfl, rfl⟩

/-- The first octet of a character of three octets leaves room for the second. Surrogates are no characters. -/
theorem start_three (position : Nat) {v : Nat} (h : 0x7ff < v) (h' : v ≤ 0xffff) (surrogate : v < 0xd800 ∨ 0xdfff < v) :
    ∃ p, start position (UInt8.ofNat (v / 4096 % 0x10 + 0xe0)) = ([], some p) ∧ p.bits = v / 4096 ∧ p.missing = 2 ∧
      p.low ≤ v / 64 % 0x40 + 0x80 ∧ v / 64 % 0x40 + 0x80 ≤ p.high := by
  have hb : (UInt8.ofNat (v / 4096 % 0x10 + 0xe0)).toNat = v / 4096 + 0xe0 := by
    rw [toNat_octet (by omega)]
    omega
  simp only [start, hb]
  rw [if_neg (by omega), if_neg (by omega), if_neg (by omega)]
  -- overlong forms and surrogates narrow the bounds of the second octet
  by_cases overlong : v / 4096 + 0xe0 = 0xe0
  · rw [if_pos overlong]
    exact ⟨_, rfl, by simp only; omega, rfl, by simp only; omega, by simp only; omega⟩
  · rw [if_neg overlong]
    by_cases last : v / 4096 + 0xe0 = 0xed
    · rw [if_pos last]
      exact ⟨_, rfl, by simp only; omega, rfl, by simp only; omega, by simp only; omega⟩
    · rw [if_neg last, if_pos (by omega)]
      exact ⟨_, rfl, by simp, rfl, by simp only; omega, by simp only; omega⟩

/-- The first octet of a character of four octets leaves room for the second. -/
theorem start_four (position : Nat) {v : Nat} (h : 0xffff < v) (h' : v < 0x110000) :
    ∃ p, start position (UInt8.ofNat (v / 262144 % 0x08 + 0xf0)) = ([], some p) ∧ p.bits = v / 262144 ∧ p.missing = 3 ∧
      p.low ≤ v / 4096 % 0x40 + 0x80 ∧ v / 4096 % 0x40 + 0x80 ≤ p.high := by
  have hb : (UInt8.ofNat (v / 262144 % 0x08 + 0xf0)).toNat = v / 262144 + 0xf0 := by
    rw [toNat_octet (by omega)]
    omega
  simp only [start, hb]
  rw [if_neg (by omega), if_neg (by omega), if_neg (by omega), if_neg (by omega), if_neg (by omega), if_neg (by omega)]
  -- overlong forms and code points past the last narrow the bounds of the second octet
  by_cases overlong : v / 262144 + 0xf0 = 0xf0
  · rw [if_pos overlong]
    exact ⟨_, rfl, by simp only; omega, rfl, by simp only; omega, by simp only; omega⟩
  · rw [if_neg overlong]
    by_cases middle : v / 262144 + 0xf0 < 0xf4
    · rw [if_pos middle]
      exact ⟨_, rfl, by simp, rfl, by simp only; omega, by simp only; omega⟩
    · rw [if_neg middle, if_pos (by omega)]
      exact ⟨_, rfl, by simp only; omega, rfl, by simp only; omega, by simp only; omega⟩

/-! ## Characters and texts -/

/-- The octets of a character are read as that character, and reading goes on behind them. -/
theorem scan_utf8EncodeChar (c : Char) (position : Nat) (bs : List UInt8) :
    ∃ next, scan position none (String.utf8EncodeChar c ++ bs) = .char c :: scan next none bs := by
  have hv : c.val.toNat < 0xd800 ∨ 0xdfff < c.val.toNat ∧ c.val.toNat < 0x110000 := c.valid
  have hc : Char.ofNat c.val.toNat = c := Char.ofNat_toNat c
  generalize hn : c.val.toNat = v at hv hc
  simp only [String.utf8EncodeChar, hn]
  by_cases h1 : v ≤ 0x7f
  · refine ⟨position + 1, ?_⟩
    rw [if_pos h1]
    simp only [List.cons_append, List.nil_append, scan, start, toNat_octet (show v < 256 by omega)]
    rw [if_pos (by omega), hc]
    rfl
  by_cases h2 : v ≤ 0x7ff
  · obtain ⟨p, hp, hbits, hmissing, hlow, hhigh⟩ := start_two position (by omega) h2
    refine ⟨position + 1 + 1, ?_⟩
    rw [if_neg h1, if_pos h2, List.cons_append, List.cons_append, List.nil_append, scan_first hp,
      scan_last (by omega) (by omega) (by omega), hbits]
    rw [show v / 64 * 0x40 + v % 0x40 = v by omega, hc]
  by_cases h3 : v ≤ 0xffff
  · obtain ⟨p, hp, hbits, hmissing, hlow, hhigh⟩ := start_three position (by omega) h3 (by omega)
    refine ⟨position + 1 + 1 + 1, ?_⟩
    rw [if_neg h1, if_neg h2, if_pos h3, List.cons_append, List.cons_append, List.cons_append, List.nil_append,
      scan_first hp, scan_more (by omega) (by omega) (by omega),
      scan_last (by simp only; omega) (by simp only; omega) (by simp only; omega), hbits]
    rw [show (v / 4096 * 0x40 + v / 64 % 0x40) * 0x40 + v % 0x40 = v by omega, hc]
  · obtain ⟨p, hp, hbits, hmissing, hlow, hhigh⟩ := start_four position (v := v) (by omega) (by omega)
    refine ⟨position + 1 + 1 + 1 + 1, ?_⟩
    rw [if_neg h1, if_neg h2, if_neg h3, List.cons_append, List.cons_append, List.cons_append, List.cons_append,
      List.nil_append, scan_first hp, scan_more (by omega) (by omega) (by omega),
      scan_more (by simp only; omega) (by simp only; omega) (by simp only; omega),
      scan_last (by simp only; omega) (by simp only; omega) (by simp only; omega), hbits]
    rw [show ((v / 262144 * 0x40 + v / 4096 % 0x40) * 0x40 + v / 64 % 0x40) * 0x40 + v % 0x40 = v by omega, hc]

/-- The octets of a text are read as its characters, without a flaw. -/
theorem scan_encode (cs : List Char) (position : Nat) : scan position none (encode cs) = cs.map .char := by
  induction cs generalizing position with
  | nil => rfl
  | cons c cs ih =>
    obtain ⟨next, h⟩ := scan_utf8EncodeChar c position (encode cs)
    rw [encode, List.flatMap_cons, ← encode, h, ih, List.map_cons]

/-- A character of ASCII is one octet, its code point. -/
theorem utf8EncodeChar_of_ascii {c : Char} (h : c.toNat < 0x80) : String.utf8EncodeChar c = [UInt8.ofNat c.toNat] := by
  have hle : c.val.toNat ≤ 0x7f := Nat.le_of_lt_succ h
  simp only [String.utf8EncodeChar]
  rw [if_pos hle]
  rfl

/-- A text of ASCII has one octet for every character, its code point. -/
theorem encode_of_ascii {cs : List Char} (h : ∀ c ∈ cs, c.toNat < 0x80) : encode cs = cs.map fun c => UInt8.ofNat c.toNat := by
  rw [encode]
  induction cs with
  | nil => rfl
  | cons c cs ih =>
    rw [List.forall_mem_cons] at h
    rw [List.flatMap_cons, utf8EncodeChar_of_ascii h.1, ih h.2]
    rfl

/-- The lenient reading undoes the encoding of every text. -/
theorem decodeLenient_encode (cs : List Char) : decodeLenient (encode cs) = cs := by
  rw [decodeLenient, scan_encode, List.map_map]
  exact List.map_id cs

end OAuthClient.Text.Utf8
