import Mathlib.Algebra.Group.Nat.Defs
import Mathlib.Data.List.Basic
import OAuthClient.Json.Display
import OAuthClient.Proofs.Json.Grammar

/-!
# Quoted texts read back

The quoted form of a text says by itself where it ends and which text it is: the quote at its start is the one at its end, inside it
stands only behind a backslash, and every escape has its own length. So texts that are shown inside descriptions can be told apart, also
those with halves of surrogate pairs.
-/

namespace OAuthClient.Json

open OAuthClient.Text

/-! ## Hexadecimal digits -/

/-- The number that hexadecimal digits denote. -/
def hexNumber (ds : List Char) : Nat :=
  ds.foldl (fun n d => n * 16 + (hexValue? d).getD 0) 0

/-- The digit of a value below sixteen has this value. -/
theorem hexValue?_digitChar {n : Nat} (h : n < 16) : hexValue? (digitChar n) = some n := by
  revert n
  decide

/-- There are as many digits as asked for. -/
theorem length_paddedDigits (base width n : Nat) : (paddedDigits base width n).length = width := by
  induction width generalizing n with
  | zero => rfl
  | succ width ih => rw [paddedDigits, List.length_append, ih, List.length_singleton]

/-- The last digits of a number denote what is left of it. -/
theorem hexNumber_paddedDigits (width n : Nat) : hexNumber (paddedDigits 16 width n) = n % 16 ^ width := by
  induction width generalizing n with
  | zero => rw [Nat.pow_zero, Nat.mod_one]; rfl
  | succ width ih =>
    unfold hexNumber at ih ⊢
    rw [paddedDigits, List.foldl_append, ih, List.foldl_cons, List.foldl_nil,
      hexValue?_digitChar (Nat.mod_lt n (by decide)), Option.getD_some, Nat.pow_succ, Nat.mul_comm (16 ^ width), Nat.mod_mul]
    omega

/-! ## One code point -/

/-- A code point: one that Unicode has. -/
def IsCode (code : Nat) : Prop := code < 0x110000

/-- The code point of a character is one. -/
theorem isCode_toNat (c : Char) : IsCode c.toNat := by
  rcases c.valid with h | h
  · exact Nat.lt_trans h (by decide)
  · exact h.2

/-- One code point between quotes. -/
def quoteCode (quote : Char) (code : Nat) : List Char :=
  if isHalf code then '\\' :: 'u' :: paddedDigits 16 4 code else quoteChar quote (charOf code)

/-- The number of digits at the start of a text, and what follows them. -/
def readHex (width : Nat) (cs : List Char) : Nat × List Char :=
  (hexNumber (cs.take width), cs.drop width)

/-- The code point that is escaped at the start of a text, behind the backslash, and what follows it. -/
def unescape : List Char → Nat × List Char
  | [] => (0, [])
  | c :: cs =>
    if c = 't' then (0x9, cs)
    else if c = 'n' then (0xa, cs)
    else if c = 'r' then (0xd, cs)
    else if c = 'x' then readHex 2 cs
    else if c = 'u' then readHex 4 cs
    else if c = 'U' then readHex 8 cs
    else (c.toNat, cs)

/-- The code point at the start of what stands between quotes, and what follows it. -/
def unquote : List Char → Nat × List Char
  | [] => (0, [])
  | c :: cs => if c = '\\' then unescape cs else (c.toNat, cs)

/-- Whether a character can stand around a text. -/
def IsQuote (c : Char) : Prop := c = '\'' ∨ c = '"'

/-- Digits of a number that has no more of them denote the number. -/
theorem readHex_paddedDigits (width : Nat) {code : Nat} (h : code < 16 ^ width) (cs : List Char) :
    readHex width (paddedDigits 16 width code ++ cs) = (code, cs) := by
  have hlength := length_paddedDigits 16 width code
  rw [readHex, List.take_left' hlength, List.drop_left' hlength, hexNumber_paddedDigits, Nat.mod_eq_of_lt h]

/-- A character that is escaped by its code point is read back. -/
theorem unquote_codeEscape (c : Char) (cs : List Char) : unquote (codeEscape c ++ cs) = (c.toNat, cs) := by
  have hmax : c.toNat < 16 ^ 8 := Nat.lt_trans (isCode_toNat c) (by decide)
  unfold codeEscape
  split
  · next h => exact readHex_paddedDigits 2 h cs
  · split
    · next h => exact readHex_paddedDigits 4 h cs
    · exact readHex_paddedDigits 8 hmax cs

/-- A character between quotes is read back. -/
theorem unquote_quoteChar {quote : Char} (hquote : IsQuote quote) (c : Char) (cs : List Char) :
    unquote (quoteChar quote c ++ cs) = (c.toNat, cs) := by
  unfold quoteChar
  split
  · next h =>
    rw [Bool.or_eq_true, beq_iff_eq, beq_iff_eq] at h
    rcases h with rfl | rfl
    · rcases hquote with rfl | rfl <;> rfl
    · rfl
  · next h =>
    rw [Bool.or_eq_true, beq_iff_eq, beq_iff_eq, not_or] at h
    split
    · next ht => rw [eq_of_beq ht]; rfl
    · split
      · next hn => rw [eq_of_beq hn]; rfl
      · split
        · next hr => rw [eq_of_beq hr]; rfl
        · split
          · exact if_neg h.2
          · exact unquote_codeEscape c cs

/-- What a character becomes between quotes does not begin with the quote. -/
theorem exists_quoteChar_eq_cons {quote : Char} (hquote : IsQuote quote) (c : Char) :
    ∃ d ds, quoteChar quote c = d :: ds ∧ d ≠ quote := by
  have hslash : '\\' ≠ quote := by rcases hquote with rfl | rfl <;> decide
  unfold quoteChar codeEscape
  split
  · exact ⟨_, _, rfl, hslash⟩
  · next h =>
    rw [Bool.or_eq_true, beq_iff_eq, beq_iff_eq, not_or] at h
    repeat' split
    all_goals first | exact ⟨_, _, rfl, hslash⟩ | exact ⟨_, _, rfl, h.1⟩

/-- The character of a code point that is no half of a pair has this code point. -/
theorem toNat_charOf {code : Nat} (hcode : IsCode code) (h : isHalf code = false) : (charOf code).toNat = code := by
  have hvalid : code.isValidChar := by
    rw [isHalf, Bool.and_eq_false_iff, decide_eq_false_iff_not, decide_eq_false_iff_not] at h
    unfold IsCode at hcode
    unfold Nat.isValidChar
    omega
  rw [charOf, h, if_neg Bool.false_ne_true, Char.ofNat, dif_pos hvalid]
  rfl

/-- A code point between quotes is read back. -/
theorem unquote_quoteCode {quote : Char} (hquote : IsQuote quote) {code : Nat} (hcode : IsCode code) (cs : List Char) :
    unquote (quoteCode quote code ++ cs) = (code, cs) := by
  unfold quoteCode
  split
  · next h =>
    rw [isHalf, Bool.and_eq_true, decide_eq_true_eq, decide_eq_true_eq] at h
    exact readHex_paddedDigits 4 (Nat.lt_trans h.2 (by decide)) cs
  · next h =>
    rw [unquote_quoteChar hquote, toNat_charOf hcode (by simpa using h)]

/-- What a code point becomes between quotes does not begin with the quote. -/
theorem quoteCode_append_ne {quote : Char} (hquote : IsQuote quote) (code : Nat) (cs rest : List Char) :
    quoteCode quote code ++ cs ≠ quote :: rest := by
  unfold quoteCode
  split
  · rcases hquote with rfl | rfl <;> exact fun h => absurd (List.cons.inj h).1 (by decide)
  · obtain ⟨d, ds, hd, hne⟩ := exists_quoteChar_eq_cons hquote (charOf code)
    rw [hd]
    exact fun h => hne (List.cons.inj h).1

/-! ## Texts -/

/-- Code points between quotes, and what follows, are determined by what they make. -/
theorem flatMap_quoteCode_inj {quote : Char} (hquote : IsQuote quote) {codes codes' : List Nat} (h : ∀ c ∈ codes, IsCode c)
    (h' : ∀ c ∈ codes', IsCode c) {rest rest' : List Char}
    (heq : codes.flatMap (quoteCode quote) ++ quote :: rest = codes'.flatMap (quoteCode quote) ++ quote :: rest') :
    codes = codes' ∧ rest = rest' := by
  induction codes generalizing codes' with
  | nil =>
    cases codes' with
    | nil => exact ⟨rfl, (List.cons.inj heq).2⟩
    | cons c codes' =>
      rw [List.flatMap_cons, List.append_assoc] at heq
      exact absurd heq.symm (quoteCode_append_ne hquote c _ _)
  | cons c codes ih =>
    rw [List.flatMap_cons, List.append_assoc] at heq
    cases codes' with
    | nil => exact absurd heq (quoteCode_append_ne hquote c _ _)
    | cons c' codes' =>
      rw [List.flatMap_cons, List.append_assoc] at heq
      have hread := congrArg unquote heq
      rw [unquote_quoteCode hquote (h c List.mem_cons_self), unquote_quoteCode hquote (h' c' List.mem_cons_self)] at hread
      obtain ⟨rfl, htail⟩ := Prod.mk.inj hread
      obtain ⟨rfl, hrest⟩ := ih (fun d hd => h d (List.mem_cons_of_mem _ hd)) (fun d hd => h' d (List.mem_cons_of_mem _ hd)) htail
      exact ⟨rfl, hrest⟩

/-- The quote around a text is a quote. -/
theorem isQuote_quoteFor (cs : List Char) : IsQuote (quoteFor cs) := by
  unfold quoteFor
  split
  · exact Or.inr rfl
  · exact Or.inl rfl

/-- The quoted form of code points. -/
theorem toList_quotedCodes (codes : List Nat) :
    (quotedCodes codes).toList =
      quoteFor (codes.map charOf) :: (codes.flatMap (quoteCode (quoteFor (codes.map charOf))) ++ [quoteFor (codes.map charOf)]) := by
  rw [quotedCodes, String.toList_ofList]
  rfl

/-- A quoted text and what follows it are determined by what they make. -/
theorem quotedCodes_inj {codes codes' : List Nat} (h : ∀ c ∈ codes, IsCode c) (h' : ∀ c ∈ codes', IsCode c) {rest rest' : List Char}
    (heq : (quotedCodes codes).toList ++ rest = (quotedCodes codes').toList ++ rest') : codes = codes' ∧ rest = rest' := by
  rw [toList_quotedCodes, toList_quotedCodes, List.cons_append, List.cons_append, List.append_assoc, List.append_assoc] at heq
  obtain ⟨hquote, hbody⟩ := List.cons.inj heq
  rw [← hquote] at hbody
  exact flatMap_quoteCode_inj (isQuote_quoteFor _) h h' hbody

/-- A value is a text: the text of some code points. -/
def IsText (v : Json) : Prop :=
  ∃ codes, (∀ c ∈ codes, IsCode c) ∧ v = ofCodes codes

/-- Every sequence of characters is a text. -/
theorem isText_str (s : String) : IsText (.str s) := by
  refine ⟨codesOf s, fun code hcode => ?_, (ofCodes_codesOf s).symm⟩
  obtain ⟨c, -, rfl⟩ := List.mem_map.mp hcode
  exact isCode_toNat c

/-- A text is shown by its code points between quotes. -/
theorem inspect_ofCodes (codes : List Nat) : (ofCodes codes).inspect = quotedCodes codes := by
  unfold ofCodes
  split
  · rw [inspect]
  · next h =>
    have hcodes : codes.flatMap (quoteCode (quoteFor (codes.map charOf))) =
        codes.flatMap fun code => quoteChar (quoteFor (codes.map charOf)) (charOf code) :=
      List.flatMap_congr fun code hcode => if_neg fun hhalf => h (List.any_eq_true.mpr ⟨code, hcode, hhalf⟩)
    rw [inspect, ← String.toList_inj, toList_quotedCodes, hcodes, quoted, textOf, String.toList_ofList, String.toList_ofList, quoteChars,
      List.flatMap_map]
    rfl

/-- Two values are the same or two texts. -/
def SameOrTexts (v v' : Json) : Prop :=
  v = v' ∨ IsText v ∧ IsText v'

/-- A value that is shown in front of something is determined by what they make, up to values that are no texts. -/
theorem SameOrTexts.inspect_inj {v v' : Json} (h : SameOrTexts v v') {rest rest' : List Char}
    (heq : v.inspect.toList ++ rest = v'.inspect.toList ++ rest') : v = v' ∧ rest = rest' := by
  rcases h with rfl | ⟨⟨codes, hcodes, rfl⟩, ⟨codes', hcodes', rfl⟩⟩
  · exact ⟨rfl, List.append_cancel_left heq⟩
  · rw [inspect_ofCodes, inspect_ofCodes] at heq
    obtain ⟨rfl, hrest⟩ := quotedCodes_inj hcodes hcodes' heq
    exact ⟨rfl, hrest⟩

end OAuthClient.Json
