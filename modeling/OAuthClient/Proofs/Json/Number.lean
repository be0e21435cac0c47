import OAuthClient.Proofs.Json.Grammar
import OAuthClient.Proofs.Number.Decimal

/-!
# Whole numbers in JSON texts

The decimal text of a whole number stands for it in a JSON text, whatever its size and its sign, as long as it has no more digits than
are read.
-/

namespace OAuthClient.Json

open OAuthClient.Text OAuthClient.Integer

variable {t : List Char}

/-- Behind a value no number goes on. -/
theorem Ends.not_number (h : Ends t) {c : Char} (hc : c ∈ t.head?) : isAsciiDigit c = false ∧ c ∉ ['.', 'e', 'E'] := by
  rcases h c hc with hgap | hmark
  · rcases isGap_iff.mp hgap with rfl | rfl | rfl | rfl <;> decide
  · simp only [List.mem_cons, List.not_mem_nil, or_false] at hmark
    rcases hmark with rfl | rfl | rfl <;> decide

/-- Digits are taken off a text up to what ends the value. -/
theorem spanDigits_append {ds : List Char} (hds : ∀ c ∈ ds, isAsciiDigit c = true) (h : Ends t) : spanDigits (ds ++ t) = (ds, t) := by
  have hstop : t.takeWhile isAsciiDigit = [] ∧ t.dropWhile isAsciiDigit = t := by
    cases t with
    | nil => exact ⟨rfl, rfl⟩
    | cons c t =>
      have hc := (h.not_number (c := c) rfl).1
      exact ⟨List.takeWhile_cons_of_neg (by simp [hc]), List.dropWhile_cons_of_neg (by simp [hc])⟩
  rw [spanDigits, List.takeWhile_append_of_pos hds, List.dropWhile_append_of_pos hds, hstop.1, hstop.2, List.append_nil]

/-- What ends a value begins neither a fraction nor an exponent. -/
theorem Ends.readFraction_eq (h : Ends t) : readFraction t = none ∧ readExponent t = none := by
  cases t with
  | nil => exact ⟨rfl, rfl⟩
  | cons c t =>
    have hc := (h.not_number (c := c) rfl).2
    simp only [List.mem_cons, List.not_mem_nil, or_false, not_or] at hc
    constructor
    · unfold readFraction
      split
      · next heq => exact absurd (List.cons.inj heq).1 hc.1
      · rfl
    · rw [readExponent, if_neg (by simp [hc.2.1, hc.2.2])]

/-- Takes the minus sign off a number. -/
def takeMinus : List Char → Bool × List Char
  | '-' :: cs => (true, cs)
  | cs => (false, cs)

/-- Takes the whole part off a number: a zero alone, or all digits. -/
def takeWhole : List Char → List Char × List Char
  | '0' :: cs => (['0'], cs)
  | cs => spanDigits cs

/-- A number with neither a fraction nor an exponent is a whole number. -/
theorem readNumber_of_parts {place body whole rest : List Char} {negative : Bool} (hminus : takeMinus place = (negative, body))
    (hwhole : takeWhole body = (whole, rest)) (hne : whole ≠ []) (hcount : whole.length ≤ digitLimit)
    (hrest : readFraction rest = none ∧ readExponent rest = none) :
    readNumber place = .ok (.int (signed negative (digitsValue whole)), rest) := by
  unfold readNumber
  split
  next negative' body' heq =>
  cases heq.symm.trans hminus
  split
  next whole' rest' heq =>
  cases heq.symm.trans hwhole
  rw [if_neg (by simpa using hne), hrest.1, hrest.2]
  exact if_neg (Nat.not_lt.mpr hcount)

/-- The decimal digits of a number are its whole part. -/
theorem takeWhole_toDigits (n : Nat) (h : Ends t) : takeWhole (Nat.toDigits 10 n ++ t) = (Nat.toDigits 10 n, t) := by
  unfold takeWhole
  split
  · next cs heq =>
    -- only zero begins with a zero
    have hzero : n = 0 := by
      by_contra hne
      refine head?_toDigits (Nat.pos_of_ne_zero hne) ?_
      obtain ⟨c, rest, hc⟩ := List.exists_cons_of_ne_nil (Nat.toDigits_ne_nil (n := n) (b := 10))
      rw [hc] at heq ⊢
      rw [(List.cons.inj heq).1]
      rfl
    subst hzero
    rw [(List.cons.inj heq).2.symm]
    rfl
  · exact spanDigits_append (fun c hc => isAsciiDigit_of_mem_toDigits (n := n) hc) h

/-- The decimal digits of a number begin with a digit. -/
theorem exists_digit (n : Nat) : ∃ c rest, Nat.toDigits 10 n = c :: rest ∧ isAsciiDigit c = true := by
  obtain ⟨c, rest, hc⟩ := List.exists_cons_of_ne_nil (Nat.toDigits_ne_nil (n := n) (b := 10))
  exact ⟨c, rest, hc, isAsciiDigit_of_mem_toDigits (n := n) (by simp [hc])⟩

/-- A digit is none of the characters that are no digits. -/
theorem ne_of_isAsciiDigit {c d : Char} (hc : isAsciiDigit c = true) (hd : isAsciiDigit d = false) : c ≠ d := by
  rintro rfl
  rw [hc] at hd
  cases hd

/-- The decimal text of a whole number is read as a number. -/
theorem readNumber_of_int {n : Int} (hcount : digitCount n ≤ digitLimit) (h : Ends t) :
    readNumber ((toString n).toList ++ t) = .ok (.int n, t) := by
  have hvalue : digitsValue (Nat.toDigits 10 n.natAbs) = n.natAbs := ofDigits_toDigits n.natAbs
  have hread : ∀ (place : List Char) (negative : Bool), takeMinus place = (negative, Nat.toDigits 10 n.natAbs ++ t) →
      readNumber place = .ok (.int (signed negative n.natAbs), t) := by
    intro place negative hminus
    rw [readNumber_of_parts hminus (takeWhole_toDigits n.natAbs h) Nat.toDigits_ne_nil (digitCount_eq n ▸ hcount) h.readFraction_eq,
      hvalue]
  rw [toList_toString, minusOf]
  by_cases hn : n < 0
  · have hsize : signed true n.natAbs = n := by
      simp only [signed, if_true]
      omega
    rw [if_pos hn, hread _ true rfl, hsize]
  · have hsize : signed false n.natAbs = n := by
      simp [signed]
      omega
    have hplain : takeMinus (Nat.toDigits 10 n.natAbs ++ t) = (false, Nat.toDigits 10 n.natAbs ++ t) := by
      obtain ⟨c, rest, hc, hdigit⟩ := exists_digit n.natAbs
      rw [hc, List.cons_append]
      unfold takeMinus
      split
      · next heq => exact absurd (List.cons.inj heq).1 (ne_of_isAsciiDigit hdigit (by decide))
      · rfl
    rw [if_neg hn, List.nil_append, hread _ false hplain, hsize]

/-- No word begins with a digit, and none with a minus sign and a digit. -/
theorem readWord_of_digit {c : Char} (hc : isAsciiDigit c = true) (cs : List Char) :
    readWord (c :: cs) = none ∧ readWord ('-' :: c :: cs) = none := by
  have hne : ∀ d, isAsciiDigit d = false → (d == c) = false :=
    fun d hd => beq_eq_false_iff_ne.mpr (ne_of_isAsciiDigit hc hd).symm
  constructor <;>
    simp [readWord, after?, hne 'n' (by decide), hne 't' (by decide), hne 'f' (by decide), hne 'N' (by decide), hne 'I' (by decide),
      hne '-' (by decide)]

/-- What begins with a digit, or with a minus sign and a digit, is read as a number. -/
theorem readValue_of_digit {room : Nat} {c : Char} (hc : isAsciiDigit c = true) (cs : List Char) (fuel : Nat) :
    readValue noHalves room (fuel + 1) (c :: cs) = readNumber (c :: cs) ∧
      readValue noHalves room (fuel + 1) ('-' :: c :: cs) = readNumber ('-' :: c :: cs) := by
  have hne : ∀ d, isAsciiDigit d = false → (c == d) = false := fun d hd => beq_eq_false_iff_ne.mpr (ne_of_isAsciiDigit hc hd)
  obtain ⟨hplain, hminus⟩ := readWord_of_digit hc cs
  constructor
  · simp [readValue, hne '"' (by decide), hne '\x7b' (by decide), hne '[' (by decide), hplain]
  · simp [readValue, hminus]

/-- The decimal text of a whole number writes it. -/
theorem writes_of_int {room : Nat} {n : Int} (hcount : digitCount n ≤ digitLimit) : Writes room (.int n) (toString n).toList := by
  obtain ⟨c, rest, hc, hdigit⟩ := exists_digit n.natAbs
  have htext : (toString n).toList = minusOf n ++ c :: rest := by rw [toList_toString, hc]
  have hread : ∀ t fuel, Ends t → readValue noHalves room (fuel + 1) ((toString n).toList ++ t) = .ok (.int n, t) := by
    intro t fuel ht
    rw [← readNumber_of_int hcount ht, htext, minusOf]
    by_cases hn : n < 0
    · rw [if_pos hn]
      exact (readValue_of_digit hdigit (rest ++ t) fuel).2
    · rw [if_neg hn]
      exact (readValue_of_digit hdigit (rest ++ t) fuel).1
  refine ⟨?_, fun t fuel ht hfuel => ?_⟩
  · by_cases hn : n < 0
    · exact ⟨'-', c :: rest, by rw [htext, minusOf, if_pos hn]; rfl, by decide⟩
    · refine ⟨c, rest, by rw [htext, minusOf, if_neg hn]; rfl, Bool.eq_false_iff.mpr fun hgap => ?_⟩
      rcases isGap_iff.mp hgap with rfl | rfl | rfl | rfl <;> exact absurd hdigit (by decide)
  · obtain ⟨fuel, rfl⟩ := Nat.exists_eq_add_one_of_ne_zero (Nat.ne_of_gt (Nat.zero_lt_of_lt hfuel))
    exact hread t fuel ht

end OAuthClient.Json
