import OAuthClient.Proofs.Number.Integer

/-!
# Decimal texts

The decimal text of a whole number denotes it, whatever its size and its sign, and so does that text with blanks around it and with a
plus sign in front of a number that is not negative.
-/

namespace OAuthClient.Integer

open OAuthClient.Text

/-! ## Digits -/

/-- The decimal digits of a number are ASCII digits. -/
theorem isAsciiDigit_of_mem_toDigits {n : Nat} {c : Char} (h : c ∈ Nat.toDigits 10 n) : isAsciiDigit c = true :=
  Nat.isDigit_of_mem_toDigits (by decide) (by decide) h

/-- An ASCII digit has the value that it has in JSON. -/
theorem digitValue?_of_isAsciiDigit {c : Char} (h : isAsciiDigit c = true) : digitValue? c = some (c.toNat - 0x30) := by
  have hrange := h
  rw [isAsciiDigit, Bool.and_eq_true, decide_eq_true_eq, decide_eq_true_eq] at hrange
  have hlast : c.toNat ≤ '9'.toNat := hrange.2
  rw [digitValue?, if_pos (Nat.lt_of_le_of_lt hlast (by decide))]
  exact if_pos h

/-- ASCII digits are digits. -/
theorem digits_of_isAsciiDigit {ds : List Char} (hne : ds ≠ []) (h : ∀ c ∈ ds, isAsciiDigit c = true) :
    Digits ds (ds.map fun c => c.toNat - 0x30) := by
  induction ds with
  | nil => exact absurd rfl hne
  | cons c ds ih =>
    rw [List.forall_mem_cons] at h
    have hc := digitValue?_of_isAsciiDigit h.1
    cases ds with
    | nil => exact .one hc
    | cons d ds => exact .next hc (ih (List.cons_ne_nil d ds) h.2)

/-- The decimal digits of a number denote it. -/
theorem ofDigits_toDigits (n : Nat) : ofDigits ((Nat.toDigits 10 n).map fun c => c.toNat - 0x30) = n := by
  have hdigits : Nat.ofDigitChars 10 (Nat.toDigits 10 n) 0 = n := Nat.ofDigitChars_toDigits (by decide) (by decide)
  rw [ofDigits, List.foldl_map]
  refine Eq.trans ?_ hdigits
  refine congrArg (fun f => List.foldl f 0 (Nat.toDigits 10 n)) (funext fun m => funext fun c => ?_)
  rw [Nat.mul_comm]
  rfl

/-- The decimal digits of a positive number begin with no zero. -/
theorem head?_toDigits {n : Nat} (h : 0 < n) : (Nat.toDigits 10 n).head? ≠ some '0' := by
  induction n using Nat.strong_induction_on with
  | _ n ih =>
    by_cases hone : n < 10
    · have hdigit : ∀ m < 10, 0 < m → [Nat.digitChar m].head? ≠ some '0' := by decide
      rw [Nat.toDigits_of_lt_base hone]
      exact hdigit n hone h
    · have hrest := ih (n / 10) (Nat.div_lt_self h (by decide)) (Nat.div_pos (Nat.not_lt.mp hone) (by decide))
      rw [Nat.toDigits_of_base_le (by decide) (Nat.not_lt.mp hone)]
      obtain ⟨c, cs, hcs⟩ := List.exists_cons_of_ne_nil (Nat.toDigits_ne_nil (n := n / 10) (b := 10))
      rw [hcs] at hrest ⊢
      exact hrest

/-! ## Numerals -/

/-- The sign of a whole number as its decimal text has it. -/
def minusOf (n : Int) : List Char :=
  if n < 0 then ['-'] else []

/-- The decimal text of a whole number is the digits of its size behind a minus sign where it is negative. -/
theorem toList_toString (n : Int) : (toString n).toList = minusOf n ++ Nat.toDigits 10 n.natAbs := by
  rw [Int.toString_eq_repr, Int.repr_eq_if, minusOf]
  by_cases h : 0 ≤ n
  · rw [if_pos h, if_neg (Int.not_lt.mpr h), Nat.toList_repr, List.nil_append]
    congr 1
    omega
  · rw [if_neg h, if_pos (Int.not_le.mp h), String.toList_append, Nat.toList_repr]
    congr 2
    omega

/-- A text is the decimal text of a whole number with blanks around it, and with a plus sign where the number is not negative. -/
inductive DecimalText (n : Int) : List Char → Prop
  | plain {before after : List Char} (hbefore : ∀ c ∈ before, isBlank c = true) (hafter : ∀ c ∈ after, isBlank c = true) :
      DecimalText n (before ++ ((toString n).toList ++ after))
  | plus {before after : List Char} (hn : 0 ≤ n) (hbefore : ∀ c ∈ before, isBlank c = true)
      (hafter : ∀ c ∈ after, isBlank c = true) : DecimalText n (before ++ ('+' :: ((toString n).toList ++ after)))

/-- How many digits the decimal text of a whole number has. -/
def digitCount (n : Int) : Nat :=
  (toString n.natAbs).length

/-- These are the digits of the size of the number. -/
theorem digitCount_eq (n : Int) : digitCount n = (Nat.toDigits 10 n.natAbs).length := by
  rw [digitCount, Nat.toString_eq_repr, ← String.length_toList, Nat.toList_repr]

/-- The digits of the size of a whole number denote it, behind its sign and with blanks around. -/
theorem numeral_of_sign {n : Int} {before sign after : List Char} {negative : Bool} (hsign : Sign sign negative)
    (hn : signed negative n.natAbs = n) (hbefore : ∀ c ∈ before, isBlank c = true) (hafter : ∀ c ∈ after, isBlank c = true) :
    Numeral (before ++ (sign ++ (Nat.toDigits 10 n.natAbs ++ after))) (digitCount n) n := by
  have hds := digits_of_isAsciiDigit Nat.toDigits_ne_nil fun c hc => isAsciiDigit_of_mem_toDigits (n := n.natAbs) hc
  have hnumeral := Numeral.mk hbefore hsign hds hafter
  rwa [← signed_ofDigits, ofDigits_toDigits, hn, List.length_map, ← digitCount_eq] at hnumeral

/-- The decimal text of a whole number denotes it. -/
theorem DecimalText.numeral {n : Int} {cs : List Char} (h : DecimalText n cs) : Numeral cs (digitCount n) n := by
  cases h with
  | plain hbefore hafter =>
    rw [toList_toString, List.append_assoc, minusOf]
    by_cases hn : n < 0
    · rw [if_pos hn]
      exact numeral_of_sign .minus (by simp only [signed, if_true]; omega) hbefore hafter
    · rw [if_neg hn]
      exact numeral_of_sign .missing (by simp [signed]; omega) hbefore hafter
  | plus hn hbefore hafter =>
    rw [toList_toString, minusOf, if_neg (Int.not_lt.mpr hn), List.nil_append]
    exact numeral_of_sign .plus (by simp [signed]; omega) hbefore hafter

/-- The decimal text of a whole number is read as the number, when the blanks around it are gone already, too. -/
theorem DecimalText.read_trim {n : Int} {cs : List Char} (h : DecimalText n cs) (hcount : digitCount n ≤ digitLimit) :
    read (trim isBlank cs) = .ok n :=
  read_eq_ok_iff.mpr ⟨_, hcount, h.numeral.trim⟩

end OAuthClient.Integer
