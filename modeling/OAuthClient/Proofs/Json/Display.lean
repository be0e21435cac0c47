import Mathlib.Algebra.Group.Nat.Defs
import Mathlib.Data.List.TakeWhile
import OAuthClient.Json.Display

/-!
# Values that have a text

A value that counts as set has a text that is not empty. For a number this rests on its digits: a number that is not zero has a digit
that is not zero, so there are digits left when the zeros at the end are dropped.
-/

namespace OAuthClient

namespace Text

/-- The digit of a value from one to nine is not zero. -/
theorem digitChar_ne_zero {n : Nat} (h : n ≠ 0) (hn : n < 10) : digitChar n ≠ '0' := by
  have hdigits : ∀ n : Fin 10, n ≠ 0 → digitChar n ≠ '0' := by decide
  exact hdigits ⟨n, hn⟩ (fun he => h (congrArg Fin.val he))

/-- A number that is not zero has a digit that is not zero, its leading one. -/
theorem exists_mem_digitsWithin {fuel n : Nat} (h : n ≠ 0) (hn : n < 2 ^ fuel) (tail : List Char) :
    ∃ c ∈ digitsWithin fuel 10 n tail, c ≠ '0' := by
  induction fuel generalizing n tail with
  | zero => omega
  | succ fuel ih =>
    rw [digitsWithin]
    split
    · next hlt => exact ⟨digitChar n, List.mem_cons_self, digitChar_ne_zero h hlt⟩
    · next hge =>
      rw [Nat.pow_succ] at hn
      exact ih (by omega) (by omega) _

/-- Something is left of the digits of a number that is not zero when the zeros at the end are dropped. -/
theorem dropTrailingZeros_digitsIn_ne_nil {n : Nat} (h : n ≠ 0) : dropTrailingZeros (digitsIn 10 n) ≠ [] := by
  obtain ⟨c, hc, hne⟩ := exists_mem_digitsWithin h Nat.lt_log2_self []
  intro hnil
  rw [dropTrailingZeros, List.reverse_eq_nil_iff, List.dropWhile_eq_nil_iff] at hnil
  exact hne (eq_of_beq (hnil c (List.mem_reverse.mpr hc)))

end Text

namespace Binary64

/-- A zero reads back as zero, whatever its exponent. -/
theorem ofDecimal_zero (e : Int) : ofDecimal false 0 e = .finite false 0 minExponent := by
  rw [ofDecimal]
  rfl

/-- The digits that read back as a number other than zero are not zero. -/
theorem digits_ne_zero {digits mantissa : Nat} {exponent e : Int} (hm : mantissa ≠ 0)
    (h : ofDecimal false digits e = .finite false mantissa exponent) : digits ≠ 0 := by
  rintro rfl
  rw [ofDecimal_zero, finite.injEq] at h
  exact hm h.2.1.symm

/-- Digits that were found for a number are read back as the number. -/
theorem ofDecimal_of_shortestWith? {mantissa count : Nat} {exponent : Int} {d : Decimal}
    (h : shortestWith? mantissa exponent count = some d) :
    ofDecimal false d.digits d.exponent = .finite false mantissa exponent := by
  rw [shortestWith?] at h
  exact of_decide_eq_true (List.find?_some h :)

/-- The fewest digits of a number other than zero are not zero. -/
theorem digits_shortestFrom_ne_zero {mantissa : Nat} (hm : mantissa ≠ 0) (exponent : Int) (fuel count : Nat) :
    (shortestFrom mantissa exponent fuel count).digits ≠ 0 := by
  induction fuel generalizing count with
  | zero => exact hm
  | succ fuel ih =>
    rw [shortestFrom]
    cases hd : shortestWith? mantissa exponent count with
    | some d => exact digits_ne_zero hm (ofDecimal_of_shortestWith? hd)
    | none => exact ih (count + 1)

/-- Digits written with an exponent are not empty. -/
theorem scientific_ne_nil {ds : List Char} (h : ds ≠ []) (p : Int) : scientific ds p ≠ [] := by
  cases ds with
  | nil => exact absurd rfl h
  | cons d ds => exact List.cons_ne_nil _ _

/-- Digits written with a point are not empty. -/
theorem positional_ne_nil (ds : List Char) (place : Int) : positional ds place ≠ [] := by
  rw [positional]
  split
  · exact List.cons_ne_nil _ _
  · dsimp only
    split <;> simp

/-- The text of a number is not empty. -/
theorem text_ne_empty (x : Binary64) : x.text ≠ "" := by
  cases x with
  | nan => decide
  | infinite negative => cases negative <;> decide
  | finite negative m e =>
    rw [text]
    dsimp only
    intro hempty
    have hnil := congrArg String.toList hempty
    rw [String.toList_ofList] at hnil
    have hbody : ∀ body : List Char, body ≠ [] → (if negative then '-' :: body else body) ≠ [] := by
      intro body hbody
      split
      · exact List.cons_ne_nil _ _
      · exact hbody
    refine hbody _ ?_ hnil
    split
    · exact List.cons_ne_nil _ _
    · next hm =>
      split
      · exact positional_ne_nil _ _
      · exact scientific_ne_nil (Text.dropTrailingZeros_digitsIn_ne_nil (digits_shortestFrom_ne_zero hm e 17 1)) _

end Binary64

namespace Json

/-- The text of a whole number is not empty. -/
theorem toString_int_ne_empty (n : Int) : toString n ≠ "" := by
  cases n with
  | ofNat n => exact Nat.repr_ne_empty
  | negSucc n => exact fun h => absurd (congrArg String.length h) (by simp [toString, Int.repr])

/-- A value that counts as set has a text that is not empty. -/
theorem display_ne_empty {v : Json} (h : v.truthy = true) : v.display ≠ "" := by
  cases v with
  | null => cases h
  | bool b => cases b <;> decide
  | int n => exact toString_int_ne_empty n
  | float x => exact x.text_ne_empty
  | str s => exact of_decide_eq_true h
  | illFormed codes =>
    intro hempty
    have hnil : codes = [] := by simpa [display, textOf] using congrArg String.toList hempty
    subst hnil
    cases h
  | arr items => exact fun h => absurd (congrArg String.length h) (by simp [display, inspect])
  | obj members => exact fun h => absurd (congrArg String.length h) (by simp [display, inspect])
  | illNamed members => exact fun h => absurd (congrArg String.length h) (by simp [display, inspect])

end Json

end OAuthClient
