import Mathlib.Data.List.TakeWhile
import Mathlib.Data.Nat.Digits.Defs
import OAuthClient.Number.Integer
import OAuthClient.Proofs.Text.Split

/-!
# Numerals

What a text has to be to denote a whole number, said without the reader: blanks around a sign, which may be missing, and digits of any
script with single underscores between them, of which the number is the one to base ten. The reader gives a number exactly for such
texts with no more digits than the limit, and it gives that number.
-/

namespace OAuthClient

namespace Text

/-! ## Blanks -/

/-- The code points of the blank characters. -/
def blankCodes : List Nat :=
  blankRanges.flatMap fun r => List.range' r.1 (r.2 - r.1 + 1)

/-- The code point of a blank character is one of them. -/
theorem toNat_mem_blankCodes {c : Char} (h : isBlank c = true) : c.toNat ∈ blankCodes := by
  obtain ⟨r, hr, hbetween⟩ := List.any_eq_true.mp h
  rw [Bool.and_eq_true, decide_eq_true_eq, decide_eq_true_eq] at hbetween
  refine List.mem_flatMap.mpr ⟨r, hr, List.mem_range'_1.mpr ⟨hbetween.1, ?_⟩⟩
  omega

/-- A blank is no digit, no underscore and no sign. -/
theorem not_isBlank {c : Char} (h : (digitValue? c).isSome = true ∨ c = '_' ∨ c = '+' ∨ c = '-') : isBlank c = false := by
  have hcodes : ∀ n ∈ blankCodes, ¬ ((digitValue? (Char.ofNat n)).isSome = true ∨ Char.ofNat n = '_' ∨ Char.ofNat n = '+' ∨
      Char.ofNat n = '-') := by decide +kernel
  rw [Bool.eq_false_iff]
  intro hblank
  refine hcodes c.toNat (toNat_mem_blankCodes hblank) ?_
  rw [Char.ofNat_toNat]
  exact h

/-- An underscore and the signs are no digits. -/
theorem digitValue?_mark : digitValue? '_' = none ∧ digitValue? '+' = none ∧ digitValue? '-' = none := by decide

end Text

namespace Integer

open OAuthClient.Text

/-! ## Digits -/

/-- Digits, with single underscores between them, and the values that they have. -/
inductive Digits : List Char → List Nat → Prop
  | one {c : Char} {v : Nat} (h : digitValue? c = some v) : Digits [c] [v]
  | next {c : Char} {v : Nat} {cs : List Char} {vs : List Nat} (h : digitValue? c = some v) (hrest : Digits cs vs) :
      Digits (c :: cs) (v :: vs)
  | underscore {c : Char} {v : Nat} {cs : List Char} {vs : List Nat} (h : digitValue? c = some v) (hrest : Digits cs vs) :
      Digits (c :: '_' :: cs) (v :: vs)

/-- No digits go on in a text: it begins neither with a digit nor with an underscore. -/
def Stops (cs : List Char) : Prop :=
  ∀ c ∈ cs.head?, digitValue? c = none ∧ c ≠ '_'

/-- Digits begin with a digit. -/
theorem Digits.exists_head {cs : List Char} {vs : List Nat} (h : Digits cs vs) :
    ∃ c v rest vrest, cs = c :: rest ∧ vs = v :: vrest ∧ digitValue? c = some v := by
  cases h with
  | one h => exact ⟨_, _, _, _, rfl, rfl, h⟩
  | next h _ => exact ⟨_, _, _, _, rfl, rfl, h⟩
  | underscore h _ => exact ⟨_, _, _, _, rfl, rfl, h⟩

/-- A character that is no underscore is a digit or ends what is read. -/
theorem readDigits_of_ne {c : Char} (hc : c ≠ '_') (afterDigit : Bool) (cs : List Char) :
    readDigits afterDigit (c :: cs) = match digitValue? c with
      | some v => (readDigits true cs).map fun (vs, rest) => (v :: vs, rest)
      | none => some ([], c :: cs) := by
  rw [readDigits.eq_def]
  exact if_neg (by simpa using hc)

/-- An underscore may only stand between two digits. -/
theorem readDigits_underscore (afterDigit : Bool) (cs : List Char) :
    readDigits afterDigit ('_' :: cs) =
      if afterDigit && cs.head?.any fun c => (digitValue? c).isSome then readDigits false cs else none := by
  cases afterDigit <;> cases cs <;> rfl

/-- A digit is read, and then what follows it. -/
theorem readDigits_digit {c : Char} {v : Nat} (h : digitValue? c = some v) (afterDigit : Bool) (cs : List Char) :
    readDigits afterDigit (c :: cs) = (readDigits true cs).map fun (vs, rest) => (v :: vs, rest) := by
  have hc : c ≠ '_' := by
    rintro rfl
    rw [digitValue?_mark.1] at h
    cases h
  rw [readDigits_of_ne hc, h]

/-- Where no digits go on none are read. -/
theorem readDigits_stops {cs : List Char} (h : Stops cs) (afterDigit : Bool) : readDigits afterDigit cs = some ([], cs) := by
  cases cs with
  | nil => rfl
  | cons c cs =>
    obtain ⟨hdigit, hc⟩ := h c rfl
    rw [readDigits_of_ne hc, hdigit]

/-- Digits are read up to where no digits go on. -/
theorem readDigits_of_digits {ds rest : List Char} {vs : List Nat} (h : Digits ds vs) (hrest : Stops rest) (afterDigit : Bool) :
    readDigits afterDigit (ds ++ rest) = some (vs, rest) := by
  induction h generalizing afterDigit with
  | one h => rw [List.singleton_append, readDigits_digit h, readDigits_stops hrest]; rfl
  | next h _ ih => rw [List.cons_append, readDigits_digit h, ih]; rfl
  | underscore h hds ih =>
    have hread := ih false
    obtain ⟨d, w, more, _, rfl, rfl, hd⟩ := hds.exists_head
    have hbetween : (true && (d :: more ++ rest).head?.any fun c => (digitValue? c).isSome) = true := by
      rw [List.cons_append, List.head?_cons, Option.any_some, hd]
      rfl
    rw [List.cons_append, List.cons_append, readDigits_digit h, readDigits_underscore, if_pos hbetween, hread]
    rfl

/-- What is read are digits, behind an underscore where one may stand, up to where no digits go on. -/
theorem digits_of_readDigits {cs rest : List Char} {vs : List Nat} {afterDigit : Bool}
    (h : readDigits afterDigit cs = some (vs, rest)) :
    Stops rest ∧ (vs = [] ∧ cs = rest ∨
      ∃ ds, Digits ds vs ∧ (cs = ds ++ rest ∨ afterDigit = true ∧ cs = '_' :: (ds ++ rest))) := by
  induction cs generalizing afterDigit vs with
  | nil =>
    cases h
    exact ⟨nofun, Or.inl ⟨rfl, rfl⟩⟩
  | cons c cs ih =>
    by_cases hc : c = '_'
    · subst hc
      rw [readDigits_underscore] at h
      split at h
      · next hbetween =>
        rw [Bool.and_eq_true] at hbetween
        obtain ⟨hstops, hread⟩ := ih h
        refine ⟨hstops, Or.inr ?_⟩
        rcases hread with ⟨rfl, rfl⟩ | ⟨ds, hds, rfl | ⟨hfalse, -⟩⟩
        · -- a digit stands behind the underscore, so digits go on there
          cases cs with
          | nil => cases hbetween.2
          | cons d cs =>
            have hd := hbetween.2
            rw [List.head?_cons, Option.any_some, (hstops d rfl).1] at hd
            cases hd
        · exact ⟨ds, hds, Or.inr ⟨hbetween.1, rfl⟩⟩
        · cases hfalse
      · cases h
    · cases hdigit : digitValue? c with
      | none =>
        have hstops : Stops (c :: cs) := by
          intro d hd
          obtain rfl : c = d := Option.some.inj hd
          exact ⟨hdigit, hc⟩
        rw [readDigits_stops hstops] at h
        cases h
        exact ⟨hstops, Or.inl ⟨rfl, rfl⟩⟩
      | some v =>
        rw [readDigits_digit hdigit] at h
        obtain ⟨⟨ws, tail⟩, hrest, heq⟩ := Option.map_eq_some_iff.mp h
        cases heq
        obtain ⟨hstops, hread⟩ := ih hrest
        refine ⟨hstops, Or.inr ?_⟩
        rcases hread with ⟨rfl, rfl⟩ | ⟨ds, hds, rfl | ⟨-, rfl⟩⟩
        · exact ⟨[c], .one hdigit, Or.inl rfl⟩
        · exact ⟨c :: ds, .next hdigit hds, Or.inl rfl⟩
        · exact ⟨c :: '_' :: ds, .underscore hdigit hds, Or.inl rfl⟩

/-! ## Numerals -/

/-- A sign, which may be missing, and whether it is a minus. -/
inductive Sign : List Char → Bool → Prop
  | missing : Sign [] false
  | plus : Sign ['+'] false
  | minus : Sign ['-'] true

/-- The whole number of a sign and digits. -/
def valueOf (negative : Bool) (vs : List Nat) : Int :=
  let n : Nat := Nat.ofDigits 10 vs.reverse
  if negative then -(n : Int) else n

/-- A text with some count of digits denotes a whole number: blanks around a sign and digits. -/
inductive Numeral : List Char → Nat → Int → Prop
  | mk {before sign ds after : List Char} {negative : Bool} {vs : List Nat} (hbefore : ∀ c ∈ before, isBlank c = true)
      (hsign : Sign sign negative) (hds : Digits ds vs) (hafter : ∀ c ∈ after, isBlank c = true) :
      Numeral (before ++ (sign ++ (ds ++ after))) vs.length (valueOf negative vs)

/-- The number that is read from digits with a sign is the one that they denote. -/
theorem signed_ofDigits (negative : Bool) (vs : List Nat) : signed negative (ofDigits vs) = valueOf negative vs := by
  have hvalue : ofDigits vs = Nat.ofDigits 10 vs.reverse := by
    rw [ofDigits, List.foldl_eq_foldr_reverse, Nat.ofDigits_eq_foldr]
    refine congrArg (fun f => List.foldr f 0 vs.reverse) (funext fun v => funext fun n => ?_)
    rw [Nat.add_comm, Nat.mul_comm]
    rfl
  rw [signed, hvalue]
  rfl

/-- A sign in front of digits is split off. -/
theorem splitSign_of_sign {sign ds : List Char} {negative : Bool} {vs : List Nat} (hsign : Sign sign negative) (hds : Digits ds vs)
    (after : List Char) : splitSign (sign ++ (ds ++ after)) = (negative, ds ++ after) := by
  cases hsign with
  | plus => rfl
  | minus => rfl
  | missing =>
    obtain ⟨c, v, rest, -, rfl, -, hc⟩ := hds.exists_head
    unfold splitSign
    split
    · next heq =>
      cases heq
      rw [digitValue?_mark.2.1] at hc
      cases hc
    · next heq =>
      cases heq
      rw [digitValue?_mark.2.2] at hc
      cases hc
    · rfl

/-- What is split off a text is a sign in front of the rest. -/
theorem exists_sign (cs : List Char) : ∃ sign, Sign sign (splitSign cs).1 ∧ cs = sign ++ (splitSign cs).2 := by
  unfold splitSign
  split
  · exact ⟨['+'], .plus, rfl⟩
  · exact ⟨['-'], .minus, rfl⟩
  · exact ⟨[], .missing, rfl⟩

/-- A sign with digits behind it begins with no blank. -/
theorem exists_head_of_sign {sign ds : List Char} {negative : Bool} {vs : List Nat} (hsign : Sign sign negative) (hds : Digits ds vs)
    (after : List Char) : ∃ c rest, sign ++ (ds ++ after) = c :: rest ∧ isBlank c = false := by
  cases hsign with
  | plus => exact ⟨'+', _, rfl, not_isBlank (by simp)⟩
  | minus => exact ⟨'-', _, rfl, not_isBlank (by simp)⟩
  | missing =>
    obtain ⟨c, v, rest, -, rfl, -, hc⟩ := hds.exists_head
    exact ⟨c, rest ++ after, rfl, not_isBlank (by simp [hc])⟩

/-- Where blanks follow no digits go on. -/
theorem stops_of_blanks {cs : List Char} (h : ∀ c ∈ cs, isBlank c = true) : Stops cs := by
  intro c hc
  have hblank := h c (List.mem_of_mem_head? hc)
  constructor
  · by_contra hdigit
    rw [not_isBlank (Or.inl (Option.isSome_iff_ne_none.mpr hdigit))] at hblank
    cases hblank
  · rintro rfl
    rw [not_isBlank (by simp)] at hblank
    cases hblank

/-- A numeral is taken apart into its sign and its digits, behind which blanks follow. -/
theorem Numeral.parts {cs : List Char} {count : Nat} {n : Int} (h : Numeral cs count n) :
    ∃ negative body vs rest, splitSign (cs.dropWhile isBlank) = (negative, body) ∧ readDigits false body = some (vs, rest) ∧
      vs ≠ [] ∧ rest.all isBlank = true ∧ vs.length = count ∧ n = valueOf negative vs := by
  cases h with
  | @mk before sign ds after negative vs hbefore hsign hds hafter =>
    have hdrop : (before ++ (sign ++ (ds ++ after))).dropWhile isBlank = sign ++ (ds ++ after) := by
      obtain ⟨c, rest, heq, hc⟩ := exists_head_of_sign hsign hds after
      rw [List.dropWhile_append_of_pos hbefore, heq, List.dropWhile_cons_of_neg (by simp [hc])]
    refine ⟨negative, ds ++ after, vs, after, ?_, readDigits_of_digits hds (stops_of_blanks hafter) false, ?_,
      List.all_eq_true.mpr hafter, rfl, rfl⟩
    · rw [hdrop, splitSign_of_sign hsign hds]
    · obtain ⟨_, v, _, vs, -, rfl, -⟩ := hds.exists_head
      exact List.cons_ne_nil v vs

/-- A text denotes at most one whole number. -/
theorem Numeral.unique {cs : List Char} {count count' : Nat} {n n' : Int} (h : Numeral cs count n) (h' : Numeral cs count' n') :
    n = n' := by
  obtain ⟨negative, body, vs, rest, hsplit, hread, -, -, -, rfl⟩ := h.parts
  obtain ⟨negative', body', vs', rest', hsplit', hread', -, -, -, rfl⟩ := h'.parts
  cases hsplit.symm.trans hsplit'
  cases hread.symm.trans hread'
  rfl

/-- A numeral is read, unless it has too many digits. -/
theorem read_of_numeral {cs : List Char} {count : Nat} {n : Int} (h : Numeral cs count n) :
    read cs = if digitLimit < count then .error (.tooLong count) else .ok n := by
  obtain ⟨negative, body, vs, rest, hsplit, hread, hne, hrest, rfl, rfl⟩ := h.parts
  obtain ⟨v, vs, rfl⟩ := List.exists_cons_of_ne_nil hne
  rw [read, hsplit]
  dsimp only
  rw [hread]
  dsimp only
  rw [hrest, signed_ofDigits]
  rfl

/-- What is read is a numeral with no more digits than the limit. -/
theorem numeral_of_read {cs : List Char} {n : Int} (h : read cs = .ok n) : ∃ count ≤ digitLimit, Numeral cs count n := by
  obtain ⟨sign, hsign, hbody⟩ := exists_sign (cs.dropWhile isBlank)
  unfold read at h
  generalize splitSign (cs.dropWhile isBlank) = split at h hsign hbody
  obtain ⟨negative, body⟩ := split
  dsimp only at h hsign hbody
  split at h
  · cases h
  · cases h
  · next vs rest hne hread =>
    split at h
    · cases h
    · next hcount =>
      split at h
      · next hblank =>
        obtain ⟨-, ⟨rfl, -⟩ | ⟨ds, hds, rfl | ⟨hfalse, -⟩⟩⟩ := digits_of_readDigits hread
        · exact (hne rfl).elim
        · have htext : cs = cs.takeWhile isBlank ++ (sign ++ (ds ++ rest)) := by
            rw [← hbody, List.takeWhile_append_dropWhile]
          refine ⟨vs.length, Nat.not_lt.mp hcount, ?_⟩
          rw [signed_ofDigits] at h
          rw [htext, ← Except.ok.inj h]
          exact .mk (fun c hc => List.mem_takeWhile_imp hc) hsign hds (List.all_eq_true.mp hblank)
        · cases hfalse
      · cases h

/-- Whole numbers are read from numerals with no more digits than the limit, and from nothing else. -/
theorem read_eq_ok_iff {cs : List Char} {n : Int} : read cs = .ok n ↔ ∃ count ≤ digitLimit, Numeral cs count n := by
  constructor
  · exact numeral_of_read
  · rintro ⟨count, hcount, h⟩
    rw [read_of_numeral h, if_neg (Nat.not_lt.mpr hcount)]

/-- Digits end with a digit. -/
theorem Digits.exists_last {cs : List Char} {vs : List Nat} (h : Digits cs vs) :
    ∃ c v, cs.getLast? = some c ∧ digitValue? c = some v := by
  induction h with
  | one h => exact ⟨_, _, rfl, h⟩
  | next _ hrest ih =>
    obtain ⟨c, v, hlast, hc⟩ := ih
    exact ⟨c, v, by rw [List.getLast?_cons, hlast]; rfl, hc⟩
  | underscore _ hrest ih =>
    obtain ⟨c, v, hlast, hc⟩ := ih
    exact ⟨c, v, by rw [List.getLast?_cons, List.getLast?_cons, hlast]; rfl, hc⟩

/-- A numeral without the blanks at its ends is one. -/
theorem Numeral.trim {cs : List Char} {count : Nat} {n : Int} (h : Numeral cs count n) : Numeral (trim isBlank cs) count n := by
  cases h with
  | @mk before sign ds after negative vs hbefore hsign hds hafter =>
    have hcore : Numeral (sign ++ ds) vs.length (valueOf negative vs) := by
      have hbare : Numeral ([] ++ (sign ++ (ds ++ []))) vs.length (valueOf negative vs) := .mk nofun hsign hds nofun
      rwa [List.append_nil, List.nil_append] at hbare
    have hne : sign ++ ds ≠ [] := by
      obtain ⟨c, v, hlast, -⟩ := hds.exists_last
      rintro hnil
      rw [(List.append_eq_nil_iff.mp hnil).2] at hlast
      cases hlast
    have hfirst : (sign ++ ds).dropWhile isBlank = sign ++ ds := by
      obtain ⟨c, rest, heq, hc⟩ := exists_head_of_sign hsign hds []
      rw [List.append_nil] at heq
      rw [heq, List.dropWhile_cons_of_neg (by simp [hc])]
    have hlast : (sign ++ ds).reverse.dropWhile isBlank = (sign ++ ds).reverse := by
      obtain ⟨c, v, hlast, hc⟩ := hds.exists_last
      obtain ⟨init, rfl⟩ := List.getLast?_eq_some_iff.mp hlast
      have hblank : isBlank c = false := not_isBlank (by simp [hc])
      simp [List.dropWhile_cons_of_neg, hblank]
    have htext : before ++ (sign ++ (ds ++ after)) = before ++ (sign ++ ds) ++ after := by simp
    rw [htext, trim_append hbefore hafter hfirst hlast hne]
    exact hcore

end Integer

end OAuthClient
