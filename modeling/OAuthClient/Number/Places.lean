import OAuthClient.Number.Binary64

/-!
# Double precision numbers with a given count of places

The text of a number with as many digits behind the point as asked for, in positional or scientific form, or with as many
significant digits in the form that suits its size. The exact value is rounded to the nearest such text, a tie to the even digit.
-/

namespace OAuthClient.Binary64

open OAuthClient.Text

/-- The digits of a number with a point before the last places. The point is left out when there are none behind it, unless it
is asked for. -/
def withPoint (digits : Nat) (places : Nat) (point : Bool) : List Char :=
  let ds := digitsIn 10 digits
  let ds := List.replicate (places + 1 - ds.length) '0' ++ ds
  let whole := ds.length - places
  ds.take whole ++ (if places = 0 && !point then [] else '.' :: ds.drop whole)

/-- A quotient in positional form. -/
def fixedText (num den places : Nat) (point : Bool) : List Char :=
  withPoint (roundQuotient (num * Nat.pow 10 places) den) places point

/-- The digits of a quotient with one place before the point and a count of places behind it, and the decimal exponent. -/
def scientificDigits (num den places : Nat) : Nat × Int :=
  if num = 0 then (0, 0)
  else
    let p := leadingExponent num den
    let (n, d) := scale 10 num den (places - p)
    let digits := roundQuotient n d
    if digits = Nat.pow 10 (places + 1) then (Nat.pow 10 places, p + 1) else (digits, p)

/-- A quotient in scientific form. -/
def scientificText (num den places : Nat) (point : Bool) : List Char :=
  let (digits, p) := scientificDigits num den places
  withPoint digits places point ++ 'e' :: exponentText p

/-- A text in positional form without the zeros at the end of its fraction, and without a point that nothing follows. -/
def dropFractionZeros (cs : List Char) : List Char :=
  if cs.contains '.' then
    let cs := dropTrailingZeros cs
    if cs.getLast? = some '.' then cs.dropLast else cs
  else cs

/-- A quotient with a count of significant digits: scientific when the exponent is below -4 or the digits do not reach the point,
positional otherwise. Zeros at the end of the fraction are kept only when they are asked for. -/
def generalText (num den significant : Nat) (zeros : Bool) : List Char :=
  let count := max significant 1
  let (digits, p) := scientificDigits num den (count - 1)
  let trim (cs : List Char) := if zeros then cs else dropFractionZeros cs
  if p < -4 || count ≤ p then trim (withPoint digits (count - 1) zeros) ++ 'e' :: exponentText p
  else trim (fixedText num den (count - 1 - p).toNat zeros)

/-- A form of a number with a given count of places. -/
inductive Form where
  | fixed
  | scientific
  | general
  deriving DecidableEq, Repr

/-- The text of a number in a form, with a minus sign where it is negative. -/
def placesText (form : Form) (places : Nat) (full : Bool) : Binary64 → List Char
  | .nan => "nan".toList
  | .infinite negative => if negative then "-inf".toList else "inf".toList
  | .finite negative m e =>
    let (n, d) := quotient m e
    let body := match form with
      | .fixed => fixedText n d places full
      | .scientific => scientificText n d places full
      | .general => generalText n d places full
    if negative then '-' :: body else body

end OAuthClient.Binary64
