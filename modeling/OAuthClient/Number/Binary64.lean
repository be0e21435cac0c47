import OAuthClient.Text.Digit

/-!
# Double precision numbers

The numbers of the binary interchange format with 53 significant bits, as exact values: a finite one is a whole number times a
power of two. A quotient of whole numbers is rounded to the nearest of them, a tie to the even neighbour, and a number is
written with the fewest decimal digits that read back as the same number.
-/

namespace OAuthClient

/-- A double precision number. A finite one is `mantissa · 2 ^ exponent`, with the sign apart so that both zeros exist; the
mantissa is below `2 ^ 53`, and below `2 ^ 52` only at the least exponent. -/
inductive Binary64 where
  | nan
  | infinite (negative : Bool)
  | finite (negative : Bool) (mantissa : Nat) (exponent : Int)
  deriving DecidableEq, Repr

namespace Binary64

/-- The least exponent of a finite number. -/
def minExponent : Int := -1074

/-- The greatest exponent of a finite number. -/
def maxExponent : Int := 971

/-- A quotient multiplied by a power of a base, as numerator and denominator. -/
def scale (base num den : Nat) (k : Int) : Nat × Nat :=
  if 0 ≤ k then (num * base.pow k.toNat, den) else (num, den * base.pow (-k).toNat)

/-- The whole number nearest to a quotient, the even one of two. -/
def roundQuotient (num den : Nat) : Nat :=
  let q := num / den
  let twice := 2 * (num % den)
  if twice < den then q else if den < twice then q + 1 else if q % 2 = 0 then q else q + 1

/-- The exponent at which a positive quotient has 53 significant bits, but not below the least one. -/
def exponentFor (num den : Nat) : Int :=
  let guess : Int := (num.log2 : Int) - den.log2 - 52
  let (n, d) := scale 2 num den (-guess)
  max minExponent (if n < Nat.pow 2 52 * d then guess - 1 else guess)

/-- The double precision number nearest to a quotient of whole numbers, the even one of two. -/
def ofQuotient (negative : Bool) (num den : Nat) : Binary64 :=
  if num = 0 then .finite negative 0 minExponent
  else
    let e := exponentFor num den
    let (n, d) := scale 2 num den (-e)
    let m := roundQuotient n d
    let (m, e) := if m = Nat.pow 2 53 then (Nat.pow 2 52, e + 1) else (m, e)
    if maxExponent < e then .infinite negative else .finite negative m e

/-- The number nearest to `digits · 10 ^ exponent`. Exponents so far out that only the magnitude matters are not multiplied
out. -/
def ofDecimal (negative : Bool) (digits : Nat) (exponent : Int) : Binary64 :=
  let size : Int := exponent + (Text.digitsIn 10 digits).length
  if digits = 0 || size < -400 then .finite negative 0 minExponent
  else if 400 < size then .infinite negative
  else
    let (n, d) := scale 10 digits 1 exponent
    ofQuotient negative n d

/-- The number nearest to an integer. -/
def ofInt (n : Int) : Binary64 :=
  ofQuotient (n < 0) n.natAbs 1

/-- The absolute value of a finite number as a quotient. -/
def quotient (mantissa : Nat) (exponent : Int) : Nat × Nat :=
  scale 2 mantissa 1 exponent

/-- The integer that a number is, when it is finite and has no fraction. -/
def toInt? : Binary64 → Option Int
  | .finite negative m e =>
    let (n, d) := quotient m e
    if n % d = 0 then some (if negative then -((n / d : Nat) : Int) else (n / d : Nat)) else none
  | _ => none

/-- The integer next to a finite number on the side of zero. -/
def truncate? : Binary64 → Option Int
  | .finite negative m e =>
    let (n, d) := quotient m e
    some (if negative then -((n / d : Nat) : Int) else (n / d : Nat))
  | _ => none

/-- A finite number as a quotient, with its sign in the numerator. -/
def ratio? : Binary64 → Option (Int × Nat)
  | .finite negative m e =>
    let (n, d) := quotient m e
    some (if negative then -(n : Int) else n, d)
  | _ => none

/-- The number nearest to the thousandth of a number. -/
def thousandth : Binary64 → Binary64
  | .finite negative m e =>
    let (n, d) := quotient m e
    ofQuotient negative n (d * 1000)
  | x => x

/-- Whether a number is zero or below it. Nothing holds of a number that is no number. -/
def nonpositive : Binary64 → Bool
  | .nan => false
  | .infinite negative => negative
  | .finite negative m _ => negative || m = 0

/-- Whether a number is one of the two zeros. -/
def isZero : Binary64 → Bool
  | .finite _ m _ => m = 0
  | _ => false

/-! ## Decimal digits -/

/-- Digits with a decimal exponent: the value is `digits · 10 ^ exponent`. -/
structure Decimal where
  digits : Nat
  exponent : Int
  deriving DecidableEq, Repr

/-- The exponent of the leading decimal digit of a positive quotient: the greatest `p` with `10 ^ p` not above it. An estimate
from the binary size is at most two below. -/
def leadingExponent (num den : Nat) : Int :=
  let climb (p : Int) : Int :=
    let (n, d) := scale 10 num den (-(p + 1))
    if d ≤ n then p + 1 else p
  climb (climb (climb (((num.log2 : Int) - den.log2) * 30103 / 100000 - 2)))

/-- The neighbours of a positive quotient on the decimal grid with a given count of digits, the nearer first. -/
def neighbours (num den : Nat) (count : Nat) : List Decimal :=
  let k := leadingExponent num den - count + 1
  let (n, d) := scale 10 num den (-k)
  let near := roundQuotient n d
  let far := if near = n / d then near + 1 else n / d
  [⟨near, k⟩, ⟨far, k⟩]

/-- As many digits as are asked for that read back as a finite number other than zero, where there are such. -/
def shortestWith? (mantissa : Nat) (exponent : Int) (count : Nat) : Option Decimal :=
  let (num, den) := quotient mantissa exponent
  (neighbours num den count).find? fun d => ofDecimal false d.digits d.exponent = .finite false mantissa exponent

/-- The fewest digits that read back as a finite number other than zero, on the first grid that has such digits. Seventeen
digits always do. -/
def shortestFrom (mantissa : Nat) (exponent : Int) : Nat → Nat → Decimal
  | 0, _ => ⟨mantissa, exponent⟩
  | fuel + 1, count =>
    (shortestWith? mantissa exponent count).getD (shortestFrom mantissa exponent fuel (count + 1))

/-- The fewest digits that read back as a finite number other than zero. -/
def shortest (mantissa : Nat) (exponent : Int) : Decimal :=
  shortestFrom mantissa exponent 17 1

/-! ## Text -/

/-- A decimal exponent after its mark: a sign and at least two digits. -/
def exponentText (p : Int) : List Char :=
  let ds := Text.digitsIn 10 p.natAbs
  (if p < 0 then '-' else '+') :: (if ds.length < 2 then '0' :: ds else ds)

/-- Digits with the point after the first and a decimal exponent. The point is left out after a single digit. -/
def scientific (ds : List Char) (p : Int) : List Char :=
  match ds with
  | [] => []
  | d :: ds => d :: (if ds.isEmpty then [] else '.' :: ds) ++ 'e' :: exponentText p

/-- Digits with the point at a place counted from their left end, with zeros where places have no digit. -/
def positional (ds : List Char) (place : Int) : List Char :=
  if place ≤ 0 then '0' :: '.' :: (List.replicate (-place).toNat '0' ++ ds)
  else
    let whole := place.toNat
    if ds.length ≤ whole then ds ++ List.replicate (whole - ds.length) '0' ++ ['.', '0']
    else ds.take whole ++ '.' :: ds.drop whole

/-- The text of a number: the fewest digits that read back, positional for a leading exponent from -4 to 15 and scientific
otherwise, and always with a point or an exponent. -/
def text : Binary64 → String
  | .nan => "nan"
  | .infinite negative => if negative then "-inf" else "inf"
  | .finite negative m e =>
    let body :=
      if m = 0 then ['0', '.', '0']
      else
        let d := shortest m e
        let ds := Text.dropTrailingZeros (Text.digitsIn 10 d.digits)
        let place := d.exponent + (Text.digitsIn 10 d.digits).length
        if -4 < place && place ≤ 16 then positional ds place else scientific ds (place - 1)
    String.ofList (if negative then '-' :: body else body)

end Binary64

end OAuthClient
