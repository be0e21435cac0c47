import Mathlib.Algebra.Order.Field.Rat
import Mathlib.Algebra.Order.Field.Basic
import Mathlib.Tactic.NormNum
import OAuthClient.Number.Binary64

/-!
# The values of double precision numbers

A finite number has an exact value, a whole multiple of a power of two. It is taken for a whole number exactly when that is its value.
-/

namespace OAuthClient.Binary64

/-- The exact value of a finite number. -/
def value? : Binary64 → Option ℚ
  | .finite negative m e => some ((if negative then -1 else 1) * (m * 2 ^ e))
  | _ => none

end OAuthClient.Binary64
