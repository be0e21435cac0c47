import OAuthClient.Clock
import OAuthClient.Number.Binary64

/-!
# Log lines

How a record stands in a log: the date and time of day to the millisecond, the logger, the level and the message.
-/

namespace OAuthClient.Log

/-- The seconds from the start of 1970 to an instant, as a double precision number. -/
def seconds (now : Instant) : Binary64 :=
  .ofQuotient (now < 0) now.natAbs 1000000

/-- The whole milliseconds of the last second, on the side of zero. They are counted from the seconds as a double precision
number, so they can be one less than the exact instant has. -/
def milliseconds (now : Instant) : Nat :=
  match seconds now with
  | .finite _ m e =>
    let (n, d) := Binary64.quotient m e
    (((Binary64.ofQuotient false (n % d * 1000) d).truncate?).getD 0).toNat
  | _ => 0

/-- The last whole second at an instant, as an instant. -/
def wholeSecond (now : Instant) : Instant :=
  match seconds now with
  | .finite negative m e =>
    let (n, d) := Binary64.quotient m e
    (if negative then -((n : Int) + d - 1).fdiv d else (n : Int).fdiv d) * Clock.perSecond
  | _ => 0

/-- The date and time of day of an instant, to the millisecond. -/
def stamp (now : Instant) : String :=
  let ms := milliseconds now
  let padded (width : Nat) := String.ofList (Text.paddedDigits 10 (max width (Text.digitsIn 10 ms).length) ms)
  let digits := if now < 0 && ms ≠ 0 then "-" ++ padded 2 else padded 3
  Clock.dateText (wholeSecond now) ++ "," ++ digits

/-- The line of a record. -/
def line (now : Instant) (logger level text : String) : String :=
  stamp now ++ " - " ++ logger ++ " - " ++ level ++ " - " ++ text ++ "\n"

end OAuthClient.Log
