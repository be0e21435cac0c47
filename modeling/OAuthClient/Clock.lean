import OAuthClient.Text.Digit

/-!
# Time

Instants are counted in microseconds from the start of 1970 in universal time, and so are the lengths of time between them. The
calendar knows the years 1 to 9999, so not every count is an instant.
-/

namespace OAuthClient

/-- A count of microseconds from the start of 1970. -/
abbrev Instant : Type := Int

/-- A length of time in microseconds. -/
abbrev Duration : Type := Int

namespace Clock

/-- The first instant of the calendar: the start of year 1. -/
def first : Instant := -62135596800000000

/-- The last instant of the calendar: the last microsecond of year 9999. -/
def last : Instant := 253402300799999999

/-- The microseconds in a second. -/
def perSecond : Int := 1000000

/-- The instant so many seconds after another one, and `none` when the calendar does not reach it. -/
def after? (t : Instant) (seconds : Int) : Option Instant :=
  let u := t + seconds * perSecond
  if first ≤ u ∧ u ≤ last then some u else none

/-- A day of the calendar with a time of day. -/
structure Calendar where
  year : Int
  month : Nat
  day : Nat
  hour : Nat
  minute : Nat
  second : Nat
  microsecond : Nat
  deriving DecidableEq, Repr

/-- The calendar date and time of day of an instant. Days are counted from the first of March of year zero in eras of 400 years,
so that the leap day is the last day of its year. -/
def calendar (t : Instant) : Calendar :=
  let days := t.fdiv (86400 * perSecond)
  let rest := (t.fmod (86400 * perSecond)).toNat
  let shifted := days + 719468
  let era := shifted.fdiv 146097
  let dayOfEra := (shifted.fmod 146097).toNat
  let yearOfEra := (dayOfEra - dayOfEra / 1460 + dayOfEra / 36524 - dayOfEra / 146096) / 365
  let dayOfYear := dayOfEra - (365 * yearOfEra + yearOfEra / 4 - yearOfEra / 100)
  let monthIndex := (5 * dayOfYear + 2) / 153
  let day := dayOfYear - (153 * monthIndex + 2) / 5 + 1
  let month := if monthIndex < 10 then monthIndex + 3 else monthIndex - 9
  let year := era * 400 + yearOfEra + (if month ≤ 2 then 1 else 0)
  { year, month, day
    hour := rest / 3600000000
    minute := rest / 60000000 % 60
    second := rest / 1000000 % 60
    microsecond := rest % 1000000 }

/-- A number with at least two digits. -/
def twoDigits (n : Nat) : String :=
  String.ofList (Text.paddedDigits 10 2 n)

/-- The date and time of day of an instant, to the second. -/
def dateText (t : Instant) : String :=
  let c := calendar t
  toString c.year ++ "-" ++ twoDigits c.month ++ "-" ++ twoDigits c.day ++ " " ++
    twoDigits c.hour ++ ":" ++ twoDigits c.minute ++ ":" ++ twoDigits c.second

end Clock

end OAuthClient
