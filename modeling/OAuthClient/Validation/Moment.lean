import OAuthClient.Text.Utf8
import OAuthClient.Validation.Lax

/-!
# Dates with times

Which values pass for a date with a time of day: a text with a date and a time in the usual notation, a date alone, or a count of
seconds from the start of 1970, or of milliseconds when it is large. Only whether a value passes counts here, and what is wrong
with it.
-/

namespace OAuthClient.Validation

open OAuthClient.Text

/-- Two digits at the start of a text, as a number, with the rest. -/
def twoDigits? : List Char → Option (Nat × List Char)
  | a :: b :: cs => if isAsciiDigit a && isAsciiDigit b then some ((a.toNat - 0x30) * 10 + (b.toNat - 0x30), cs) else none
  | _ => none

/-- The count of days in a month. -/
def daysInMonth (year month : Nat) : Nat :=
  if month = 2 then if year % 4 = 0 && (year % 100 ≠ 0 || year % 400 = 0) then 29 else 28
  else if month = 4 || month = 6 || month = 9 || month = 11 then 30
  else 31

/-- The year of a date at the start of a text and what follows the date, or the reason why there is none. -/
def datePart (cs : List Char) : Except String (Nat × List Char) :=
  if (Utf8.encode cs).length < 10 then .error "input is too short"
  else
    match twoDigits? cs with
    | none => .error "invalid character in year"
    | some (century, rest) =>
      match twoDigits? rest with
      | none => .error "invalid character in year"
      | some (years, '-' :: rest) =>
        match twoDigits? rest with
        | none => .error "invalid character in month"
        | some (month, '-' :: rest) =>
          match twoDigits? rest with
          | none => .error "invalid character in day"
          | some (day, rest) =>
            if month < 1 || 12 < month then .error "month value is outside expected range of 1-12"
            else if day < 1 || daysInMonth (century * 100 + years) month < day then
              .error "day value is outside expected range"
            else .ok (century * 100 + years, rest)
        | some _ => .error "invalid date separator, expected `-`"
      | some _ => .error "invalid date separator, expected `-`"

/-- Whether a text is the distance from universal time: a letter, or a sign with hours and minutes of less than a day. -/
def isZone : List Char → Bool
  | [] => true
  | ['Z'] => true
  | ['z'] => true
  | c :: cs =>
    if c == '+' || c == '-' || c == '−' then
      match twoDigits? cs with
      | none => false
      | some (hours, rest) =>
        let rest := match rest with
          | ':' :: tail => tail
          | tail => tail
        match twoDigits? rest with
        | some (minutes, []) => minutes < 60 && hours < 24
        | _ => false
    else false

/-- Whether a text is a time of day to the minute, second or a fraction of it, with or without a zone. -/
def isTime (cs : List Char) : Bool :=
  match twoDigits? cs with
  | some (hour, ':' :: rest) =>
    match twoDigits? rest with
    | some (minute, rest) =>
      hour < 24 && minute < 60 &&
        match rest with
        | ':' :: rest =>
          match twoDigits? rest with
          | some (second, mark :: rest) =>
            second < 60 &&
              if mark == '.' || mark == ',' then
                !(rest.takeWhile isAsciiDigit).isEmpty && isZone (rest.dropWhile isAsciiDigit)
              else isZone (mark :: rest)
          | some (second, []) => second < 60
          | none => false
        | rest => isZone rest
    | none => false
  | _ => false

/-! ## Counts -/

/-- The largest count that is one of seconds. Larger ones are counts of milliseconds. -/
def secondsLimit : Nat := 20000000000

/-- What is wrong with a time in the year 0. -/
def Problem.yearZero : Problem :=
  .momentRange "year 0 is out of range"

/-- Checks that seconds from the start of 1970 end inside the calendar. The words for a time outside the years 0 to 9999 become a
problem of the kind that is asked for. -/
def checkSeconds (problem : String → Problem) (seconds : Int) : Except Problem Unit :=
  if 253402300799 < seconds then .error (problem "dates after 9999 are not supported as unix timestamps")
  else if seconds < -62167219200 then .error (problem "dates before 0000 are not supported as unix timestamps")
  else if seconds < -62135596800 then .error .yearZero
  else .ok ()

/-- Checks that a count is inside the calendar. -/
def checkCount (problem : String → Problem) (n : Int) : Except Problem Unit :=
  checkSeconds problem (if n.natAbs ≤ secondsLimit then n else n.fdiv 1000)

/-- Checks that a number from a text is inside the calendar. The fraction that is left of its milliseconds counts as one of a
second. -/
def checkReal (beyond : Problem) (x : Binary64) : Except Problem Unit :=
  match x.ratio?, x.thousandth.ratio? with
  | some (n, d), some (n', d') =>
    let count := n'.fdiv d'
    let micros := count.fmod 1000 * 1000 + n'.fmod d' * 1000000 / d'
    if n.natAbs ≤ secondsLimit * d || count.natAbs ≤ secondsLimit then .ok ()
    else checkSeconds (fun _ => beyond) (count.fdiv 1000 + micros / 1000000)
  | _, _ => .error beyond

/-- The number that digits denote in 64 bits, one of them the sign. What is carried out of the bits is lost; a carry into the sign is
refused. -/
def ofDigitsIn64 (digits : List Nat) : Option Nat :=
  digits.foldlM (fun n v =>
    let n := (n * 10 + v) % Nat.pow 2 64
    if n < Nat.pow 2 63 then some n else none) 0

/-- Checks a text that is no date as a count: a whole number, or a decimal one with a point behind its first digits. A text that is no
count has the problem that it has as a date. -/
def countText (reason : String) (cs : List Char) : Except Problem Unit :=
  let (negative, body) := Integer.splitSign cs
  let whole := body.takeWhile isAsciiDigit
  match ofDigitsIn64 (whole.map fun c => c.toNat - 0x30), body.dropWhile isAsciiDigit with
  | some n, [] => if whole.isEmpty then .error (.momentText reason) else checkCount .momentText (Integer.signed negative n)
  | some _, '.' :: _ =>
    match decimal negative body with
    | some x => checkReal (.momentText reason) x
    | none => .error (.momentText reason)
  | _, _ => .error (.momentText reason)

/-- Checks a text as a date with a time. -/
def momentText (s : String) : Except Problem Unit :=
  match datePart s.toList with
  | .error reason => countText reason s.toList
  | .ok (year, rest) =>
    let ends := match rest with
      | [] => true
      | sep :: time => (sep == 'T' || sep == 't' || sep == ' ' || sep == '_') && isTime time
    if !ends then .error (.momentText "unexpected extra characters at the end of the input")
    else if year = 0 then .error .yearZero
    else .ok ()

/-- Checks a value as a date with a time. -/
def moment : Json → Except Problem Unit
  | .str s => momentText s
  | .illFormed _ => .error .notUnicode
  | .int n =>
    match Binary64.ofInt n with
    | .infinite _ => .error .notMoment
    | _ => checkCount .momentRange n
  | .float x =>
    match x, x.ratio? with
    | _, some (n, d) => checkCount .momentRange (n.fdiv d)
    | .infinite true, none => .error (.momentRange "dates before 0000 are not supported as unix timestamps")
    | .infinite false, none => .error (.momentRange "dates after 9999 are not supported as unix timestamps")
    | _, none => .error (.momentRange "NaN values not permitted")
  | _ => .error .notMoment

/-- Checks a value as a date with a time or nothing. -/
def momentOrNull : Json → Except Problem Unit
  | .null => .ok ()
  | v => moment v

end OAuthClient.Validation
