import OAuthClient.Text.Blank
import OAuthClient.Text.Digit
import OAuthClient.Text.Quoted

/-!
# Integers in text

Reading a whole number that a person or a server wrote: blank characters around it, one sign, decimal digits of any script with
single underscores between them, and no more digits than a fixed limit.
-/

namespace OAuthClient.Integer

open OAuthClient.Text

/-- The largest count of digits that is read. -/
def digitLimit : Nat := 4300

/-- Why a text is no whole number. -/
inductive Flaw where
  /-- The text does not have the form of a whole number. -/
  | malformed
  /-- The text has too many digits, and how many. -/
  | tooLong (digits : Nat)
  deriving DecidableEq, Repr

/-- The message for a text with too many digits. -/
def tooLongMessage (digits : Nat) : String :=
  "Exceeds the limit (" ++ toString digitLimit ++ " digits) for integer string conversion: value has " ++ toString digits ++
    " digits; use sys.set_int_max_str_digits() to increase the limit"

/-- The message for a text that is no whole number. The quoted text is cut after two hundred characters. -/
def Flaw.message (s : String) : Flaw → String
  | .malformed =>
    "invalid literal for int() with base 10: " ++ String.ofList ((quoteChars s.toList).take 200)
  | .tooLong digits => tooLongMessage digits

/-- The values of the leading digits of a text, with single underscores between them, and the rest of the text. `none` when an
underscore does not stand between two digits. The flag tells whether the character before was a digit. -/
def readDigits (afterDigit : Bool) : List Char → Option (List Nat × List Char)
  | [] => some ([], [])
  | c :: cs =>
    if c == '_' then
      if afterDigit then
        match cs with
        | d :: _ => if (digitValue? d).isSome then readDigits false cs else none
        | [] => none
      else none
    else match digitValue? c with
      | some v => (readDigits true cs).map fun (vs, rest) => (v :: vs, rest)
      | none => some ([], c :: cs)

/-- The number that digits denote, most significant first. -/
def ofDigits (vs : List Nat) : Nat :=
  vs.foldl (fun n v => n * 10 + v) 0

/-- Splits the sign from a text: whether it is a minus, and what follows. -/
def splitSign : List Char → Bool × List Char
  | '+' :: cs => (false, cs)
  | '-' :: cs => (true, cs)
  | cs => (false, cs)

/-- A natural number with a sign. -/
def signed (negative : Bool) (n : Nat) : Int :=
  if negative then -(n : Int) else n

/-- The whole number that a text denotes. The count of digits is checked before what follows them. -/
def read (cs : List Char) : Except Flaw Int :=
  let (negative, body) := splitSign (cs.dropWhile isBlank)
  match readDigits false body with
  | none => .error .malformed
  | some ([], _) => .error .malformed
  | some (vs, rest) =>
    if digitLimit < vs.length then .error (.tooLong vs.length)
    else if rest.all isBlank then .ok (signed negative (ofDigits vs))
    else .error .malformed

end OAuthClient.Integer
