import OAuthClient.Number.Integer
import OAuthClient.Text.Blank
import OAuthClient.Validation.Issue

/-!
# Lenient fields

How the fields of a record are read from JSON values. Texts and lists are taken as they are; numbers are read leniently, from
booleans, from numbers of the other kind that have the same value, and from texts.
-/

namespace OAuthClient.Validation

open OAuthClient.Text

/-- A text. -/
def text : Json → Except Problem String
  | .str s => .ok s
  | .illFormed _ => .error .notUnicode
  | _ => .error .notText

/-- A text or nothing. -/
def textOrNull : Json → Except Problem (Option String)
  | .null => .ok none
  | .str s => .ok (some s)
  | .illFormed _ => .error .notUnicode
  | _ => .error .notText

/-- The texts of a list from an index on, with an issue for every item that is none. -/
def texts (name : String) : Nat → List Json → List String × List Issue
  | _, [] => ([], [])
  | i, item :: items =>
    let (values, issues) := texts name (i + 1) items
    match text item with
    | .ok s => (s :: values, issues)
    | .error p => (values, ⟨[.field name, .index i], p⟩ :: issues)

/-- A list of texts. -/
def textList (name : String) : Json → Except (List Issue) (List String)
  | .arr items =>
    match texts name 0 items with
    | (values, []) => .ok values
    | (_, issues) => .error issues
  | _ => .error [⟨[.field name], .notList⟩]

/-! ## Fields by name -/

/-- The result of reading a field, or its issue. A field that is not there has a default. -/
def readField {α : Type} (name : String) (members : List (String × Json)) (default : α) (read : Json → Except Problem α) :
    Except (List Issue) α :=
  match Json.find? name members with
  | none => .ok default
  | some v => (read v).mapError fun p => [⟨[.field name], p⟩]

/-- The issues of a reading. -/
def issuesOf {α : Type} : Except (List Issue) α → List Issue
  | .ok _ => []
  | .error issues => issues

/-! ## Whole numbers in texts -/

/-- A text without its underscores, when they stand singly between other characters. -/
def dropUnderscores (cs : List Char) : List Char :=
  let parts := pieces '_' cs
  if parts.any (·.isEmpty) then cs else parts.flatten

/-- A text behind its leading zeros and the underscores among them. The last of these stays when a point follows or nothing does.
`none` when the text does not begin with a digit, or when something else follows the zeros. -/
def dropLeadingZeros : List Char → Option (List Char)
  | [] => none
  | c :: cs =>
    if c == '0' then behind c cs
    else if '1' ≤ c && c ≤ '9' then some (c :: cs)
    else none
where
  /-- What is left behind a zero or an underscore. -/
  behind (before : Char) : List Char → Option (List Char)
    | [] => some [before]
    | c :: cs =>
      if c == '0' || c == '_' then behind c cs
      else if c == '-' || ('1' ≤ c && c ≤ '9') then some (c :: cs)
      else if c == '.' then some (before :: c :: cs)
      else none

/-- A text without a fraction of zeros. -/
def dropZeroFraction (cs : List Char) : List Char :=
  match cut '.' cs with
  | (whole, some fraction) => if !fraction.isEmpty && fraction.all (· == '0') then whole else cs
  | (_, none) => cs

/-- A whole number in the form of JSON. The count of its characters is checked before what follows them. -/
def plainInteger (cs : List Char) : Except Problem Int :=
  let (negative, body) := match cs with
    | '-' :: body => (true, body)
    | body => (false, body)
  let digits := body.takeWhile isAsciiDigit
  match body with
  | ['0'] => .ok 0
  | '0' :: _ => .error .integerText
  | _ =>
    if digits.isEmpty then .error .integerText
    else if Integer.digitLimit + body.length < cs.length + digits.length then .error .integerSize
    else if digits.length < body.length then .error .integerText
    else .ok (Integer.signed negative (Integer.ofDigits (digits.map fun c => c.toNat - 0x30)))

/-- A whole number in a text: in the form of JSON, or else with blanks around it, a plus sign, leading zeros, a fraction of zeros,
and single underscores between digits. Only the first form tells when there are too many digits. -/
def integerOfText (s : String) : Except Problem Int :=
  match plainInteger s.toList with
  | .ok n => .ok n
  | .error .integerSize => .error .integerSize
  | .error _ =>
    let (negative, body) := Integer.splitSign (trim isWhiteSpace s.toList)
    let read := do
      let digits ← dropLeadingZeros body
      let digits := dropUnderscores (dropZeroFraction digits)
      (plainInteger (if negative then '-' :: digits else digits)).toOption
    match read with
    | some n => .ok n
    | none => .error .integerText

/-- A whole number: from a boolean, from a number that is whole and, unless it is an integer already, below `2 ^ 63` in size, or
from a text. -/
def integer : Json → Except Problem Int
  | .bool b => .ok (if b then 1 else 0)
  | .int n => .ok n
  | .float .nan => .error .notFinite
  | .float (.infinite _) => .error .notFinite
  | .float x =>
    match x.toInt? with
    | none => .error .integerFraction
    | some n => if n.natAbs < Nat.pow 2 63 then .ok n else .error .integerSize
  | .str s => integerOfText s
  | .illFormed _ => .error .notUnicode
  | _ => .error .notInteger

/-- A whole number or nothing. -/
def integerOrNull : Json → Except Problem (Option Int)
  | .null => .ok none
  | v => (integer v).map some

/-! ## Numbers -/

/-- A decimal number in a text: digits with at most one point, at least one digit, and an exponent. -/
def decimal (negative : Bool) (cs : List Char) : Option Binary64 :=
  let whole := cs.takeWhile isAsciiDigit
  let rest := cs.dropWhile isAsciiDigit
  let (fraction, rest) := match rest with
    | '.' :: tail => (tail.takeWhile isAsciiDigit, tail.dropWhile isAsciiDigit)
    | _ => ([], rest)
  let digits := Integer.ofDigits ((whole ++ fraction).map fun c => c.toNat - 0x30)
  if whole.isEmpty && fraction.isEmpty then none
  else match rest with
    | [] => some (.ofDecimal negative digits (-fraction.length))
    | c :: tail =>
      if c == 'e' || c == 'E' then
        let (minus, ds) := Integer.splitSign tail
        if ds.isEmpty || !ds.all isAsciiDigit then none
        else
          let e := Integer.signed minus (Integer.ofDigits (ds.map fun c => c.toNat - 0x30))
          some (.ofDecimal negative digits (e - fraction.length))
      else none

/-- A number in a text: a decimal one, or one that is not finite, by name. -/
def plainNumber (cs : List Char) : Option Binary64 :=
  let (negative, body) := Integer.splitSign cs
  match String.ofList (asciiLower body) with
  | "nan" => some .nan
  | "inf" => some (.infinite negative)
  | "infinity" => some (.infinite negative)
  | _ => decimal negative body

/-- A number in a text, with blanks around it or with single underscores between its characters. -/
def numberOfText (s : String) : Except Problem Binary64 :=
  match plainNumber (trim isWhiteSpace s.toList) with
  | some x => .ok x
  | none =>
    match plainNumber (dropUnderscores s.toList) with
    | some x => .ok x
    | none => .error .numberText

/-- A number: from a boolean, from an integer that does not exceed all numbers, or from a text. -/
def number : Json → Except Problem Binary64
  | .bool b => .ok (.ofInt (if b then 1 else 0))
  | .int n =>
    match Binary64.ofInt n with
    | .infinite _ => .error .notNumber
    | x => .ok x
  | .float x => .ok x
  | .str s => numberOfText s
  | .illFormed _ => .error .notUnicode
  | _ => .error .notNumber

end OAuthClient.Validation
