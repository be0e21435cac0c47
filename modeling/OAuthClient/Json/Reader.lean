import OAuthClient.Json.Basic
import OAuthClient.Number.Integer
import OAuthClient.Text.Split

/-!
# Reading JSON

A reader of JSON texts that says where and why a text is none. It accepts a little more than the standard: the three numbers
that are not finite, by name, and a name twice in an object, where the last value counts.

The reader goes through the text and hands on what is left of it, so a place in the text is the text that is left there. Every
array and every object takes a level of the stack, and a text that is nested deeper than the stack has room for is given up where the
room ends.
-/

namespace OAuthClient.Json

open OAuthClient.Text

/-- What is wrong with a text that is not JSON. -/
inductive Problem where
  | value
  | name
  | colon
  | comma
  | control
  | unterminated
  | escape
  | codeEscape
  | extra
  | mark
  /-- A whole number has too many digits, and how many. -/
  | digits (count : Nat)
  /-- The stack has no room for another level. -/
  | depth
  deriving DecidableEq, Repr

/-- The words for a problem. -/
def Problem.words : Problem → String
  | .value => "Expecting value"
  | .name => "Expecting property name enclosed in double quotes"
  | .colon => "Expecting ':' delimiter"
  | .comma => "Expecting ',' delimiter"
  | .control => "Invalid control character at"
  | .unterminated => "Unterminated string starting at"
  | .escape => "Invalid \\escape"
  | .codeEscape => "Invalid \\uXXXX escape"
  | .extra => "Extra data"
  | .mark => "Unexpected UTF-8 BOM (decode using utf-8-sig)"
  | .digits count => Integer.tooLongMessage count
  | .depth => "maximum recursion depth exceeded"

/-- A problem at the place where so much of the text is left. -/
structure Flaw where
  problem : Problem
  rest : List Char
  deriving DecidableEq, Repr

/-- Blanks between the parts of a JSON text. -/
def isGap (c : Char) : Bool :=
  c == ' ' || c == '\t' || c == '\n' || c == '\r'

/-- Skips the blanks between the parts of a JSON text. -/
def skipGap (cs : List Char) : List Char :=
  cs.dropWhile isGap

/-! ## Strings -/

/-- The value of four hexadecimal digits. -/
def codeUnit? (a b c d : Char) : Option Nat := do
  let a ← hexValue? a
  let b ← hexValue? b
  let c ← hexValue? c
  let d ← hexValue? d
  return ((a * 16 + b) * 16 + c) * 16 + d

/-- The character of an escape by one letter. -/
def letterEscape? (c : Char) : Option Char :=
  match c with
  | '"' => some '"'
  | '\\' => some '\\'
  | '/' => some '/'
  | 'b' => some '\x08'
  | 'f' => some '\x0c'
  | 'n' => some '\n'
  | 'r' => some '\r'
  | 't' => some '\t'
  | _ => none

/-- The code point of a code unit and the text after it. A high surrogate is joined with a low one that is escaped right after it;
a surrogate alone stays what it is. -/
def readUnit (u : Nat) (cs : List Char) : Except Flaw (Nat × List Char) :=
  if 0xd800 ≤ u && u < 0xdc00 then
    match cs with
    | '\\' :: 'u' :: a :: b :: c :: d :: e :: rest =>
      match codeUnit? a b c d with
      | none => .error ⟨.codeEscape, 'u' :: a :: b :: c :: d :: e :: rest⟩
      | some v =>
        if 0xdc00 ≤ v && v < 0xe000 then
          .ok (0x10000 + (u - 0xd800) * 0x400 + (v - 0xdc00), e :: rest)
        else .ok (u, cs)
    | _ => .ok (u, cs)
  else .ok (u, cs)

/-- The code point of an escape and the text after it, read from behind the backslash. -/
def readEscape (opening : List Char) : List Char → Except Flaw (Nat × List Char)
  | [] => .error ⟨.unterminated, opening⟩
  | 'u' :: cs =>
    match cs with
    | a :: b :: c :: d :: e :: rest =>
      match codeUnit? a b c d with
      | none => .error ⟨.codeEscape, 'u' :: cs⟩
      | some u => readUnit u (e :: rest)
    | _ => .error ⟨.codeEscape, 'u' :: cs⟩
  | c :: cs =>
    match letterEscape? c with
    | some d => .ok (d.toNat, cs)
    | none => .error ⟨.escape, '\\' :: c :: cs⟩

/-- Where halves of surrogate pairs stand in a text. A half is no character, so the replacement character stands for it, and this
gives the half by the number of characters that are left. -/
abbrev Halves := Nat → Option Nat

/-- No halves at all, as in every text. -/
def noHalves : Halves := fun _ => none

/-- The code point of a character, which may stand for half of a pair, before the text that is left behind it. -/
def codeAt (halves : Halves) (c : Char) (cs : List Char) : Nat :=
  if c = '\uFFFD' then (halves (cs.length + 1)).getD c.toNat else c.toNat

/-- The code points of a string up to the closing quote, and the text after it. `opening` is the text at the opening quote. -/
def readString (halves : Halves) (opening : List Char) : Nat → List Char → Except Flaw (List Nat × List Char)
  | 0, _ => .error ⟨.unterminated, opening⟩
  | _ + 1, [] => .error ⟨.unterminated, opening⟩
  | fuel + 1, c :: cs =>
    if c == '"' then .ok ([], cs)
    else if c == '\\' then do
      let (d, rest) ← readEscape opening cs
      let (ds, rest) ← readString halves opening fuel rest
      return (d :: ds, rest)
    else if c.toNat < 0x20 then .error ⟨.control, c :: cs⟩
    else do
      let (ds, rest) ← readString halves opening fuel cs
      return (codeAt halves c cs :: ds, rest)

/-! ## Numbers -/

/-- The leading ASCII digits of a text, and the rest. -/
def spanDigits (cs : List Char) : List Char × List Char :=
  (cs.takeWhile isAsciiDigit, cs.dropWhile isAsciiDigit)

/-- The number that ASCII digits denote. -/
def digitsValue (ds : List Char) : Nat :=
  Integer.ofDigits (ds.map fun c => c.toNat - 0x30)

/-- The digits after a point, when a digit follows it. -/
def readFraction : List Char → Option (List Char × List Char)
  | '.' :: cs =>
    let (ds, rest) := spanDigits cs
    if ds.isEmpty then none else some (ds, rest)
  | _ => none

/-- The exponent after its mark, when a digit follows the mark and its sign. -/
def readExponent : List Char → Option (Int × List Char)
  | c :: cs =>
    if c == 'e' || c == 'E' then
      let (negative, body) := Integer.splitSign cs
      let (ds, rest) := spanDigits body
      if ds.isEmpty then none else some (Integer.signed negative (digitsValue ds), rest)
    else none
  | [] => none

/-- A number: a whole one without a leading zero, and what of a fraction and an exponent follows it. `place` is the text at its
start. -/
def readNumber (place : List Char) : Except Flaw (Json × List Char) :=
  let (negative, body) := match place with
    | '-' :: cs => (true, cs)
    | cs => (false, cs)
  let (whole, rest) := match body with
    | '0' :: cs => (['0'], cs)
    | cs => spanDigits cs
  if whole.isEmpty then .error ⟨.value, place⟩
  else
    match readFraction rest, readExponent rest with
    | none, none =>
      if Integer.digitLimit < whole.length then .error ⟨.digits whole.length, place⟩
      else .ok (.int (Integer.signed negative (digitsValue whole)), rest)
    | none, some (e, rest) => .ok (.float (.ofDecimal negative (digitsValue whole) e), rest)
    | some (fraction, rest), _ =>
      let (e, rest) := (readExponent rest).getD (0, rest)
      .ok (.float (.ofDecimal negative (digitsValue (whole ++ fraction)) (e - fraction.length)), rest)

/-- A value that is a word, and the text after it. -/
def readWord (cs : List Char) : Option (Json × List Char) :=
  [("null", Json.null), ("true", .bool true), ("false", .bool false), ("NaN", .float .nan),
    ("Infinity", .float (.infinite false)), ("-Infinity", .float (.infinite true))].findSome? fun (w, v) =>
      (after? w.toList cs).map (v, ·)

/-! ## Values -/

/-- Goes a level down at a place, where the stack has room for another. -/
def descend {α : Type} (room : Nat) (place : List Char) (inside : Nat → Except Flaw α) : Except Flaw α :=
  match room with
  | 0 => .error ⟨.depth, place⟩
  | room + 1 => inside room

mutual

/-- A value at the start of a text. -/
def readValue (halves : Halves) (room : Nat) : Nat → List Char → Except Flaw (Json × List Char)
  | 0, cs => .error ⟨.value, cs⟩
  | _ + 1, [] => .error ⟨.value, []⟩
  | fuel + 1, c :: cs =>
    if c == '"' then do
      let (ds, rest) ← readString halves (c :: cs) (cs.length + 1) cs
      return (ofCodes ds, rest)
    else if c == '\x7b' then
      descend room (c :: cs) fun room =>
        match skipGap cs with
        | '\x7d' :: rest => .ok (.obj [], rest)
        | body => do
          let (members, rest) ← readMembers halves room fuel body
          return (ofMembers members, rest)
    else if c == '[' then
      descend room (c :: cs) fun room =>
        match skipGap cs with
        | ']' :: rest => .ok (.arr [], rest)
        | body => do
          let (items, rest) ← readItems halves room fuel body
          return (.arr items, rest)
    else match readWord (c :: cs) with
      | some found => .ok found
      | none => readNumber (c :: cs)

/-- The items of an array up to the closing bracket. -/
def readItems (halves : Halves) (room : Nat) : Nat → List Char → Except Flaw (List Json × List Char)
  | 0, cs => .error ⟨.value, cs⟩
  | fuel + 1, cs => do
    let (item, rest) ← readValue halves room fuel cs
    match skipGap rest with
    | ']' :: rest => return ([item], rest)
    | ',' :: rest =>
      let (items, rest) ← readItems halves room fuel (skipGap rest)
      return (item :: items, rest)
    | rest => .error ⟨.comma, rest⟩

/-- The members of an object up to the closing brace, with their names as code points. -/
def readMembers (halves : Halves) (room : Nat) : Nat → List Char → Except Flaw (List (List Nat × Json) × List Char)
  | 0, cs => .error ⟨.value, cs⟩
  | fuel + 1, cs =>
    match cs with
    | '"' :: body => do
      let (name, rest) ← readString halves cs (body.length + 1) body
      match skipGap rest with
      | ':' :: rest =>
        let (value, rest) ← readValue halves room fuel (skipGap rest)
        match skipGap rest with
        | '\x7d' :: rest => return ([(name, value)], rest)
        | ',' :: rest =>
          let (members, rest) ← readMembers halves room fuel (skipGap rest)
          return ((name, value) :: members, rest)
        | rest => .error ⟨.comma, rest⟩
      | rest => .error ⟨.colon, rest⟩
    | _ => .error ⟨.name, cs⟩

end

/-- The levels for which the stack has room at its usual size, but for the few calls that lead to a reader. -/
def stackRoom : Nat := 990

/-- The value of a JSON text in which halves of surrogate pairs may stand, or its flaw, when the stack has room for so many levels.
Every step of the reader takes a character or goes one level down after one that did, so twice the length bounds the steps. -/
def readText (halves : Halves) (room : Nat) (cs : List Char) : Except Flaw Json :=
  match cs with
  | '\uFEFF' :: _ => .error ⟨.mark, cs⟩
  | _ => do
    let (v, rest) ← readValue halves room (2 * cs.length + 2) (skipGap cs)
    match skipGap rest with
    | [] => return v
    | rest => .error ⟨.extra, rest⟩

/-- The value of a JSON text, or its flaw. -/
def read (cs : List Char) (room : Nat := stackRoom) : Except Flaw Json :=
  readText noHalves room cs

/-- The halves of surrogate pairs among code points. -/
def halvesOf (codes : List Nat) : Halves := fun left =>
  codes[codes.length - left]?.filter isHalf

/-- The value of a JSON text given as code points, some of which may be halves of surrogate pairs, or its flaw. -/
def readCodes (codes : List Nat) (room : Nat := stackRoom) : Except Flaw Json :=
  readText (halvesOf codes) room (codes.map charOf)

/-- The place of a flaw in the text. -/
def Flaw.position (text : List Char) (f : Flaw) : Nat :=
  text.length - f.rest.length

/-- The message of a flaw: the words, and the place as line, column and count of characters before it. -/
def Flaw.message (text : List Char) (f : Flaw) : String :=
  match f.problem with
  | .digits _ | .depth => f.problem.words
  | _ =>
    let position := f.position text
    let before := text.take position
    let line := before.count '\n' + 1
    let column := (before.reverse.takeWhile (· != '\n')).length + 1
    f.problem.words ++ ": line " ++ toString line ++ " column " ++ toString column ++ " (char " ++ toString position ++ ")"

/-- Whether a flaw is one of the text's form, and not of a number's size or of the depth. -/
def Flaw.isSyntactic (f : Flaw) : Bool :=
  match f.problem with
  | .digits _ | .depth => false
  | _ => true

end OAuthClient.Json
