import OAuthClient.Json.Display
import OAuthClient.Number.Places

/-!
# Message templates

A template is a text with conversions, each of which begins with a percent sign and takes the next argument, or the argument of
a name. Between the sign and the letter that says how the argument is shown stand flags, the least width and the precision, of
which the last two can be arguments themselves.
-/

namespace OAuthClient.Template

open OAuthClient.Text

/-- Why a template cannot be filled in. -/
inductive Flaw where
  /-- There are fewer arguments than conversions. -/
  | tooFew
  /-- There are more arguments than conversions. -/
  | tooMany
  /-- A conversion names an argument, but arguments have no names. -/
  | noNames
  /-- No argument has this name. -/
  | unknownName (name : String)
  /-- The template ends inside a conversion. -/
  | incomplete
  /-- The template ends inside the name of an argument. -/
  | incompleteName
  /-- A width or a precision is no whole number. -/
  | sizeKind
  /-- A width or a precision in the template is too large, and which of them it is. -/
  | size (name : String)
  /-- There is no conversion of this letter, which stands at this place. -/
  | conversion (c : Char) (place : Nat)
  /-- The conversion of a letter needs a whole number, or any number, and not an argument of this kind. -/
  | notWhole (c : Char) (kind : String)
  | notNumber (c : Char) (kind : String)
  | notReal (kind : String)
  | notCharacter
  /-- What is no number has no whole part. -/
  | noWholePart
  /-- A number is too large for its conversion. -/
  | tooLarge
  deriving DecidableEq, Repr

/-- The message of a flaw. -/
def Flaw.message : Flaw → String
  | .tooFew => "not enough arguments for format string"
  | .tooMany => "not all arguments converted during string formatting"
  | .noNames => "format requires a mapping"
  | .unknownName name => name
  | .incomplete => "incomplete format"
  | .incompleteName => "incomplete format key"
  | .sizeKind => "* wants int"
  | .size name => name ++ " too big"
  | .conversion c place =>
    let shown := if 31 ≤ c.toNat && c.toNat < 128 then c else '?'
    "unsupported format character '" ++ String.ofList [shown] ++ "' (0x" ++ String.ofList (digitsIn 16 c.toNat) ++
      ") at index " ++ toString place
  | .notWhole c kind => "%" ++ String.ofList [c] ++ " format: an integer is required, not " ++ kind
  | .notNumber c kind => "%" ++ String.ofList [c] ++ " format: a real number is required, not " ++ kind
  | .notReal kind => "must be real number, not " ++ kind
  | .notCharacter => "%c requires int or char"
  | .noWholePart => "cannot convert float NaN to integer"
  | .tooLarge => "number too large"

/-- The arguments of a template: a list, or one object whose members are named. -/
inductive Arguments where
  | items (list : List Json)
  | named (members : List (String × Json))
  deriving DecidableEq

/-- Arguments as a caller gives them. One object alone, unless it is empty, gives its members by name. -/
def Arguments.ofList : List Json → Arguments
  | [.obj (m :: members)] => .named (m :: members)
  | list => .items list

/-- Whether there are no arguments, so that a template stands for itself. -/
def Arguments.isEmpty : Arguments → Bool
  | .items list => list.isEmpty
  | .named _ => false

/-- The arguments that are left, in order, and those with names. -/
structure Feed where
  left : List Json
  members : Option (List (String × Json))

/-- The feed of arguments. An object stands for itself where no name is asked for. -/
def Arguments.feed : Arguments → Feed
  | .items list => ⟨list, none⟩
  | .named members => ⟨[.obj members], some members⟩

/-- The next argument. -/
def Feed.next (f : Feed) : Except Flaw (Json × Feed) :=
  match f.left with
  | [] => .error .tooFew
  | v :: left => .ok (v, { f with left })

/-! ## Conversions -/

/-- What a conversion says besides its letter. -/
structure Spec where
  left : Bool := false
  plus : Bool := false
  blank : Bool := false
  full : Bool := false
  zeros : Bool := false
  width : Nat := 0
  precision : Option Nat := none

/-- The flags at the start of a text. -/
def readFlags (s : Spec) : List Char → Spec × List Char
  | '-' :: cs => readFlags { s with left := true } cs
  | '+' :: cs => readFlags { s with plus := true } cs
  | ' ' :: cs => readFlags { s with blank := true } cs
  | '#' :: cs => readFlags { s with full := true } cs
  | '0' :: cs => readFlags { s with zeros := true } cs
  | cs => (s, cs)

/-- The number that leading digits denote, where there are any, and what follows them. -/
def readSize (cs : List Char) : Option Nat × List Char :=
  let ds := cs.takeWhile isAsciiDigit
  (if ds.isEmpty then none else some (ds.foldl (fun n d => n * 10 + (d.toNat - 0x30)) 0), cs.dropWhile isAsciiDigit)

/-- A value as a size. -/
def sizeOf? : Json → Option Int
  | .int n => some n
  | .bool b => some (if b then 1 else 0)
  | _ => none

/-- A size that may be an argument: the number, and what is left of the text and of the arguments. Its absolute value must be
below a power of two. -/
def readSizeOrNext (name : String) (bits : Nat) (f : Feed) (cs : List Char) : Except Flaw (Option Int × List Char × Feed) :=
  match cs with
  | '*' :: rest => do
    let (v, f) ← f.next
    match sizeOf? v with
    | some n => if n.natAbs < Nat.pow 2 bits then return (some n, rest, f) else .error .tooLarge
    | none => .error .sizeKind
  | _ =>
    let (n, rest) := readSize cs
    if n.getD 0 < Nat.pow 2 bits then .ok (n.map (↑·), rest, f) else .error (.size name)

/-- The name in round brackets at the start of a text, with brackets balanced inside it, and what follows. The first argument
counts the open brackets. -/
def readName : Nat → List Char → Option (List Char × List Char)
  | _, [] => none
  | depth, c :: cs =>
    if c == ')' then
      match depth with
      | 0 => some ([], cs)
      | depth + 1 => (readName depth cs).map fun (name, rest) => (c :: name, rest)
    else (readName (if c == '(' then depth + 1 else depth) cs).map fun (name, rest) => (c :: name, rest)

/-- The feed behind the name of an argument, where a conversion has one. -/
def readMember (f : Feed) (cs : List Char) : Except Flaw (List Char × Feed) :=
  match cs with
  | '(' :: rest =>
    match f.members with
    | none => .error .noNames
    | some members =>
      match readName 0 rest with
      | none => .error .incompleteName
      | some (name, rest) =>
        match Json.find? (String.ofList name) members with
        | none => .error (.unknownName (String.ofList name))
        | some v => .ok (rest, { f with left := [v] })
  | _ => .ok (cs, f)

/-- What follows the letter that tells the size of a number in memory, which means nothing here. -/
def skipLength : List Char → List Char
  | 'h' :: cs => cs
  | 'l' :: cs => cs
  | 'L' :: cs => cs
  | cs => cs

/-- A conversion behind its percent sign, up to its letter. -/
def readSpec (f : Feed) (cs : List Char) : Except Flaw (Spec × List Char × Feed) := do
  let (cs, f) ← readMember f cs
  let (s, cs) := readFlags {} cs
  let (width, cs, f) ← readSizeOrNext "width" 63 f cs
  let s := { s with width := (width.getD 0).natAbs, left := s.left || width.getD 0 < 0 }
  match cs with
  | '.' :: cs =>
    let (precision, cs, f) ← readSizeOrNext "precision" 31 f cs
    return ({ s with precision := some (precision.getD 0).toNat }, skipLength cs, f)
  | _ => return (s, skipLength cs, f)

/-! ## Values -/

/-- A text with blanks around it, up to the width of a conversion. -/
def Spec.pad (s : Spec) (cs : List Char) : List Char :=
  let blanks := List.replicate (s.width - cs.length) ' '
  if s.left then cs ++ blanks else blanks ++ cs

/-- The digits of a number with its sign and what stands between them, up to the width of a conversion. -/
def Spec.padNumber (s : Spec) (negative : Bool) (mark digits : List Char) : List Char :=
  let sign := if negative then ['-'] else if s.plus then ['+'] else if s.blank then [' '] else []
  let zeros := if s.zeros && !s.left then List.replicate (s.width - (sign ++ mark ++ digits).length) '0' else []
  s.pad (sign ++ mark ++ zeros ++ digits)

/-- A value shown as a text, of which the precision keeps the beginning. -/
def Spec.showText (s : Spec) (text : String) : List Char :=
  s.pad (match s.precision with
    | some n => text.toList.take n
    | none => text.toList)

/-- A value as a whole number for the conversion of a letter. Numbers with a fraction lose it, unless the digits are not
decimal. -/
def wholeOf (c : Char) (v : Json) : Except Flaw Int :=
  let decimal := c == 'd' || c == 'i' || c == 'u'
  match v with
  | .int n => .ok n
  | .bool b => .ok (if b then 1 else 0)
  | .float x =>
    if decimal then
      match x with
      | .nan => .error .noWholePart
      | .infinite _ => .error .tooLarge
      | x => .ok (x.truncate?.getD 0)
    else .error (.notWhole c v.kindName)
  | v => .error (if decimal then .notNumber c v.kindName else .notWhole c v.kindName)

/-- A whole number in the base of a letter. The precision is the least count of digits. -/
def Spec.showWhole (s : Spec) (c : Char) (n : Int) : List Char :=
  let base := if c == 'o' then 8 else if c == 'x' || c == 'X' then 16 else 10
  let ds := digitsIn base n.natAbs
  let ds := if c == 'X' then ds.map Char.toUpper else ds
  let ds := List.replicate (s.precision.getD 0 - ds.length) '0' ++ ds
  s.padNumber (n < 0) (if s.full && base ≠ 10 then ['0', c] else []) ds

/-- A value as a number. -/
def realOf (v : Json) : Except Flaw Binary64 :=
  match v with
  | .float x => .ok x
  | .bool b => .ok (.ofInt (if b then 1 else 0))
  | .int n =>
    match Binary64.ofInt n with
    | .infinite _ => .error .tooLarge
    | x => .ok x
  | v => .error (.notReal v.kindName)

/-- A number in the form of a letter. -/
def Spec.showReal (s : Spec) (c : Char) (x : Binary64) : List Char :=
  let form : Binary64.Form := match c.toLower with
    | 'e' => .scientific
    | 'f' => .fixed
    | _ => .general
  let cs := Binary64.placesText form (s.precision.getD 6) s.full x
  let cs := if c.isUpper then cs.map Char.toUpper else cs
  match cs with
  | '-' :: digits => s.padNumber true [] digits
  | digits => s.padNumber false [] digits

/-- A value as a character: a text of one, or a code point. -/
def characterOf (v : Json) : Except Flaw Char :=
  let ofCode (n : Int) : Except Flaw Char := if 0 ≤ n && n < 0x110000 then .ok (Char.ofNat n.toNat) else .error .tooLarge
  match v with
  | .str s =>
    match s.toList with
    | [c] => .ok c
    | _ => .error .notCharacter
  | .int n => ofCode n
  | .bool b => ofCode (if b then 1 else 0)
  | _ => .error .notCharacter

/-- The text of a value with all but ASCII escaped. -/
def asciiText (v : Json) : String :=
  String.ofList (v.inspect.toList.flatMap fun c => if c.toNat < 0x80 then [c] else codeEscape c)

/-- The conversion of a letter, which stands at this place. -/
def Spec.convert (s : Spec) (c : Char) (place : Nat) (v : Json) : Except Flaw (List Char) := do
  if c == 's' then return s.showText v.display
  else if c == 'r' then return s.showText v.inspect
  else if c == 'a' then return s.showText (asciiText v)
  else if "diuoxX".toList.contains c then return s.showWhole c (← wholeOf c v)
  else if "eEfFgG".toList.contains c then return s.showReal c (← realOf v)
  else if c == 'c' then return s.pad [← characterOf v]
  else .error (.conversion c place)

/-! ## Templates -/

/-- The rest of a template filled in. The first argument bounds the steps, the second is the length of the whole template. -/
def fillWithin : Nat → Nat → Feed → List Char → Except Flaw (List Char)
  | 0, _, _, cs => .ok cs
  | _ + 1, _, f, [] => if f.members.isNone && !f.left.isEmpty then .error .tooMany else .ok []
  | fuel + 1, size, f, c :: cs =>
    if c == '%' then do
      match cs with
      | '%' :: rest =>
        let tail ← fillWithin fuel size f rest
        return '%' :: tail
      | _ =>
        let (s, rest, f) ← readSpec f cs
        match rest with
        | [] => .error .incomplete
        | letter :: rest =>
          let (v, f) ← f.next
          let shown ← s.convert letter (size - rest.length - 1) v
          let tail ← fillWithin fuel size f rest
          return shown ++ tail
    else do
      let tail ← fillWithin fuel size f cs
      return c :: tail

/-- A template filled in. Without arguments it stands for itself. -/
def fill (template : String) (arguments : Arguments) : Except Flaw String :=
  if arguments.isEmpty then .ok template
  else
    let cs := template.toList
    (fillWithin (cs.length + 1) cs.length arguments.feed cs).map String.ofList

end OAuthClient.Template
