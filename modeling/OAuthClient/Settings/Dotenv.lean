import OAuthClient.Json.Basic
import OAuthClient.Text.Blank

/-!
# Environment files

A file of variables, one to a line: a name, an equals sign and a value. A value stands between quotes, where it may run over
several lines and hold escapes, or on its own up to the end of its line or to a comment. Values refer to variables that were set
before. A line that has no such form is passed over.
-/

namespace OAuthClient.Dotenv

open OAuthClient.Text

/-- The text with one kind of line end. -/
def unifyLineEnds : List Char → List Char
  | [] => []
  | '\r' :: '\n' :: cs => '\n' :: unifyLineEnds cs
  | '\r' :: cs => '\n' :: unifyLineEnds cs
  | c :: cs => c :: unifyLineEnds cs

/-- A blank character inside a line. -/
def isGap (c : Char) : Bool :=
  isBlank c && c != '\n'

/-- What follows the blanks inside a line. -/
def dropGap (cs : List Char) : List Char :=
  cs.dropWhile isGap

/-- What follows the end of the line. -/
def dropLine (cs : List Char) : List Char :=
  (cs.dropWhile (· != '\n')).drop 1

/-! ## Names -/

/-- What follows the word that shells put before a name. -/
def skipExport (cs : List Char) : List Char :=
  match after? "export".toList cs with
  | some rest => if (rest.head?.map isGap).getD false then dropGap rest else cs
  | none => cs

/-- A name: between single quotes, or up to an equals sign, a comment or a blank. Before a comment there is no name. -/
def readName (cs : List Char) : Option (Option String × List Char) :=
  match cs with
  | '#' :: _ => some (none, cs)
  | '\'' :: rest =>
    match cut '\'' rest with
    | (name, some rest) => if name.isEmpty then none else some (some (String.ofList name), rest)
    | (_, none) => none
  | _ =>
    let isName (c : Char) := !(c == '=' || c == '#' || isBlank c)
    let name := cs.takeWhile isName
    if name.isEmpty then none else some (some (String.ofList name), cs.dropWhile isName)

/-! ## Values -/

/-- The text up to the closing quote, and what follows it. A quote behind a backslash does not close, unless no other one does.
The flag tells whether the character before was a backslash. -/
def readQuoted (quote : Char) (afterBackslash : Bool) : List Char → Option (List Char × List Char)
  | [] => none
  | c :: cs =>
    if c == quote && !afterBackslash then some ([], cs)
    else match readQuoted quote (c == '\\') cs with
      | some (body, rest) => some (c :: body, rest)
      | none => if c == quote then some ([], cs) else none

/-- The character that a letter behind a backslash stands for between double quotes. -/
def doubleEscape? : Char → Option Char
  | '\\' => some '\\'
  | '\'' => some '\''
  | '"' => some '"'
  | 'a' => some '\x07'
  | 'b' => some '\x08'
  | 'f' => some '\x0c'
  | 'n' => some '\n'
  | 'r' => some '\r'
  | 't' => some '\t'
  | 'v' => some '\x0b'
  | _ => none

/-- The character that a character behind a backslash stands for between single quotes. -/
def singleEscape? : Char → Option Char
  | '\\' => some '\\'
  | '\'' => some '\''
  | _ => none

/-- A text with its escapes replaced. Other backslashes stand for themselves. The flag tells whether a backslash is pending. -/
def unescape (escape? : Char → Option Char) (pending : Bool) : List Char → List Char
  | [] => if pending then ['\\'] else []
  | c :: cs =>
    if pending then
      match escape? c with
      | some d => d :: unescape escape? false cs
      | none => '\\' :: c :: unescape escape? false cs
    else if c == '\\' then unescape escape? true cs
    else c :: unescape escape? false cs

/-- The text before a comment, which begins with a sign behind a blank. The flag tells whether the character before was blank. -/
def beforeComment (afterBlank : Bool) : List Char → List Char
  | [] => []
  | c :: cs => if c == '#' && afterBlank then [] else c :: beforeComment (isBlank c) cs

/-- A value, and what follows it; `none` when its quote does not close. -/
def readValue (cs : List Char) : Option (String × List Char) :=
  match cs with
  | '\'' :: rest => (readQuoted '\'' false rest).map fun (body, rest) => (String.ofList (unescape singleEscape? false body), rest)
  | '"' :: rest => (readQuoted '"' false rest).map fun (body, rest) => (String.ofList (unescape doubleEscape? false body), rest)
  | _ =>
    let line := cs.takeWhile (· != '\n')
    some (String.ofList (dropEndWhile isBlank (beforeComment false line)), cs.dropWhile (· != '\n'))

/-! ## Lines -/

/-- What follows the end of a line that has nothing more than a comment. -/
def endLine? (cs : List Char) : Option (List Char) :=
  let rest := dropGap cs
  let rest := if rest.head? = some '#' then rest.dropWhile (· != '\n') else rest
  match rest with
  | [] => some []
  | '\n' :: rest => some rest
  | _ => none

/-- A line: the name that it sets, where it sets one, with the value where it has one, and what follows the line. -/
def readLine (cs : List Char) : Option (String × Option String) × List Char :=
  let cs := skipExport cs
  match readName cs with
  | none => (none, dropLine cs)
  | some (name, rest) =>
    let (value, rest) := match dropGap rest with
      | '=' :: tail =>
        let tail := dropGap tail
        match readValue tail with
        | some (value, rest) => (some (some value), rest)
        | none => (none, tail)
      | rest => (some none, rest)
    match value with
    | none => (none, dropLine rest)
    | some value =>
      match endLine? rest with
      | none => (none, dropLine rest)
      | some rest => (name.map (·, value), rest)

/-- The lines of a text. The first argument bounds their count. -/
def readLines : Nat → List Char → List (String × Option String)
  | 0, _ => []
  | fuel + 1, cs =>
    match cs.dropWhile isBlank with
    | [] => []
    | cs =>
      let (entry, rest) := readLine cs
      entry.toList ++ readLines fuel rest

/-! ## References -/

/-- A reference behind its opening: the name, the default where it has one, and what follows. -/
def readReference (cs : List Char) : Option (List Char × Option (List Char) × List Char) :=
  let isName (c : Char) := !(c == '\x7d' || c == ':')
  let name := cs.takeWhile isName
  match cs.dropWhile isName with
  | '\x7d' :: rest => some (name, none, rest)
  | ':' :: '-' :: tail =>
    match cut '\x7d' tail with
    | (default, some rest) => some (name, some default, rest)
    | (_, none) => none
  | _ => none

/-- A value with its references replaced by what the variables are set to. The first argument bounds the steps. -/
def expandWithin (lookup : String → Option String) : Nat → List Char → List Char
  | 0, cs => cs
  | _ + 1, [] => []
  | fuel + 1, c :: cs =>
    let reference := match c, cs with
      | '$', '\x7b' :: tail => readReference tail
      | _, _ => none
    match reference with
    | some (name, default, rest) =>
      let value := (lookup (String.ofList name)).map String.toList
      value.getD (default.getD []) ++ expandWithin lookup fuel rest
    | none => c :: expandWithin lookup fuel cs

/-- A value with its references replaced. -/
def expand (lookup : String → Option String) (s : String) : String :=
  String.ofList (expandWithin lookup (s.length + 1) s.toList)

/-- What a name refers to: what the file set it to, where it did, and otherwise the variable of the environment. A name that the
file left without a value refers to the empty text. -/
def referent (environment : List (String × String)) (entries : List (String × Option String)) (name : String) : Option String :=
  match Json.find? name entries with
  | some value => some (value.getD "")
  | none => Json.find? name environment

/-- The variables of an environment file in order. A name that occurs twice has its last value; a name may have no value. -/
def entries (environment : List (String × String)) (text : String) : List (String × Option String) :=
  let cs := unifyLineEnds text.toList
  (readLines (cs.length + 1) cs).foldl (fun entries (name, value) =>
    Json.put name (value.map (expand (referent environment entries))) entries) []

end OAuthClient.Dotenv
