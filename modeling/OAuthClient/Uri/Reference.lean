import OAuthClient.Number.Integer
import OAuthClient.Uri.Split

/-!
# URL references

The reading of a URL that decides whether it is accepted as an endpoint. Every text of moderate length without controls has its
parts; what is checked is that the port is a number, that a host which looks like a numeric address is one, that other hosts are
ASCII or international names, and that the path fits what stands before it.
-/

namespace OAuthClient.Uri

open OAuthClient.Text

/-- The parts of a URL reference. -/
structure Reference where
  scheme : List Char
  userinfo : List Char
  host : List Char
  port : List Char
  path : List Char
  query : Option (List Char)
  fragment : Option (List Char)
  deriving DecidableEq, Repr

/-- Why a text is no URL reference. -/
inductive ReferenceFlaw where
  | tooLong
  | control
  | port
  | address
  | hostName
  | path
  deriving DecidableEq, Repr

/-- The greatest length of a URL. -/
def maxLength : Nat := 65536

/-- A control character of ASCII. -/
def isControl (c : Char) : Bool :=
  c.toNat < 0x20 || c.toNat = 0x7f

/-- Cuts off a scheme with its colon. The scheme may be empty, but it is there only when a colon follows it. -/
def cutReferenceScheme (cs : List Char) : List Char × List Char :=
  match cut ':' cs with
  | ([], some rest) => ([], rest)
  | (c :: scheme, some rest) => if isAsciiLetter c && scheme.all isSchemeChar then (c :: scheme, rest) else ([], cs)
  | (_, none) => ([], cs)

/-- Cuts an authority into user information, host and port. The user information ends at the last at sign. A host in brackets
ends at the last closing bracket, any other at the first colon. -/
def cutHost (authority : List Char) : List Char × List Char × List Char :=
  let (userinfo, rest) := (cutLast '@' authority).getD ([], authority)
  let (host, after) :=
    match rest, cutLast ']' rest with
    | '[' :: _, some (before, after) => (before ++ [']'], after)
    | _, _ => (rest.takeWhile (· != ':'), rest.dropWhile (· != ':'))
  (userinfo, host, match after with
    | ':' :: port => port
    | port => port)

/-- The parts of any text, taken as a URL reference. -/
def Reference.ofText (cs : List Char) : Reference :=
  let (scheme, rest) := cutReferenceScheme cs
  let (authority, rest) := cutAuthority rest
  let (userinfo, host, port) := cutHost (authority.getD [])
  let (rest, fragment) := cut '#' rest
  let (path, query) := cut '?' rest
  { scheme, userinfo, host, port, path, query, fragment }

/-- The stages of a numeric address after one more character. An odd stage is inside a run of digits, an even one right behind the
character after a run. -/
def numericStep (stages : List Nat) (c : Char) : List Nat :=
  (List.range 8).filter fun n =>
    if n % 2 = 1 then isAsciiDigit c && (stages.contains n || stages.contains (n - 1)) else 0 < n && stages.contains (n - 1)

/-- Whether a host looks like a numeric address: four runs of digits with any one character between neighbours. -/
def looksNumeric (host : List Char) : Bool :=
  (host.foldl numericStep [0]).contains 7

/-- The port that a scheme stands for. -/
def defaultPort (scheme : List Char) : Option Int :=
  match String.ofList scheme with
  | "ftp" => some 21
  | "http" => some 80
  | "https" => some 443
  | "ws" => some 80
  | "wss" => some 443
  | _ => none

/-- The number of a port. An empty one and the one the scheme stands for are none. -/
def Reference.portNumber (r : Reference) : Except ReferenceFlaw (Option Int) :=
  if r.port.isEmpty then .ok none
  else match Integer.read r.port with
    | .error _ => .error .port
    | .ok n => .ok (if some n = defaultPort r.scheme then none else some n)

/-- Checks a host: a numeric address by its form, an international name by a given test. -/
def checkHost (isName : List Char → Bool) (host : List Char) : Except ReferenceFlaw Unit :=
  if host.isEmpty then .ok ()
  else if looksNumeric host then if Address.isV4 host then .ok () else .error .address
  else if host.head? = some '[' && host.getLast? = some ']' then
    if Address.isV6 (host.drop 1).dropLast then .ok () else .error .address
  else if host.all fun c => c.toNat < 0x80 then .ok ()
  else if isName host then .ok ()
  else .error .hostName

/-- Checks that a path fits: behind an authority it is empty or begins with a slash, and with nothing before it it begins with
neither two slashes nor a colon. -/
def checkPath (hasScheme hasAuthority : Bool) (path : List Char) : Except ReferenceFlaw Unit :=
  if hasAuthority then if path.isEmpty || path.head? = some '/' then .ok () else .error .path
  else if hasScheme then .ok ()
  else match path with
    | '/' :: '/' :: _ => .error .path
    | ':' :: _ => .error .path
    | _ => .ok ()

/-- Reads a text as a URL reference. `isName` tells the international host names. -/
def Reference.read (isName : List Char → Bool) (cs : List Char) : Except ReferenceFlaw Reference := do
  if maxLength < cs.length then .error .tooLong
  else if cs.any isControl then .error .control
  else
    let r := Reference.ofText cs
    checkHost isName r.host
    let port ← r.portNumber
    checkPath (!r.scheme.isEmpty) (!r.userinfo.isEmpty || !r.host.isEmpty || port.isSome) r.path
    return r

end OAuthClient.Uri
