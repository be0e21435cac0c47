import OAuthClient.Text.Quoted
import OAuthClient.Uri.Address

/-!
# The parts of a URL

A lenient cut of any text into the five parts of a URL. It fails only where brackets do not enclose an address and where the
authority holds characters that stand for delimiters.
-/

namespace OAuthClient.Uri

open OAuthClient.Text

/-- The parts of a URL. -/
structure Split where
  scheme : List Char
  authority : List Char
  path : List Char
  query : List Char
  fragment : List Char
  deriving DecidableEq, Repr

/-- Why a text cannot be cut into the parts of a URL. -/
inductive SplitFlaw where
  /-- A bracket has no partner. -/
  | brackets
  /-- The brackets hold an address of a future version that is malformed. -/
  | futureAddress
  /-- The brackets hold no address. -/
  | noAddress (host : String)
  /-- The brackets hold a version 4 address. -/
  | v4InBrackets
  /-- The authority holds a character that stands for a delimiter. -/
  | delimiters (authority : String)
  deriving DecidableEq, Repr

/-- The message of a flaw. -/
def SplitFlaw.message : SplitFlaw → String
  | .brackets => "Invalid IPv6 URL"
  | .futureAddress => "IPvFuture address is invalid"
  | .noAddress host => quoted host ++ " does not appear to be an IPv4 or IPv6 address"
  | .v4InBrackets => "An IPv4 address cannot be in brackets"
  | .delimiters authority => "netloc '" ++ authority ++ "' contains invalid characters under NFKC normalization"

/-- A character of a scheme after the first. -/
def isSchemeChar (c : Char) : Bool :=
  isAsciiLetter c || isAsciiDigit c || c == '+' || c == '-' || c == '.'

/-- The text of a URL as it is cut: without controls and blanks at its start and without tabs and line ends anywhere. -/
def cleaned (cs : List Char) : List Char :=
  (cs.dropWhile fun c => c.toNat ≤ 0x20).filter fun c => c != '\t' && c != '\r' && c != '\n'

/-- Cuts off the scheme, in lower case. Without one the whole text is left. -/
def cutScheme (cs : List Char) : List Char × List Char :=
  match cut ':' cs with
  | (c :: scheme, some rest) =>
    if isAsciiLetter c && scheme.all isSchemeChar then (asciiLower (c :: scheme), rest) else ([], cs)
  | _ => ([], cs)

/-- Whether a character ends an authority. -/
def endsAuthority (c : Char) : Bool :=
  c == '/' || c == '?' || c == '#'

/-- Cuts off the authority behind two slashes. `none` when the text does not begin with them. -/
def cutAuthority (cs : List Char) : Option (List Char) × List Char :=
  match cs with
  | '/' :: '/' :: rest => (some (rest.takeWhile (!endsAuthority ·)), rest.dropWhile (!endsAuthority ·))
  | _ => (none, cs)

/-- The characters beyond ASCII that stand for text with a slash, a question mark, a number sign, an at sign or a colon. -/
def delimiterLikes : List Nat :=
  [0x2047, 0x2048, 0x2049, 0x2100, 0x2101, 0x2105, 0x2106, 0x2a74, 0xfe13, 0xfe16, 0xfe55, 0xfe56, 0xfe5f, 0xfe6b, 0xff03, 0xff0f,
    0xff1a, 0xff1f, 0xff20]

/-- An address of a future version: its letter, a hexadecimal version, a point and at least one more character. -/
def isFutureAddress : List Char → Bool
  | 'v' :: cs =>
    let (version, rest) := cut '.' cs
    !version.isEmpty && version.all (fun c => (hexValue? c).isSome) && rest.any fun r => !r.isEmpty && !r.contains '\n'
  | _ => false

/-- Checks what stands between the first opening bracket of an authority and the next closing one. -/
def checkBrackets (authority : List Char) : Except SplitFlaw Unit :=
  if authority.contains '[' != authority.contains ']' then .error .brackets
  else if authority.contains '[' then
    let host := (cut ']' ((cut '[' authority).2.getD [])).1
    if host.head? = some 'v' then if isFutureAddress host then .ok () else .error .futureAddress
    else if Address.isV4 host then .error .v4InBrackets
    else if Address.isV6 host then .ok ()
    else .error (.noAddress (String.ofList host))
  else .ok ()

/-- Cuts a URL into its parts. -/
def split (s : String) : Except SplitFlaw Split := do
  let (scheme, rest) := cutScheme (cleaned s.toList)
  let (found, rest) := cutAuthority rest
  let authority := found.getD []
  checkBrackets authority
  let (rest, fragment) := cut '#' rest
  let (path, query) := cut '?' rest
  if authority.any fun c => delimiterLikes.contains c.toNat then
    .error (.delimiters (String.ofList authority))
  else return { scheme, authority, path, query := query.getD [], fragment := fragment.getD [] }

/-- Puts a query at the end of a URL: right behind a question mark or ampersand that ends it, behind an ampersand when it has a
query, and behind a question mark otherwise. An empty query changes nothing. -/
def appendQuery (base query : String) : Except SplitFlaw String :=
  if query.isEmpty then .ok base
  else if base.toList.getLast? = some '?' || base.toList.getLast? = some '&' then .ok (base ++ query)
  else do
    let parts ← split base
    return base ++ (if parts.query.isEmpty then "?" else "&") ++ query

end OAuthClient.Uri
