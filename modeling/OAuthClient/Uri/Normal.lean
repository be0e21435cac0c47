import OAuthClient.Uri.HostName
import OAuthClient.Uri.Percent
import OAuthClient.Uri.Reference

/-!
# The form in which a URL is sent

What a URL becomes when a request goes to it: scheme and host in lower case, the host in ASCII, no port where the scheme stands
for it, no dots as segments of the path, and every character that a part may not hold in percent form. A URL without a host
names no one to send to; of it only path and query are left.
-/

namespace OAuthClient.Uri

open OAuthClient.Text

/-- Whether a character is a visible one of ASCII and none of the given marks. -/
def isVisibleExcept (marks : String) (c : Char) : Bool :=
  0x20 < c.toNat && c.toNat < 0x7f && !marks.toList.contains c

/-- The characters that a fragment holds as they are. -/
def isFragmentChar : Char → Bool := isVisibleExcept "\"<>`"

/-- The characters that a query holds as they are. -/
def isQueryChar : Char → Bool := isVisibleExcept "\"#<>"

/-- The characters that a path holds as they are. -/
def isPathChar : Char → Bool := isVisibleExcept "\"#<>?`\x7b\x7d"

/-- The characters that user information holds as they are. -/
def isUserinfoChar : Char → Bool := isVisibleExcept "\"#<>?`\x7b\x7d/;=@[\\]^|"

/-- The characters that a host name in ASCII holds as they are. -/
def isHostChar : Char → Bool := isVisibleExcept "#/:<>?@[]^"

/-- The segments of a path without dots: a single dot goes, and two dots take the segment before them along. The first argument
holds the segments so far, backwards. -/
def resolveDots : List (List Char) → List (List Char) → List (List Char)
  | before, [] => before.reverse
  | before, ['.'] :: rest => resolveDots before rest
  | before, ['.', '.'] :: rest => resolveDots (if before = [[]] then before else before.tail) rest
  | before, segment :: rest => resolveDots (segment :: before) rest

/-- A path without dots as segments. -/
def withoutDots (path : List Char) : List Char :=
  join ['/'] (resolveDots [] (pieces '/' path))

/-- A host as it is sent: a numeric address as it is, a name in ASCII and in lower case. -/
def sentHost (host : List Char) : List Char :=
  if looksNumeric host || host.head? = some '[' && host.getLast? = some ']' then host
  else if host.all fun c => c.toNat < 0x80 then Percent.encodeExcept isHostChar (asciiLower host)
  else (asciiName? host).getD host

/-- A part behind its mark, where it is there. -/
def marked (mark : Char) (part : Option (List Char)) : List Char :=
  part.elim [] (mark :: ·)

namespace Reference

/-- Whether a reference names a host to send to. -/
def isAbsolute (r : Reference) : Bool :=
  !r.scheme.isEmpty && !r.host.isEmpty

/-- The authority of a reference, as it is sent. -/
def sentAuthority (r : Reference) : List Char :=
  let userinfo := Percent.encodeExcept isUserinfoChar r.userinfo
  let port := match r.portNumber with
    | .ok (some n) => ':' :: (toString n).toList
    | _ => []
  (if userinfo.isEmpty then [] else userinfo ++ ['@']) ++ sentHost r.host ++ port

/-- Path and query of a reference, as they are sent. -/
def sentTarget (r : Reference) : List Char :=
  Percent.encodeExcept isPathChar (withoutDots r.path) ++ marked '?' (r.query.map (Percent.encodeExcept isQueryChar))

/-- A reference as it is sent. -/
def sent (r : Reference) : List Char :=
  if r.isAbsolute then
    asciiLower r.scheme ++ [':', '/', '/'] ++ r.sentAuthority ++ r.sentTarget ++
      marked '#' (r.fragment.map (Percent.encodeExcept isFragmentChar))
  else '/' :: r.sentTarget.dropWhile (· == '/')

end Reference

end OAuthClient.Uri
