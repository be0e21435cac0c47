import OAuthClient.Text.Utf8

/-!
# The encoding of a JSON text

A JSON text given as octets is in UTF-8, UTF-16 or UTF-32. Its first octets tell which: a byte order mark names the encoding,
and without one the places of the zero octets do, since a JSON text begins with ASCII. Surrogates that stand alone are let through,
so what is read are code points.
-/

namespace OAuthClient.Text

/-- The order of the octets in a unit of more than one. -/
inductive ByteOrder where
  | big
  | little
  deriving DecidableEq, Repr

/-- An encoding of text. -/
inductive Encoding where
  | utf8
  | utf16 (order : ByteOrder)
  | utf32 (order : ByteOrder)
  deriving DecidableEq, Repr

namespace Encoding

/-- The name of an encoding in messages. -/
def name : Encoding → String
  | .utf8 => "utf-8"
  | .utf16 .big => "utf-16-be"
  | .utf16 .little => "utf-16-le"
  | .utf32 .big => "utf-32-be"
  | .utf32 .little => "utf-32-le"

/-- The encoding of a text, how many octets its byte order mark takes, and at which position the text after it starts. Only the
mark of UTF-8 does not count as a position. -/
def detect (bs : List UInt8) : Encoding × Nat × Nat :=
  match bs with
  | 0x00 :: 0x00 :: 0xfe :: 0xff :: _ => (.utf32 .big, 4, 4)
  | 0xff :: 0xfe :: 0x00 :: 0x00 :: _ => (.utf32 .little, 4, 4)
  | 0xfe :: 0xff :: _ => (.utf16 .big, 2, 2)
  | 0xff :: 0xfe :: _ => (.utf16 .little, 2, 2)
  | 0xef :: 0xbb :: 0xbf :: _ => (.utf8, 3, 0)
  | a :: b :: c :: d :: _ =>
    if a = 0 then if b = 0 then (.utf32 .big, 0, 0) else (.utf16 .big, 0, 0)
    else if b = 0 then if c = 0 && d = 0 then (.utf32 .little, 0, 0) else (.utf16 .little, 0, 0)
    else (.utf8, 0, 0)
  | [a, b] =>
    if a = 0 then (.utf16 .big, 0, 0) else if b = 0 then (.utf16 .little, 0, 0) else (.utf8, 0, 0)
  | _ => (.utf8, 0, 0)

end Encoding

/-- Octets that are no text in an encoding: which encoding, where they start, which they are, and the words for the reason. -/
structure EncodingFlaw where
  encoding : Encoding
  start : Nat
  octets : List UInt8
  reason : String
  deriving DecidableEq, Repr

/-- The message of a flaw: one octet is named by value, several by their positions. -/
def EncodingFlaw.message (f : EncodingFlaw) : String :=
  let what := match f.octets with
    | [b] => "byte 0x" ++ String.ofList (paddedDigits 16 2 b.toNat) ++ " in position " ++ toString f.start
    | bs => "bytes in position " ++ toString f.start ++ "-" ++ toString (f.start + bs.length - 1)
  "'" ++ f.encoding.name ++ "' codec can't decode " ++ what ++ ": " ++ f.reason

/-- A flaw of UTF-8 at a position. -/
def Utf8.Flaw.toEncodingFlaw (f : Utf8.Flaw) : EncodingFlaw :=
  ⟨.utf8, f.start, f.octets, f.reason.message⟩

/-- A unit of two octets. -/
def ByteOrder.unit16 : ByteOrder → UInt8 → UInt8 → Nat
  | .big, a, b => a.toNat * 0x100 + b.toNat
  | .little, a, b => b.toNat * 0x100 + a.toNat

/-- The code points of a list of UTF-16 units: a high surrogate and a low one after it make one, and any other unit is one. -/
def utf16Codes : List Nat → List Nat
  | [] => []
  | [u] => [u]
  | u :: v :: us =>
    if 0xd800 ≤ u && u < 0xdc00 && 0xdc00 ≤ v && v < 0xe000 then
      (0x10000 + (u - 0xd800) * 0x400 + (v - 0xdc00)) :: utf16Codes us
    else u :: utf16Codes (v :: us)

/-- The units of a text in UTF-16, or the octet left over. -/
def utf16Units (order : ByteOrder) (position : Nat) : List UInt8 → Except EncodingFlaw (List Nat)
  | [] => .ok []
  | [a] => .error ⟨.utf16 order, position, [a], "truncated data"⟩
  | a :: b :: bs => (utf16Units order (position + 2) bs).map (order.unit16 a b :: ·)

/-- The code points of a text in UTF-32, or the first unit that is cut off or no code point. -/
def utf32Codes (order : ByteOrder) (position : Nat) : List UInt8 → Except EncodingFlaw (List Nat)
  | [] => .ok []
  | a :: b :: c :: d :: bs =>
    let n := match order with
      | .big => ByteOrder.unit16 .big a b * 0x10000 + ByteOrder.unit16 .big c d
      | .little => ByteOrder.unit16 .little c d * 0x10000 + ByteOrder.unit16 .little a b
    if 0x110000 ≤ n then .error ⟨.utf32 order, position, [a, b, c, d], "code point not in range(0x110000)"⟩
    else (utf32Codes order (position + 4) bs).map (n :: ·)
  | bs => .error ⟨.utf32 order, position, bs, "truncated data"⟩

/-- Puts the replacement character in the place of every surrogate that octets hold in the manner of UTF-8. It takes as many
octets as a surrogate does, so all else keeps its position. -/
def replaceSurrogates : List UInt8 → List UInt8
  | [] => []
  | [a] => [a]
  | [a, b] => [a, b]
  | a :: b :: c :: bs =>
    if a = 0xed && 0xa0 ≤ b && b ≤ 0xbf && 0x80 ≤ c && c ≤ 0xbf then 0xef :: 0xbf :: 0xbd :: replaceSurrogates bs
    else a :: replaceSurrogates (b :: c :: bs)

/-- The code point that three octets hold in the manner of UTF-8. -/
def threeOctets : List UInt8 → Nat
  | a :: b :: c :: _ => (a.toNat % 0x10 * 0x40 + b.toNat % 0x40) * 0x40 + c.toNat % 0x40
  | _ => 0xfffd

/-- The code points of octets from the characters that are read when their surrogates are replaced: a replacement character stands for
whatever three octets hold at its place. -/
def restoreSurrogates : List UInt8 → List Char → List Nat
  | _, [] => []
  | bs, c :: cs => (if c = '\uFFFD' then threeOctets bs else c.toNat) :: restoreSurrogates (bs.drop c.utf8Size) cs

/-- The code points that octets hold in UTF-8, surrogates included. -/
def decodeWithSurrogates (bs : List UInt8) : Except Utf8.Flaw (List Nat) :=
  (Utf8.decode (replaceSurrogates bs)).map (restoreSurrogates bs)

/-- The code points that octets hold in the encoding they begin in. -/
def decodeDetected (bs : List UInt8) : Except EncodingFlaw (List Nat) :=
  let (encoding, mark, position) := Encoding.detect bs
  match encoding with
  | .utf8 => (decodeWithSurrogates (bs.drop mark)).mapError Utf8.Flaw.toEncodingFlaw
  | .utf16 order => (utf16Units order position (bs.drop mark)).map utf16Codes
  | .utf32 order => utf32Codes order position (bs.drop mark)

end OAuthClient.Text
