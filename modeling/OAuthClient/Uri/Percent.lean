import OAuthClient.Text.Utf8

/-!
# Percent encoding

Text inside a URL: letters, digits and four marks stand for themselves, every other character for the octets of its UTF-8 form,
each as a percent sign and two hexadecimal digits. Reading is lenient: a percent sign without two digits stands for itself, and
octets that are no text are read as replacement characters.
-/

namespace OAuthClient.Percent

open OAuthClient.Text

/-- The characters that stand for themselves. -/
def isUnreserved (c : Char) : Bool :=
  isAsciiLetter c || isAsciiDigit c || c == '_' || c == '.' || c == '-' || c == '~'

/-- A hexadecimal digit, letters in upper case. -/
def hexChar (n : Nat) : Char :=
  Char.ofNat (if n < 10 then 0x30 + n else 0x37 + n)

/-- An octet in percent form. -/
def encodeOctet (b : UInt8) : List Char :=
  ['%', hexChar (b.toNat / 16), hexChar (b.toNat % 16)]

/-- A character in encoded form, unless it is one of those that are kept. -/
def encodeChar (kept : Char → Bool) (c : Char) : List Char :=
  if kept c then [c] else (String.utf8EncodeChar c).flatMap encodeOctet

/-- A text in encoded form, but for the characters that are kept. -/
def encodeExcept (kept : Char → Bool) (cs : List Char) : List Char :=
  cs.flatMap (encodeChar kept)

/-- A text in encoded form. -/
def encode (cs : List Char) : List Char :=
  encodeExcept isUnreserved cs

/-- The octets that an encoded text stands for. -/
def octets : List Char → List UInt8
  | [] => []
  | [a] => String.utf8EncodeChar a
  | [a, b] => String.utf8EncodeChar a ++ String.utf8EncodeChar b
  | a :: b :: c :: cs =>
    if a == '%' then
      match hexValue? b, hexValue? c with
      | some high, some low => UInt8.ofNat (high * 16 + low) :: octets cs
      | _, _ => String.utf8EncodeChar a ++ octets (b :: c :: cs)
    else String.utf8EncodeChar a ++ octets (b :: c :: cs)

/-- The text that an encoded text stands for. A character beyond ASCII begins an octet that continues nothing, so it ends the
octets before it. -/
def decode (cs : List Char) : List Char :=
  Utf8.decodeLenient (octets cs)

end OAuthClient.Percent
