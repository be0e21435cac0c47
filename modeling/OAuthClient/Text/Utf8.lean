import OAuthClient.Text.Digit

/-!
# UTF-8

Text as octets and back. Reading goes octet by octet and gives, in order, the characters and the flaws: a flaw is a longest run
of octets that begins a character but cannot be continued to one, or a single octet that begins none. The strict reading stops
at the first flaw, the lenient one puts the replacement character in its place.
-/

namespace OAuthClient.Text.Utf8

/-- The octets of a text. -/
def encode (cs : List Char) : List UInt8 :=
  cs.flatMap String.utf8EncodeChar

/-- Why octets are not a character. -/
inductive Reason where
  /-- The first octet begins no character. -/
  | start
  /-- The next octet cannot continue the character. -/
  | continuation
  /-- The octets end inside the character. -/
  | ending
  deriving DecidableEq, Repr

/-- The words for a reason. -/
def Reason.message : Reason → String
  | .start => "invalid start byte"
  | .continuation => "invalid continuation byte"
  | .ending => "unexpected end of data"

/-- Octets that are not a character: why, where they start, and which they are. -/
structure Flaw where
  reason : Reason
  start : Nat
  octets : List UInt8
  deriving DecidableEq, Repr

/-- A character or a flaw of an octet string. -/
inductive Item where
  | char (c : Char)
  | flaw (f : Flaw)
  deriving DecidableEq, Repr

/-- A character that has begun: its bits so far, how many octets are missing, the bounds of the next octet, where it started and
the octets seen, latest first. -/
structure Pending where
  bits : Nat
  missing : Nat
  low : Nat
  high : Nat
  start : Nat
  seen : List UInt8

/-- What a first octet gives: a character or a flaw at once, or a character that has begun. The bounds for the second octet keep
out overlong forms, surrogates and code points past the last. -/
def start (position : Nat) (b : UInt8) : List Item × Option Pending :=
  let n := b.toNat
  let more (bits missing low high : Nat) : List Item × Option Pending :=
    ([], some { bits, missing, low, high, start := position, seen := [b] })
  if n < 0x80 then ([.char (Char.ofNat n)], none)
  else if n < 0xc2 then ([.flaw ⟨.start, position, [b]⟩], none)
  else if n < 0xe0 then more (n - 0xc0) 1 0x80 0xbf
  else if n = 0xe0 then more 0x0 2 0xa0 0xbf
  else if n = 0xed then more 0xd 2 0x80 0x9f
  else if n < 0xf0 then more (n - 0xe0) 2 0x80 0xbf
  else if n = 0xf0 then more 0x0 3 0x90 0xbf
  else if n < 0xf4 then more (n - 0xf0) 3 0x80 0xbf
  else if n = 0xf4 then more 0x4 3 0x80 0x8f
  else ([.flaw ⟨.start, position, [b]⟩], none)

/-- The characters and flaws of an octet string, from a position on and after a character that has begun. -/
def scan : Nat → Option Pending → List UInt8 → List Item
  | _, none, [] => []
  | _, some p, [] => [.flaw ⟨.ending, p.start, p.seen.reverse⟩]
  | position, none, b :: bs =>
    let (items, next) := start position b
    items ++ scan (position + 1) next bs
  | position, some p, b :: bs =>
    if p.low ≤ b.toNat && b.toNat ≤ p.high then
      let bits := p.bits * 0x40 + b.toNat % 0x40
      if p.missing ≤ 1 then .char (Char.ofNat bits) :: scan (position + 1) none bs
      else scan (position + 1) (some ⟨bits, p.missing - 1, 0x80, 0xbf, p.start, b :: p.seen⟩) bs
    else
      let (items, next) := start position b
      .flaw ⟨.continuation, p.start, p.seen.reverse⟩ :: (items ++ scan (position + 1) next bs)

/-- The characters of a list of items up to the first flaw. -/
def strict : List Item → Except Flaw (List Char)
  | [] => .ok []
  | .char c :: items => (strict items).map (c :: ·)
  | .flaw f :: _ => .error f

/-- The text of an octet string, or its first flaw. -/
def decode (bs : List UInt8) : Except Flaw (List Char) :=
  strict (scan 0 none bs)

/-- The text of an octet string, with the replacement character in the place of every flaw. -/
def decodeLenient (bs : List UInt8) : List Char :=
  (scan 0 none bs).map fun
    | .char c => c
    | .flaw _ => '\uFFFD'

end OAuthClient.Text.Utf8
