import OAuthClient.Text.Digit
import OAuthClient.Text.Split

/-!
# Numeric addresses

The written forms of the two versions of IP addresses. The forms are strict: no leading zeros in a decimal part, at most four
hexadecimal digits in a group, and at most one run of zero groups left out.
-/

namespace OAuthClient.Address

open OAuthClient.Text

/-- A part of a version 4 address: a decimal number up to 255 without leading zeros. -/
def isDecimalPart (cs : List Char) : Bool :=
  !cs.isEmpty && cs.all isAsciiDigit && cs.length ≤ 3 && (cs == ['0'] || cs.head? != some '0') &&
    cs.foldl (fun n c => n * 10 + (c.toNat - 0x30)) 0 ≤ 255

/-- A version 4 address: four parts with points between them. -/
def isV4 (cs : List Char) : Bool :=
  let parts := pieces '.' cs
  parts.length = 4 && parts.all isDecimalPart

/-- A group of a version 6 address: one to four hexadecimal digits. -/
def isGroup (cs : List Char) : Bool :=
  !cs.isEmpty && cs.length ≤ 4 && cs.all fun c => (hexValue? c).isSome

/-- The groups of a version 6 address, where a version 4 address at the end counts as two groups. -/
def groups (cs : List Char) : Option (List (List Char)) :=
  let parts := pieces ':' cs
  if parts.length < 3 then none
  else
    let last := parts.getLastD []
    if last.contains '.' then if isV4 last then some (parts.dropLast ++ [['0'], ['0']]) else none
    else some parts

/-- Groups that are all there, or that leave out one run of zeros, written as an empty group. At either end of the address the
empty group stands beside another one. -/
def areGroups (parts : List (List Char)) : Bool :=
  let inner := (parts.drop 1).dropLast
  let empty := inner.count []
  if 9 < parts.length || 1 < empty then false
  else if empty = 0 then parts.length = 8 && parts.all isGroup
  else
    let before := parts.take (1 + inner.idxOf [])
    let after := parts.drop (2 + inner.idxOf [])
    let high := if before == [[]] then [] else before
    let low := if after == [[]] then [] else after
    high.length + low.length < 8 && high.all isGroup && low.all isGroup

/-- A version 6 address, with or without a zone after a percent sign. -/
def isV6 (cs : List Char) : Bool :=
  let (address, zone) := cut '%' cs
  !cs.contains '/' && zone.all (fun z => !z.isEmpty && !z.contains '%') && ((groups address).map areGroups).getD false

end OAuthClient.Address
