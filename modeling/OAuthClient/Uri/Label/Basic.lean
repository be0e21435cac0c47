import OAuthClient.Uri.Label.Composition
import OAuthClient.Uri.Label.Context
import OAuthClient.Uri.Label.Direction
import OAuthClient.Uri.Label.Permitted
import OAuthClient.Uri.Punycode

/-!
# Labels

The parts of an international host name between the dots. A label is in composed form, does not begin with a mark, has hyphens
only inside and not at its third and fourth place, holds permitted code points only, and runs in one direction. In its ASCII form
it has at most 63 characters.
-/

namespace OAuthClient.Uri.Label

/-- The code point of the hyphen. -/
def hyphen : Nat := 0x2d

/-- Whether the hyphens of a label stand where they may. -/
def hyphensFit (cs : List Nat) : Bool :=
  cs.head? ≠ some hyphen && cs.getLast? ≠ some hyphen && (cs.drop 2).take 2 ≠ [hyphen, hyphen]

/-- Whether all code points of a label are permitted where they stand. The first argument is what was read, backwards. -/
def allFit : List Nat → List Nat → Bool
  | _, [] => true
  | before, c :: after => (isPermitted c || fitsContext before c after) && allFit (c :: before) after

/-- Whether a text is a label. -/
def isValid (cs : List Nat) : Bool :=
  !cs.isEmpty && cs.length ≤ 254 && allFit [] cs && hyphensFit cs && !(cs.head?.map isMark).getD false && composed cs = cs &&
    inOrder (cs.map direction)

/-- The beginning of the ASCII form of a label that has more than ASCII. -/
def asciiMark : List Nat := [0x78, 0x6e, 0x2d, 0x2d]

/-- The ASCII form of a label, when it is one or stands for one. -/
def ascii? (cs : List Nat) : Option (List Nat) :=
  if cs.all (· < 0x80) then
    if cs.take 4 = asciiMark then
      let tail := cs.drop 4
      match if tail.isEmpty || tail.getLast? = some hyphen then none else Punycode.read tail with
      | some label => if isValid label then some cs else none
      | none => none
    else if isValid cs then some cs else none
  else if isValid cs then some (asciiMark ++ Punycode.write cs) else none

end OAuthClient.Uri.Label
