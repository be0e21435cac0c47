import OAuthClient.Text.Split

/-!
# Classes of characters, and white space

A class of characters is a list of closed ranges of code points. The tables of the text modules are such lists, in increasing
order.

The blank characters are those of Unicode together with the information separators U+001C to U+001F: the class that separates
the words of a scope and is removed at the ends of a text.
-/

namespace OAuthClient.Text

/-- A character is in a list of ranges when its code point lies between the two ends of one of them, ends included. -/
def inRanges (ranges : List (Nat × Nat)) (c : Char) : Bool :=
  ranges.any fun r => r.1 ≤ c.toNat && c.toNat ≤ r.2

/-- The ranges of the blank characters. -/
def blankRanges : List (Nat × Nat) :=
  [(0x9, 0xd), (0x1c, 0x20), (0x85, 0x85), (0xa0, 0xa0), (0x1680, 0x1680), (0x2000, 0x200a), (0x2028, 0x2029), (0x202f, 0x202f),
    (0x205f, 0x205f), (0x3000, 0x3000)]

/-- A blank character. -/
def isBlank (c : Char) : Bool :=
  inRanges blankRanges c

/-- Whether a character has the property White_Space: the blank characters without the information separators. -/
def isWhiteSpace (c : Char) : Bool :=
  isBlank c && !(0x1c ≤ c.toNat && c.toNat ≤ 0x1f)

/-- The text without the blank characters at its ends. -/
def strip (s : String) : String :=
  String.ofList (trim isBlank s.toList)

/-- The words of a text: its longest parts without a blank character, in order. -/
def words (s : String) : List String :=
  ((piecesBy isBlank s.toList).filter (!·.isEmpty)).map String.ofList

end OAuthClient.Text
