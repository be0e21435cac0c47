import OAuthClient.Uri.Label.Mark

/-!
# Code points that need a context

Some code points are permitted in a label only where their neighbours call for them: invisible joiners between letters that
join, and some dots, signs and digits among letters or digits of their script.
-/

namespace OAuthClient.Uri.Label

/-! ## Joining -/

/-- To which sides a letter joins. -/
inductive Joining where
  | left
  | right
  | dual
  deriving DecidableEq, Repr

/-- The ranges of the letters that join, with the sides. -/
def joiningRanges : List (Nat × Nat × Joining) :=
  [(0x620, 0x620, .dual), (0x622, 0x625, .right), (0x626, 0x626, .dual), (0x627, 0x627, .right), (0x628, 0x628, .dual),
   (0x629, 0x629, .right), (0x62a, 0x62e, .dual), (0x62f, 0x632, .right), (0x633, 0x647, .dual), (0x648, 0x648, .right),
   (0x649, 0x64a, .dual), (0x66e, 0x66f, .dual), (0x671, 0x673, .right), (0x679, 0x687, .dual), (0x688, 0x699, .right),
   (0x69a, 0x6bf, .dual), (0x6c0, 0x6c0, .right), (0x6c1, 0x6c2, .dual), (0x6c3, 0x6cb, .right), (0x6cc, 0x6cc, .dual),
   (0x6cd, 0x6cd, .right), (0x6ce, 0x6ce, .dual), (0x6cf, 0x6cf, .right), (0x6d0, 0x6d1, .dual), (0x6d2, 0x6d5, .right),
   (0x6ee, 0x6ef, .right), (0x6fa, 0x6fc, .dual), (0x6ff, 0x6ff, .dual), (0x710, 0x710, .right), (0x712, 0x714, .dual),
   (0x715, 0x719, .right), (0x71a, 0x71d, .dual), (0x71e, 0x71e, .right), (0x71f, 0x727, .dual), (0x728, 0x728, .right),
   (0x729, 0x729, .dual), (0x72a, 0x72a, .right), (0x72b, 0x72b, .dual), (0x72c, 0x72c, .right), (0x72d, 0x72e, .dual),
   (0x72f, 0x72f, .right), (0x74d, 0x74d, .right), (0x74e, 0x758, .dual), (0x759, 0x75b, .right), (0x75c, 0x76a, .dual),
   (0x76b, 0x76c, .right), (0x76d, 0x770, .dual), (0x771, 0x771, .right), (0x772, 0x772, .dual), (0x773, 0x774, .right),
   (0x775, 0x777, .dual), (0x778, 0x779, .right), (0x77a, 0x77f, .dual), (0x7ca, 0x7ea, .dual), (0x840, 0x840, .right),
   (0x841, 0x845, .dual), (0x846, 0x847, .right), (0x848, 0x848, .dual), (0x849, 0x849, .right), (0x84a, 0x853, .dual),
   (0x854, 0x854, .right), (0x855, 0x855, .dual), (0x856, 0x858, .right), (0x860, 0x860, .dual), (0x862, 0x865, .dual),
   (0x867, 0x867, .right), (0x868, 0x868, .dual), (0x869, 0x882, .right), (0x886, 0x886, .dual), (0x889, 0x88d, .dual),
   (0x88e, 0x88e, .right), (0x8a0, 0x8a9, .dual), (0x8aa, 0x8ac, .right), (0x8ae, 0x8ae, .right), (0x8af, 0x8b0, .dual),
   (0x8b1, 0x8b2, .right), (0x8b3, 0x8b8, .dual), (0x8b9, 0x8b9, .right), (0x8ba, 0x8c8, .dual), (0x1820, 0x1878, .dual),
   (0x1887, 0x18a8, .dual), (0x18aa, 0x18aa, .dual), (0xa840, 0xa871, .dual), (0xa872, 0xa872, .left),
   (0x10ac0, 0x10ac4, .dual), (0x10ac5, 0x10ac5, .right), (0x10ac7, 0x10aca, .right), (0x10acd, 0x10acd, .left),
   (0x10ace, 0x10ad2, .right), (0x10ad3, 0x10ad6, .dual), (0x10ad7, 0x10ad7, .left), (0x10ad8, 0x10adc, .dual),
   (0x10add, 0x10add, .right), (0x10ade, 0x10ae0, .dual), (0x10ae1, 0x10ae1, .right), (0x10ae4, 0x10ae4, .right),
   (0x10b80, 0x10b80, .dual), (0x10b81, 0x10b81, .right), (0x10b82, 0x10b82, .dual), (0x10b83, 0x10b85, .right),
   (0x10b86, 0x10b88, .dual), (0x10b89, 0x10b89, .right), (0x10b8a, 0x10b8b, .dual), (0x10b8c, 0x10b8c, .right),
   (0x10b8d, 0x10b8d, .dual), (0x10b8e, 0x10b8f, .right), (0x10b90, 0x10b90, .dual), (0x10b91, 0x10b91, .right),
   (0x10d00, 0x10d00, .left), (0x10d01, 0x10d21, .dual), (0x10d22, 0x10d22, .right), (0x10d23, 0x10d23, .dual),
   (0x10f30, 0x10f32, .dual), (0x10f33, 0x10f33, .right), (0x10f34, 0x10f44, .dual), (0x10f70, 0x10f73, .dual),
   (0x10f74, 0x10f75, .right), (0x10f76, 0x10f81, .dual), (0x10fb0, 0x10fb0, .dual), (0x10fb2, 0x10fb3, .dual),
   (0x10fb4, 0x10fb6, .right), (0x10fb8, 0x10fb8, .dual), (0x10fb9, 0x10fba, .right), (0x10fbb, 0x10fbc, .dual),
   (0x10fbd, 0x10fbd, .right), (0x10fbe, 0x10fbf, .dual), (0x10fc1, 0x10fc1, .dual), (0x10fc2, 0x10fc3, .right),
   (0x10fc4, 0x10fc4, .dual), (0x1e922, 0x1e943, .dual)]

/-- To which sides a code point joins, where it does. -/
def joining? (c : Nat) : Option Joining :=
  (joiningRanges.find? fun r => r.1 ≤ c && c ≤ r.2.1).map (·.2.2)

/-- Whether letters join across a code point: across nonspacing marks, but for one, and across some vowel signs. -/
def isTransparent (c : Nat) : Bool :=
  (isNonspacing c && c ≠ 0x1171e) || [0xcbf, 0xcc6, 0x11a07, 0x11a08, 0x11c3f, 0x1e94b].contains c

/-- The joining of the nearest code point that is not joined across. -/
def nearestJoining? (cs : List Nat) : Option Joining :=
  ((cs.dropWhile isTransparent).head?).bind joining?

/-! ## Scripts -/

/-- The ranges of the Greek code points. -/
def greekRanges : List (Nat × Nat) :=
  [(0x371, 0x3e1), (0x3f3, 0x3fc), (0x1d26, 0x1d2a), (0x1f00, 0x1ff6), (0xab65, 0xab65)]

/-- The ranges of the Hebrew code points. -/
def hebrewRanges : List (Nat × Nat) :=
  [(0x591, 0x5f4), (0xfb1e, 0xfb1e)]

/-- The ranges of the code points of Hiragana, Katakana and Han. -/
def japaneseRanges : List (Nat × Nat) :=
  [(0x3041, 0x3096), (0x309d, 0x309e), (0x1b001, 0x1b11f), (0x1b150, 0x1b152)] ++
  [(0x30a1, 0x30fa), (0x30fd, 0x30fe), (0x31f0, 0x31ff), (0x1aff0, 0x1b000), (0x1b120, 0x1b122), (0x1b164, 0x1b167)] ++
  [(0x3005, 0x3005), (0x3007, 0x3007), (0x3400, 0x9fff), (0xfa0e, 0xfa29), (0x16fe3, 0x16fe3), (0x16ff0, 0x16ff1),
   (0x20000, 0x3134a)]

/-- Whether a code point is in one of several ranges. -/
def isIn (ranges : List (Nat × Nat)) (c : Nat) : Bool :=
  ranges.any fun r => r.1 ≤ c && c ≤ r.2

/-- An Arabic digit. -/
def isArabicDigit (c : Nat) : Bool := 0x660 ≤ c && c ≤ 0x669

/-- An Arabic digit of the extended set. -/
def isExtendedArabicDigit (c : Nat) : Bool := 0x6f0 ≤ c && c ≤ 0x6f9

/-! ## Contexts -/

/-- Whether a code point is permitted between what stands before it, backwards, and what stands after it. -/
def fitsContext (before : List Nat) (c : Nat) (after : List Nat) : Bool :=
  let behindVirama : Bool := before.head?.map combiningClass = some viramaClass
  let label := before.reverse ++ c :: after
  if c = 0x200c then
    behindVirama ||
      (((nearestJoining? before).map fun j => j = .left || j = .dual).getD false &&
        ((nearestJoining? after).map fun j => j = .right || j = .dual).getD false)
  else if c = 0x200d then behindVirama
  else if c = 0xb7 then before.head? = some 0x6c && after.head? = some 0x6c
  else if c = 0x375 then (after.head?.map (isIn greekRanges)).getD false
  else if c = 0x5f3 || c = 0x5f4 then (before.head?.map (isIn hebrewRanges)).getD false
  else if c = 0x30fb then label.any fun d => d ≠ 0x30fb && isIn japaneseRanges d
  else if isArabicDigit c then !label.any isExtendedArabicDigit
  else if isExtendedArabicDigit c then !label.any isArabicDigit
  else false

end OAuthClient.Uri.Label
