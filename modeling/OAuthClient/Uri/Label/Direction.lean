import OAuthClient.Uri.Label.Mark

/-!
# Writing direction

A label that is written from right to left, or has a part that is, must not run into its neighbours: it begins with a letter,
ends with a letter or a digit, and mixes neither directions nor kinds of digits.
-/

namespace OAuthClient.Uri.Label

/-- The class of a code point in the order of writing. -/
inductive Direction where
  | leftToRight
  | right
  | arabic
  | arabicNumber
  | number
  | separator
  | neutral
  | boundary
  | nonspacing
  deriving DecidableEq, Repr

/-- The ranges of the code points of labels that are neither written from left to right nor nonspacing marks, with the class. -/
def directionRanges : List (Nat × Nat × Direction) :=
  [(0x2d, 0x2d, .separator), (0x30, 0x39, .number), (0xb7, 0xb7, .neutral), (0x2b9, 0x2ba, .neutral),
   (0x2c6, 0x2cf, .neutral), (0x2ec, 0x2ec, .neutral), (0x375, 0x375, .neutral), (0x5d0, 0x5f4, .right),
   (0x620, 0x64a, .arabic), (0x660, 0x669, .arabicNumber), (0x66e, 0x66f, .arabic), (0x671, 0x6d5, .arabic),
   (0x6e5, 0x6e6, .arabic), (0x6ee, 0x6ef, .arabic), (0x6f0, 0x6f9, .number), (0x6fa, 0x710, .arabic),
   (0x712, 0x72f, .arabic), (0x74d, 0x7a5, .arabic), (0x7b1, 0x7b1, .arabic), (0x7c0, 0x7ea, .right), (0x7f4, 0x7f5, .right),
   (0x800, 0x815, .right), (0x81a, 0x81a, .right), (0x824, 0x824, .right), (0x828, 0x828, .right), (0x840, 0x858, .right),
   (0x860, 0x88e, .arabic), (0x8a0, 0x8c9, .arabic), (0x200c, 0x200d, .boundary), (0x2e2f, 0x2e2f, .neutral),
   (0x30fb, 0x30fb, .neutral), (0xa67f, 0xa67f, .neutral), (0xa717, 0xa71f, .neutral), (0xa788, 0xa788, .neutral),
   (0xfe73, 0xfe73, .arabic), (0x10800, 0x10a00, .right), (0x10a10, 0x10a35, .right), (0x10a60, 0x10ae4, .right),
   (0x10b00, 0x10cf2, .right), (0x10d00, 0x10d23, .arabic), (0x10d30, 0x10d39, .arabicNumber), (0x10e80, 0x10ea9, .right),
   (0x10eb0, 0x10f27, .right), (0x10f30, 0x10f45, .arabic), (0x10f70, 0x10f81, .right), (0x10fb0, 0x10ff6, .right),
   (0x1e800, 0x1e8c4, .right), (0x1e922, 0x1e943, .right), (0x1e94b, 0x1e959, .right)]

/-- The class of a code point of a label. -/
def direction (c : Nat) : Direction :=
  if isNonspacing c then .nonspacing
  else ((directionRanges.find? fun r => r.1 ≤ c && c ≤ r.2.1).map (·.2.2)).getD .leftToRight

/-- Whether a class is written from right to left. -/
def Direction.isRightward : Direction → Bool
  | .right | .arabic | .arabicNumber => true
  | _ => false

/-- The last of the classes of a label that is not that of a nonspacing mark. -/
def lastDirection (ds : List Direction) : Option Direction :=
  (ds.filter (· ≠ .nonspacing)).getLast?

/-- Whether the classes of a label are in order. A label of which no part is written from right to left always is. -/
def inOrder (ds : List Direction) : Bool :=
  if !ds.any Direction.isRightward then true
  else (ds.head? = some .right || ds.head? = some .arabic) && !ds.contains .leftToRight &&
    !(ds.contains .number && ds.contains .arabicNumber) &&
    ((lastDirection ds).map fun d => d.isRightward || d = .number).getD false

end OAuthClient.Uri.Label
