/-!
# Punycode

Code points beyond ASCII written with ASCII letters and digits: first what is ASCII, then, behind a hyphen, for every other code
point in increasing order the distance to the one before, as a number whose digits have weights that adapt to what came before.
-/

namespace OAuthClient.Uri.Punycode

/-- The first code point that is written as a distance. -/
def firstCode : Nat := 0x80

/-- The weight below which a digit ends its number, for the digit at a place. -/
def threshold (place bias : Nat) : Nat :=
  min 26 (max 1 (36 * (place + 1) - bias))

/-- Makes a distance small by a divisor and counts how often. The first argument bounds the steps. -/
def shrink : Nat → Nat → Nat × Nat
  | 0, delta => (delta, 0)
  | fuel + 1, delta =>
    if 455 < delta then
      let (rest, steps) := shrink fuel (delta / 35)
      (rest, steps + 36)
    else (delta, 0)

/-- The bias behind a distance, from the count of code points that there are then. -/
def adapt (delta count : Nat) (first : Bool) : Nat :=
  let delta := if first then delta / 700 else delta / 2
  let delta := delta + delta / count
  let (rest, steps) := shrink delta delta
  steps + 36 * rest / (rest + 38)

/-! ## Writing -/

/-- The digit for a value below 36: a small letter, or behind the letters a decimal digit. -/
def digit (n : Nat) : Nat :=
  if n < 26 then 0x61 + n else 0x30 + (n - 26)

/-- The digits of a number, the least first. The first argument bounds their count. -/
def digits : Nat → Nat → Nat → Nat → List Nat
  | 0, _, _, _ => []
  | fuel + 1, place, bias, n =>
    let t := threshold place bias
    if n < t then [digit n] else digit (t + (n - t) % (36 - t)) :: digits fuel (place + 1) bias ((n - t) / (36 - t))

/-- What is written so far: the count of code points, the distance to the next one, the bias, and the digits. -/
structure Writing where
  count : Nat
  delta : Nat
  bias : Nat
  first : Bool
  out : List Nat

/-- One code point of the text while those of a value are written. -/
def Writing.pass (value : Nat) (w : Writing) (c : Nat) : Writing :=
  if c < value then { w with delta := w.delta + 1 }
  else if c = value then
    { count := w.count + 1
      delta := 0
      bias := adapt w.delta (w.count + 1) w.first
      first := false
      out := w.out ++ digits (w.delta + 1) 0 w.bias w.delta }
  else w

/-- Writes the code points of a text from a value on. The first argument bounds the count of values. -/
def writeFrom (cs : List Nat) : Nat → Nat → Writing → List Nat
  | 0, _, w => w.out
  | fuel + 1, least, w =>
    match (cs.filter (least ≤ ·)).min? with
    | none => w.out
    | some value =>
      let w := cs.foldl (Writing.pass value) { w with delta := w.delta + (value - least) * (w.count + 1) }
      writeFrom cs fuel (value + 1) { w with delta := w.delta + 1 }

/-- The written form of a text. -/
def write (cs : List Nat) : List Nat :=
  let plain := cs.filter (· < firstCode)
  (if plain.isEmpty then [] else plain ++ [0x2d]) ++
    writeFrom cs cs.length firstCode { count := plain.length, delta := 0, bias := 72, first := true, out := [] }

/-! ## Reading -/

/-- The value of a digit: a letter in either case, or a decimal digit. -/
def digit? (c : Nat) : Option Nat :=
  if 0x61 ≤ c && c ≤ 0x7a then some (c - 0x61)
  else if 0x41 ≤ c && c ≤ 0x5a then some (c - 0x41)
  else if 0x30 ≤ c && c ≤ 0x39 then some (c - 0x30 + 26)
  else none

/-- The number at the start of a text, added up with the weights of its digits, and what follows it. -/
def readNumber (bias : Nat) : Nat → Nat → Nat → List Nat → Option (Nat × List Nat)
  | _, _, _, [] => none
  | place, weight, sum, c :: cs =>
    match digit? c with
    | none => none
    | some d =>
      let t := threshold place bias
      let sum := sum + d * weight
      if d < t then some (sum, cs) else readNumber bias (place + 1) (weight * (36 - t)) sum cs

/-- The code points that a text of numbers puts into a text. The first argument bounds their count. -/
def readFrom : Nat → List Nat → Nat → Nat → Nat → Bool → List Nat → Option (List Nat)
  | _, [], _, _, _, _, out => some out
  | 0, _ :: _, _, _, _, _, _ => none
  | fuel + 1, cs, code, place, bias, first, out => do
    let (delta, rest) ← readNumber bias 0 1 0 cs
    let size := out.length + 1
    let place := place + delta
    let code := code + place / size
    if 0x10ffff < code then none
    else
      let spot := place % size
      readFrom fuel rest code (spot + 1) (adapt delta size first) false (out.take spot ++ code :: out.drop spot)

/-- The text that a written form stands for. -/
def read (cs : List Nat) : Option (List Nat) :=
  let tail := (cs.reverse.takeWhile (· ≠ 0x2d)).reverse
  let plain := cs.take (cs.length - tail.length)
  readFrom tail.length tail firstCode 0 72 true plain.dropLast

end OAuthClient.Uri.Punycode
