/-!
# Punycode

ASCII spellings of labels. The ASCII characters of a label come first, then the others in ascending
order, each as the distance from the one before, counted in code points and positions together. A
distance is a number of digits in base thirty-six, whose last digit is the one below a threshold
that adapts to the distances so far.
-/

namespace SessionKeeper.Url.Punycode

/-- A digit: a letter for the first twenty-six, then a decimal digit. -/
def digit (n : Nat) : Char :=
  if n < 26 then Char.ofNat (n + 97) else Char.ofNat (n + 22)

/-- The value of a digit. -/
def value? (c : Char) : Option Nat :=
  if c.isDigit then some (c.toNat - 22)
  else if 'a' ≤ c ∧ c ≤ 'z' then some (c.toNat - 97)
  else none

/-- Divides a distance until it is small, and counts the positions that this takes. -/
def adaptFrom (k distance : Nat) : Nat :=
  if 455 < distance then adaptFrom (k + 36) (distance / 35)
  else k + 36 * distance / (distance + 38)
termination_by distance

/-- The bias after a distance, when `count` characters are known. -/
def adapt (distance count : Nat) (isFirst : Bool) : Nat :=
  let distance := if isFirst then distance / 700 else distance / 2
  adaptFrom 0 (distance + distance / count)

/-- The threshold of a position under a bias. -/
def threshold (k bias : Nat) : Nat :=
  if k ≤ bias + 1 then 1 else if bias + 26 ≤ k then 26 else k - bias

theorem threshold_pos (k bias : Nat) : 0 < threshold k bias := by
  unfold threshold
  split
  · exact Nat.one_pos
  · split <;> omega

/-- The first position of a distance. -/
def firstPosition : Nat := 36

/-- The bias before the first distance. -/
def initialBias : Nat := 72

/-- The first code point that is not ASCII. -/
def initialPoint : Nat := 0x80

/-- The largest number that a distance may come to. -/
def largest : Nat := Nat.pow 2 32 - 1

/-- A distance as digits from a position on. -/
def writeDistance (bias k q : Nat) : List Char :=
  if q < threshold k bias then [digit q]
  else
    digit (threshold k bias + (q - threshold k bias) % (36 - threshold k bias)) ::
      writeDistance bias (k + 36) ((q - threshold k bias) / (36 - threshold k bias))
termination_by q
decreasing_by
  have hpos := threshold_pos k bias
  have hdiv := Nat.div_le_self (q - threshold k bias) (36 - threshold k bias)
  omega

/-- How far a label is written: the distance from the last character, the bias, the number of
characters that are known, and the text. -/
structure Writing where
  distance : Nat
  bias : Nat
  known : Nat
  text : List Char

/-- Passes a character of the label while those of the code point `point` are written. -/
def Writing.pass (basic point : Nat) (s : Writing) (c : Char) : Writing :=
  if c.toNat < point then { s with distance := s.distance + 1 }
  else if c.toNat = point then
    ⟨0, adapt s.distance (s.known + 1) (s.known == basic), s.known + 1,
      s.text ++ writeDistance s.bias firstPosition s.distance⟩
  else s

/-- Writes the characters of code points, in ascending order, of which `next` may be the first. -/
def writeFrom (label : List Char) (basic next : Nat) : List Nat → Writing → List Char
  | [], s => s.text
  | point :: points, s =>
    let s := { s with distance := s.distance + (point - next) * (s.known + 1) }
    let s := label.foldl (Writing.pass basic point) s
    writeFrom label basic (point + 1) points { s with distance := s.distance + 1 }

/-- A label in Punycode. -/
def encode (label : List Char) : List Char :=
  let basic := label.filter fun c => c.toNat < initialPoint
  let points := (label.map Char.toNat).filter fun n => initialPoint ≤ n
  let lead := if basic = [] then [] else basic ++ ['-']
  writeFrom label basic.length initialPoint (points.eraseDups.mergeSort fun m n => m ≤ n)
    ⟨0, initialBias, basic.length, lead⟩

/-- How far a label is read: its characters so far, the code point and position that the last
distance led to, and of the distance that is read its start, its position, the weight of its next
digit, and the bias. -/
structure Reading where
  label : List Char
  point : Nat
  index : Nat
  start : Nat
  k : Nat
  weight : Nat
  bias : Nat

/-- Puts in the character that a distance leads to. -/
def Reading.finish (s : Reading) : Option Reading :=
  let count := s.label.length + 1
  let point := s.point + s.index / count
  let position := s.index % count
  if point.isValidChar then
    some
      { label := s.label.take position ++ Char.ofNat point :: s.label.drop position
        point := point
        index := position + 1
        start := position + 1
        k := firstPosition
        weight := 1
        bias := adapt (s.index - s.start) count (s.start == 0) }
  else none

/-- Reads a digit. -/
def Reading.next (s : Reading) (c : Char) : Option Reading :=
  match value? c with
  | none => none
  | some n =>
    let index := s.index + n * s.weight
    let t := threshold s.k s.bias
    if largest < index then none
    else if n < t then { s with index := index }.finish
    else if largest < s.weight * (36 - t) then none
    else some { s with index := index, k := s.k + 36, weight := s.weight * (36 - t) }

/-- Splits at the last hyphen, which is left out unless it is the first character. -/
def splitBasic (code : List Char) : List Char × List Char :=
  match code.reverse.dropWhile fun c => c != '-' with
  | [] => ([], code)
  | [_] => ([], code)
  | _ :: basic => (basic.reverse, (code.reverse.takeWhile fun c => c != '-').reverse)

/-- Reads a label in Punycode. -/
def decode (code : List Char) : Option (List Char) :=
  match splitBasic code with
  | (basic, digits) =>
    match digits.foldlM Reading.next ⟨basic, initialPoint, 0, 0, firstPosition, 1, initialBias⟩ with
    | none => none
    | some s => if s.k = firstPosition then some s.label else none

end SessionKeeper.Url.Punycode
