import SessionKeeper.Json.Token

/-!
# Numbers

An integer literal that fits 64 bits stays an integer; every other number is a double. The double is
the significand, of which the digits beyond 64 bits are dropped, scaled by a power of ten in one
rounding step, so the last bit need not be the nearest one.
-/

namespace SessionKeeper.Json

/-- A number as it was read. -/
inductive Number
  | natural (n : Nat)
  | negative (n : Int)
  | floating (bits : UInt64)
  deriving DecidableEq, Repr

/-- The number as an error names it. -/
def Number.found : Number → Found
  | .natural n => .integer n
  | .negative n => .integer n
  | .floating bits => .floating bits

/-- The largest significand. -/
def maxSignificand : Nat := Nat.pow 2 64 - 1

/-- The value of a decimal digit. -/
def digit (c : Char) : Nat :=
  c.toNat - 48

/-- Appends digits to a significand as long as it fits, and counts the digits dropped after that. -/
def readSignificand (significand dropped : Nat) : List Char → Nat × Nat × List Char
  | [] => (significand, dropped, [])
  | c :: cs =>
    if c.isDigit then
      if dropped = 0 ∧ significand * 10 + digit c ≤ maxSignificand then
        readSignificand (significand * 10 + digit c) 0 cs
      else
        readSignificand significand (dropped + 1) cs
    else
      (significand, dropped, c :: cs)

/-- Appends the digits behind a point. Gives the significand, the number of digits it took in, and
the rest behind all the digits. -/
def readFraction (significand taken : Nat) : List Char → Nat × Nat × List Char
  | [] => (significand, taken, [])
  | c :: cs =>
    if c.isDigit then
      if significand * 10 + digit c ≤ maxSignificand then
        readFraction (significand * 10 + digit c) (taken + 1) cs
      else
        (significand, taken, cs.dropWhile Char.isDigit)
    else
      (significand, taken, c :: cs)

/-- A power of ten as a double. -/
def powerOfTen (n : Nat) : Float :=
  Float.ofScientific 1 false n

/-- The double `value * 10 ^ exponent`, if it is finite. A step divides by the largest power of ten
there is; after `fuel` steps the value has vanished. -/
def scale (value : Float) (exponent : Int) : Nat → Option Float
  | 0 => some 0.0
  | fuel + 1 =>
    if exponent.natAbs ≤ 308 then
      if 0 ≤ exponent then
        let scaled := value * powerOfTen exponent.natAbs
        if scaled.isInf then none else some scaled
      else
        some (value / powerOfTen exponent.natAbs)
    else if value == 0.0 then some value
    else if 0 ≤ exponent then none
    else scale (value / powerOfTen 308) (exponent + 308) fuel

/-- The number that a sign, a significand and a power of ten denote. -/
def ofParts (positive : Bool) (significand : Nat) (exponent : Int) (rest : List Char) :
    Except Fault (Number × List Char) :=
  match scale significand.toUInt64.toFloat exponent 4 with
  | none => .error (.before .numberOutOfRange rest)
  | some value => .ok (.floating (if positive then value else -value).toBits, rest)

/-- The largest exponent. -/
def maxExponent : Nat := Nat.pow 2 31 - 1

/-- Reads the digits of an exponent. An error is the rest behind the digit that carried it past 31
bits. -/
def readExponentDigits (exponent : Nat) : List Char → Except (List Char) (Nat × List Char)
  | [] => .ok (exponent, [])
  | c :: cs =>
    if c.isDigit then
      if exponent * 10 + digit c ≤ maxExponent then readExponentDigits (exponent * 10 + digit c) cs
      else .error cs
    else
      .ok (exponent, c :: cs)

/-- The sign of an exponent, plus when there is none. -/
def readExponentSign : List Char → Bool × List Char
  | [] => (true, [])
  | c :: cs =>
    if c = '+' then (true, cs) else if c = '-' then (false, cs) else (true, c :: cs)

/-- Keeps an exponent within 32 bits. -/
def saturate (n : Int) : Int :=
  max (-Int.ofNat (Nat.pow 2 31)) (min n (Int.ofNat (Nat.pow 2 31) - 1))

/-- Reads what follows the letter of an exponent. -/
def readExponent (positive : Bool) (significand : Nat) (start : Int) : Reader Number := fun cs =>
  let (raises, cs) := readExponentSign cs
  match cs with
  | [] => .error ⟨.eofInValue, 0⟩
  | c :: rest =>
    if c.isDigit then
      match readExponentDigits (digit c) rest with
      | .ok (exponent, rest) =>
        ofParts positive significand
          (saturate (if raises then start + exponent else start - exponent)) rest
      | .error rest =>
        if significand ≠ 0 ∧ raises then .error (.before .numberOutOfRange rest)
        else
          .ok (.floating (if positive then (0.0 : Float) else -0.0).toBits,
            rest.dropWhile Char.isDigit)
    else
      .error (.lookingAt .invalidNumber (c :: rest))

/-- Reads what may follow all the digits of a fraction. -/
def finishDecimal (positive : Bool) (significand : Nat) (exponent : Int) : Reader Number
  | [] => ofParts positive significand exponent []
  | c :: rest =>
    if c = 'e' ∨ c = 'E' then readExponent positive significand exponent rest
    else ofParts positive significand exponent (c :: rest)

/-- Reads what follows a decimal point. -/
def readDecimal (positive : Bool) (significand : Nat) (start : Int) : Reader Number := fun cs =>
  match cs with
  | [] => .error ⟨.eofInValue, 0⟩
  | c :: rest =>
    if c.isDigit then
      let (significand, taken, rest) := readFraction significand 0 (c :: rest)
      finishDecimal positive significand (start - taken) rest
    else
      .error (.lookingAt .invalidNumber (c :: rest))

/-- The integer that a sign and a significand denote; what has no 64-bit form, and minus zero, is a
double. -/
def ofSignificand (positive : Bool) (significand : Nat) : Number :=
  if positive then .natural significand
  else if significand = 0 ∨ Nat.pow 2 63 < significand then
    .floating (-(significand.toUInt64.toFloat)).toBits
  else .negative (-significand)

/-- Reads what may follow the digits of an integer. -/
def finishInteger (positive : Bool) (significand dropped : Nat) : Reader Number
  | [] =>
    if dropped = 0 then .ok (ofSignificand positive significand, [])
    else ofParts positive significand dropped []
  | c :: rest =>
    if c = '.' then readDecimal positive significand dropped rest
    else if c = 'e' ∨ c = 'E' then readExponent positive significand dropped rest
    else if dropped = 0 then .ok (ofSignificand positive significand, c :: rest)
    else ofParts positive significand dropped (c :: rest)

/-- Reads a number behind its sign. A zero stands alone before the point. -/
def readUnsigned (positive : Bool) : Reader Number
  | [] => .error ⟨.eofInValue, 0⟩
  | c :: rest =>
    if c = '0' then
      match rest with
      | [] => finishInteger positive 0 0 []
      | d :: _ =>
        if d.isDigit then .error (.lookingAt .invalidNumber rest)
        else finishInteger positive 0 0 rest
    else if c.isDigit then
      let (significand, dropped, rest) := readSignificand (digit c) 0 rest
      finishInteger positive significand dropped rest
    else
      .error (.lookingAt .invalidNumber (c :: rest))

/-- Reads a number that begins with `c`, a minus sign or a digit. -/
def readNumber (c : Char) (rest : List Char) : Except Fault (Number × List Char) :=
  if c = '-' then readUnsigned false rest else readUnsigned true (c :: rest)

/-- Passes over the digits of an exponent behind its letter. -/
def skipExponent (cs : List Char) : Except Fault (List Char) :=
  match (readExponentSign cs).2 with
  | [] => .error ⟨.invalidNumber, 0⟩
  | c :: rest =>
    if c.isDigit then .ok (rest.dropWhile Char.isDigit)
    else .error (.lookingAt .invalidNumber (c :: rest))

/-- Passes over what may follow the digits of a number. -/
def skipScale : List Char → Except Fault (List Char)
  | [] => .ok []
  | c :: rest => if c = 'e' ∨ c = 'E' then skipExponent rest else .ok (c :: rest)

/-- Passes over what may follow the integer part of a number. -/
def skipFraction : List Char → Except Fault (List Char)
  | [] => .ok []
  | c :: rest =>
    if c = '.' then
      match rest with
      | [] => .error ⟨.invalidNumber, 0⟩
      | d :: _ =>
        if d.isDigit then skipScale (rest.dropWhile Char.isDigit)
        else .error (.lookingAt .invalidNumber rest)
    else skipScale (c :: rest)

/-- Passes over a number behind its sign. -/
def skipUnsigned : List Char → Except Fault (List Char)
  | [] => .error ⟨.invalidNumber, 0⟩
  | c :: rest =>
    if c = '0' then
      match rest with
      | [] => .ok []
      | d :: _ =>
        if d.isDigit then .error (.lookingAt .invalidNumber rest) else skipFraction rest
    else if c.isDigit then skipFraction (rest.dropWhile Char.isDigit)
    else .error (.lookingAt .invalidNumber (c :: rest))

/-- Passes over a number that begins with `c`, a minus sign or a digit. -/
def skipNumber (c : Char) (rest : List Char) : Except Fault (List Char) :=
  if c = '-' then skipUnsigned rest else skipUnsigned (c :: rest)

end SessionKeeper.Json
