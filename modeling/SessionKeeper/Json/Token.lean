import SessionKeeper.Json.Fault

/-!
# Tokens

The pieces of the grammar that hold no other values: blanks, the words `null`, `true` and `false`,
and strings. A string is read into its characters or only passed over; passing over is more lenient,
because the characters behind an escape are not looked at.
-/

namespace SessionKeeper.Json

/-- White space between tokens. -/
def isSpace (c : Char) : Bool :=
  c == ' ' || c == '\n' || c == '\t' || c == '\r'

/-- The text from its first character that is no white space. -/
def skipSpace (cs : List Char) : List Char :=
  cs.dropWhile isSpace

/-- Reads the given characters. -/
def expectWord : List Char → List Char → Except Fault (List Char)
  | [], cs => .ok cs
  | _ :: _, [] => .error ⟨.eofInValue, 0⟩
  | w :: ws, c :: cs =>
    if c = w then expectWord ws cs else .error (.lookingAt .expectedIdent (c :: cs))

/-- The value of a hexadecimal digit. -/
def hexValue? (c : Char) : Option Nat :=
  if '0' ≤ c ∧ c ≤ '9' then some (c.toNat - 48)
  else if 'a' ≤ c ∧ c ≤ 'f' then some (c.toNat - 87)
  else if 'A' ≤ c ∧ c ≤ 'F' then some (c.toNat - 55)
  else none

/-- The number that four hexadecimal digits denote. -/
def hexQuad? (a b c d : Char) : Option Nat :=
  match hexValue? a, hexValue? b, hexValue? c, hexValue? d with
  | some a, some b, some c, some d => some (((a * 16 + b) * 16 + c) * 16 + d)
  | _, _, _, _ => none

/-- What four bytes that are no hexadecimal number amount to. -/
def quadFault (cs : List Char) : Fault :=
  if Text.size cs < 4 then ⟨.eofInString, 0⟩ else ⟨.invalidEscape, Text.size cs - 4⟩

/-- Reads four hexadecimal digits. -/
def readQuad : Reader Nat
  | a :: b :: c :: d :: rest =>
    match hexQuad? a b c d with
    | some n => .ok (n, rest)
    | none => .error (quadFault (a :: b :: c :: d :: rest))
  | cs => .error (quadFault cs)

/-- A first half of a UTF-16 pair. -/
def isHighSurrogate (n : Nat) : Bool :=
  0xD800 ≤ n && n ≤ 0xDBFF

/-- A second half of a UTF-16 pair. -/
def isLowSurrogate (n : Nat) : Bool :=
  0xDC00 ≤ n && n ≤ 0xDFFF

/-- The character that a UTF-16 pair encodes. -/
def ofSurrogates (high low : Nat) : Char :=
  Char.ofNat ((high - 0xD800) * 0x400 + (low - 0xDC00) + 0x10000)

/-- Reads what follows the first half of a pair: the escape of its second half. -/
def readLowHalf (high : Nat) : Reader Char
  | [] => .error ⟨.eofInString, 0⟩
  | ['\\'] => .error ⟨.eofInString, 0⟩
  | '\\' :: 'u' :: rest =>
    match readQuad rest with
    | .error f => .error f
    | .ok (low, rest) =>
      if isLowSurrogate low then .ok (ofSurrogates high low, rest)
      else .error (.before .loneSurrogate rest)
  | '\\' :: c :: rest => .error (.lookingAt .unfinishedSurrogate (c :: rest))
  | c :: rest => .error (.lookingAt .unfinishedSurrogate (c :: rest))

/-- Reads the digits of a `\u` escape, and a second escape when they are half of a pair. -/
def readUnicodeEscape : Reader Char := fun cs =>
  match readQuad cs with
  | .error f => .error f
  | .ok (n, rest) =>
    if isLowSurrogate n then .error (.before .loneSurrogate rest)
    else if isHighSurrogate n then readLowHalf n rest
    else .ok (Char.ofNat n, rest)

/-- The character that a backslash and one letter stand for. -/
def simpleEscape? (c : Char) : Option Char :=
  if c = '"' then some '"'
  else if c = '\\' then some '\\'
  else if c = '/' then some '/'
  else if c = 'b' then some '\x08'
  else if c = 'f' then some '\x0c'
  else if c = 'n' then some '\n'
  else if c = 'r' then some '\r'
  else if c = 't' then some '\t'
  else none

/-- Reads what follows a backslash. -/
def readEscape : Reader Char
  | [] => .error ⟨.eofInString, 0⟩
  | c :: rest =>
    if c = 'u' then readUnicodeEscape rest
    else
      match simpleEscape? c with
      | some d => .ok (d, rest)
      | none => .error (.lookingAt .invalidEscape (c :: rest))

/-- Characters that a string has to escape whatever it is read for. -/
def isControl (c : Char) : Bool :=
  c.toNat < 0x20

/-- Reads a string up to and with its closing quote, within `fuel` characters and escapes. -/
def readCharsWithin : Nat → Reader (List Char)
  | 0, _ => .error ⟨.eofInString, 0⟩
  | _ + 1, [] => .error ⟨.eofInString, 0⟩
  | fuel + 1, c :: rest =>
    if c = '"' then .ok ([], rest)
    else if c = '\\' then
      match readEscape rest with
      | .error f => .error f
      | .ok (d, rest) =>
        match readCharsWithin fuel rest with
        | .error f => .error f
        | .ok (ds, rest) => .ok (d :: ds, rest)
    else if isControl c then .error (.lookingAt .controlCharacter (c :: rest))
    else
      match readCharsWithin fuel rest with
      | .error f => .error f
      | .ok (ds, rest) => .ok (c :: ds, rest)

/-- Reads a string whose opening quote was consumed. -/
def readString : Reader String := fun cs =>
  match readCharsWithin (cs.length + 1) cs with
  | .error f => .error f
  | .ok (ds, rest) => .ok (String.ofList ds, rest)

/-- Passes over what follows a backslash. -/
def skipEscape : List Char → Except Fault (List Char)
  | [] => .error ⟨.eofInString, 0⟩
  | c :: rest =>
    if c = 'u' then
      match readQuad rest with
      | .error f => .error f
      | .ok (_, rest) => .ok rest
    else
      match simpleEscape? c with
      | some _ => .ok rest
      | none => .error (.lookingAt .invalidEscape (c :: rest))

/-- Passes over a string up to and with its closing quote, within `fuel` characters and escapes. -/
def skipCharsWithin : Nat → List Char → Except Fault (List Char)
  | 0, _ => .error ⟨.eofInString, 0⟩
  | _ + 1, [] => .error ⟨.eofInString, 0⟩
  | fuel + 1, c :: rest =>
    if c = '"' then .ok rest
    else if c = '\\' then
      match skipEscape rest with
      | .error f => .error f
      | .ok rest => skipCharsWithin fuel rest
    else if isControl c then .error (.before .controlCharacter (c :: rest))
    else skipCharsWithin fuel rest

/-- Passes over a string whose opening quote was consumed. -/
def skipString (cs : List Char) : Except Fault (List Char) :=
  skipCharsWithin (cs.length + 1) cs

/-- Reads the colon between a key and its value. -/
def expectColon (cs : List Char) : Except Fault (List Char) :=
  match skipSpace cs with
  | [] => .error ⟨.eofInObject, 0⟩
  | c :: rest => if c = ':' then .ok rest else .error (.lookingAt .expectedColon (c :: rest))

end SessionKeeper.Json
