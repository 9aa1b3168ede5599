import SessionKeeper.Text.Utf8

/-!
# Percent encoding

Bytes written as a percent sign and two hexadecimal digits. Which characters have to be written so
depends on the part of a URL that they stand in; what is outside ASCII always is.
-/

namespace SessionKeeper.Url

/-- The value of a hexadecimal digit. -/
def hexDigit? (c : Char) : Option Nat :=
  if c.isDigit then some (c.toNat - 48)
  else if 'a' ≤ c ∧ c ≤ 'f' then some (c.toNat - 87)
  else if 'A' ≤ c ∧ c ≤ 'F' then some (c.toNat - 55)
  else none

/-- An upper-case hexadecimal digit. -/
def hexDigit (n : Nat) : Char :=
  if n < 10 then Char.ofNat (n + 48) else Char.ofNat (n + 55)

/-- A byte as a percent sign and two digits. -/
def encodeByte (b : UInt8) : List Char :=
  ['%', hexDigit (b.toNat / 16), hexDigit (b.toNat % 16)]

/-- The bytes of a character, percent-encoded. -/
def encodeChar (c : Char) : List Char :=
  (String.utf8EncodeChar c).flatMap encodeByte

/-- The characters that are encoded everywhere: controls and what is outside ASCII. -/
def isAlwaysEncoded (c : Char) : Bool :=
  c.toNat < 0x20 || 0x7E < c.toNat

/-- Characters encoded in a fragment. -/
def inFragment (c : Char) : Bool :=
  isAlwaysEncoded c || c == ' ' || c == '"' || c == '<' || c == '>' || c == '`'

/-- Characters encoded in a query. -/
def inQuery (c : Char) : Bool :=
  isAlwaysEncoded c || c == ' ' || c == '"' || c == '#' || c == '<' || c == '>' || c == '\''

/-- Characters encoded in a path. -/
def inPath (c : Char) : Bool :=
  inFragment c || c == '#' || c == '?' || c == '{' || c == '}'

/-- Characters encoded in a user name or password. -/
def inUserInfo (c : Char) : Bool :=
  inPath c || c == '/' || c == ':' || c == ';' || c == '=' || c == '@' || c == '[' || c == '\\' ||
    c == ']' || c == '^' || c == '|'

/-- The characters with those of a class encoded. -/
def encode (isEncoded : Char → Bool) (cs : List Char) : List Char :=
  cs.flatMap fun c => if isEncoded c then encodeChar c else [c]

/-- The bytes that percent-encoded bytes stand for. A percent sign without two digits is itself. -/
def decodeBytes : List UInt8 → List UInt8
  | [] => []
  | [a] => [a]
  | [a, b] => [a, b]
  | a :: b :: c :: rest =>
    if a = 0x25 then
      match hexDigit? (Char.ofNat b.toNat), hexDigit? (Char.ofNat c.toNat) with
      | some m, some n => UInt8.ofNat (m * 16 + n) :: decodeBytes rest
      | _, _ => a :: decodeBytes (b :: c :: rest)
    else a :: decodeBytes (b :: c :: rest)

/-- The bytes that a text with percent-encoded bytes stands for. -/
def decodePercent (cs : List Char) : List UInt8 :=
  decodeBytes (cs.flatMap String.utf8EncodeChar)

end SessionKeeper.Url
