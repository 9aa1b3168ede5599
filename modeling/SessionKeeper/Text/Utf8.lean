/-!
# UTF-8

`decode` reads bytes that have to be valid; `decodeLossy` reads any bytes and puts U+FFFD for every
maximal piece that cannot be part of a valid text. `size` is the number of bytes that characters
take.
-/

namespace SessionKeeper.Text

/-- Bytes are compared by the library's own decision, whatever else is imported. -/
instance instDecidableEqBytes : DecidableEq ByteArray :=
  ByteArray.instDecidableEq

/-- The number of bytes that the characters take in UTF-8. -/
def size : List Char → Nat
  | [] => 0
  | c :: cs => c.utf8Size + size cs

@[simp] theorem size_nil : size [] = 0 := rfl

@[simp] theorem size_cons (c : Char) (cs : List Char) : size (c :: cs) = c.utf8Size + size cs := rfl

@[simp] theorem size_append (cs ds : List Char) : size (cs ++ ds) = size cs + size ds := by
  induction cs with
  | nil => simp
  | cons c cs ih => simp [ih, Nat.add_assoc]

/-- The text that the bytes encode, if they are valid. -/
def decode (bytes : ByteArray) : Option String :=
  String.fromUTF8? bytes

/-- Stands for bytes that encode nothing. -/
def replacement : Char := '\ufffd'

/-- Whether a byte can only continue a character that an earlier byte began. -/
def isContinuation (b : UInt8) : Bool :=
  0x80 ≤ b && b ≤ 0xBF

/-- Whether `second` may follow the leading byte `first` of a sequence of three bytes. -/
def isSecondOfThree (first second : UInt8) : Bool :=
  if first == 0xE0 then 0xA0 ≤ second && second ≤ 0xBF
  else if first == 0xED then 0x80 ≤ second && second ≤ 0x9F
  else isContinuation second

/-- Whether `second` may follow the leading byte `first` of a sequence of four bytes. -/
def isSecondOfFour (first second : UInt8) : Bool :=
  if first == 0xF0 then 0x90 ≤ second && second ≤ 0xBF
  else if first == 0xF4 then 0x80 ≤ second && second ≤ 0x8F
  else isContinuation second

/-- The six low bits of a continuation byte. -/
def payload (b : UInt8) : Nat :=
  b.toNat % 64

/-- Reads all the bytes; what is not valid becomes `replacement`, once for every maximal piece. -/
def decodeLossyChars : List UInt8 → List Char
  | [] => []
  | a :: rest =>
    if a < 0x80 then
      Char.ofNat a.toNat :: decodeLossyChars rest
    else if 0xC2 ≤ a && a ≤ 0xDF then
      match rest with
      | [] => [replacement]
      | b :: rest₁ =>
        if isContinuation b then
          Char.ofNat (a.toNat % 32 * 64 + payload b) :: decodeLossyChars rest₁
        else
          replacement :: decodeLossyChars (b :: rest₁)
    else if 0xE0 ≤ a && a ≤ 0xEF then
      match rest with
      | [] => [replacement]
      | b :: rest₁ =>
        if isSecondOfThree a b then
          match rest₁ with
          | [] => [replacement]
          | c :: rest₂ =>
            if isContinuation c then
              Char.ofNat ((a.toNat % 16 * 64 + payload b) * 64 + payload c) ::
                decodeLossyChars rest₂
            else
              replacement :: decodeLossyChars (c :: rest₂)
        else
          replacement :: decodeLossyChars (b :: rest₁)
    else if 0xF0 ≤ a && a ≤ 0xF4 then
      match rest with
      | [] => [replacement]
      | b :: rest₁ =>
        if isSecondOfFour a b then
          match rest₁ with
          | [] => [replacement]
          | c :: rest₂ =>
            if isContinuation c then
              match rest₂ with
              | [] => [replacement]
              | d :: rest₃ =>
                if isContinuation d then
                  Char.ofNat (((a.toNat % 8 * 64 + payload b) * 64 + payload c) * 64 + payload d) ::
                    decodeLossyChars rest₃
                else
                  replacement :: decodeLossyChars (d :: rest₃)
            else
              replacement :: decodeLossyChars (c :: rest₂)
        else
          replacement :: decodeLossyChars (b :: rest₁)
    else
      replacement :: decodeLossyChars rest

/-- The text of any bytes, with U+FFFD in place of what is not valid. -/
def decodeLossy (bytes : ByteArray) : String :=
  String.ofList (decodeLossyChars bytes.toList)

end SessionKeeper.Text
