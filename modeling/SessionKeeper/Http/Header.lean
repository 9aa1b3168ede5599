import SessionKeeper.Text.Utf8

/-!
# Header values

What may stand in the value of a header, and the value that names a user and a password.
-/

namespace SessionKeeper.Http

/-- Whether a byte may stand in a header value: no control but the tab. -/
def isHeaderByte (b : UInt8) : Bool :=
  (0x20 ≤ b && b != 0x7F) || b == 0x09

/-- Whether a text may be sent as a header value. -/
def isHeaderValue (s : String) : Bool :=
  s.toUTF8.toList.all isHeaderByte

/-- The digits of base 64. -/
def base64Digit (n : Nat) : Char :=
  if n < 26 then Char.ofNat (n + 65)
  else if n < 52 then Char.ofNat (n + 71)
  else if n < 62 then Char.ofNat (n - 4)
  else if n = 62 then '+'
  else '/'

/-- Bytes in base 64, filled up with equals signs. -/
def base64 : List UInt8 → List Char
  | [] => []
  | [a] =>
    let n := a.toNat * 16
    [base64Digit (n / 64), base64Digit (n % 64), '=', '=']
  | [a, b] =>
    let n := (a.toNat * 256 + b.toNat) * 4
    [base64Digit (n / 4096), base64Digit (n / 64 % 64), base64Digit (n % 64), '=']
  | a :: b :: c :: rest =>
    let n := (a.toNat * 256 + b.toNat) * 256 + c.toNat
    base64Digit (n / 262144) :: base64Digit (n / 4096 % 64) :: base64Digit (n / 64 % 64) ::
      base64Digit (n % 64) :: base64 rest

/-- The value that authorizes the holder of a token. -/
def bearer (token : String) : String :=
  "Bearer " ++ token

/-- The value that authorizes a user with a password. -/
def basic (user password : String) : String :=
  "Basic " ++ String.ofList (base64 (user ++ ":" ++ password).toUTF8.toList)

end SessionKeeper.Http
