import SessionKeeper.Decimal.Shortest

/-!
# Written doubles

A finite double is written with its shortest digits: positionally, with at least one digit on either
side of the point, when no more than sixteen digits come before the point or no more than four zeros
right behind it, and with a signed exponent otherwise.
-/

namespace SessionKeeper.Decimal

/-- The digits of a decimal, at least one. -/
def Numeral.text (d : Numeral) : List Char :=
  Nat.toDigits 10 d.digits

/-- The text of an exponent. It always has a sign. -/
def exponentText (n : Int) : List Char :=
  if n < 0 then '-' :: Nat.toDigits 10 n.natAbs else '+' :: Nat.toDigits 10 n.natAbs

/-- How the shortest decimal of a positive double is laid out. -/
def Numeral.layout (d : Numeral) : List Char :=
  let ds := d.text
  let point : Int := ds.length + d.exponent
  if 0 ≤ d.exponent ∧ point ≤ 16 then
    ds ++ List.replicate d.exponent.toNat '0' ++ ['.', '0']
  else if 0 < point ∧ point ≤ 16 then
    ds.take point.toNat ++ '.' :: ds.drop point.toNat
  else if -5 < point ∧ point ≤ 0 then
    '0' :: '.' :: List.replicate (-point).toNat '0' ++ ds
  else
    let exponent := exponentText (point - 1)
    match ds with
    | [c] => c :: 'e' :: exponent
    | c :: cs => c :: '.' :: cs ++ 'e' :: exponent
    | [] => []

/-- The text of the finite double that the bits encode. -/
def writeDouble (bits : UInt64) : String :=
  let b := Binary.ofBits bits
  let magnitude := if b.mantissa = 0 then ['0', '.', '0'] else b.shortest.layout
  String.ofList (if isNegative bits then '-' :: magnitude else magnitude)

end SessionKeeper.Decimal
