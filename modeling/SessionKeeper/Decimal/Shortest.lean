/-!
# Shortest decimals

The decimal with the fewest digits that reads back as a given double. A finite double is
`m * 2 ^ q`; it is read back from every real between the midpoints to its neighbours, the midpoints
themselves when `m` is even. Among decimals of one length the one nearest to the double is taken.
-/

namespace SessionKeeper.Decimal

/-- The exact value `mantissa * 2 ^ exponent` of a finite double. -/
structure Binary where
  mantissa : Nat
  exponent : Int
  deriving DecidableEq, Repr

/-- The value `digits * 10 ^ exponent`. -/
structure Numeral where
  digits : Nat
  exponent : Int
  deriving DecidableEq, Repr

/-- The magnitude of the finite double that the bits encode. -/
def Binary.ofBits (bits : UInt64) : Binary :=
  let fraction : Nat := bits.toNat % Nat.pow 2 52
  let biased : Nat := bits.toNat / Nat.pow 2 52 % Nat.pow 2 11
  if biased = 0 then ⟨fraction, -1074⟩ else ⟨Nat.pow 2 52 + fraction, biased - 1075⟩

/-- Whether the sign bit is set. -/
def isNegative (bits : UInt64) : Bool :=
  Nat.pow 2 63 ≤ bits.toNat

/-- `base ^ e` for a natural exponent, 1 for a negative one. -/
def powPart (base : Nat) (e : Int) : Nat :=
  Nat.pow base e.toNat

/-- Compares `x * 10 ^ p` with `y * 2 ^ q` exactly. -/
def compareScaled (x : Nat) (p : Int) (y : Nat) (q : Int) : Ordering :=
  compare (x * powPart 10 p * powPart 2 (-q)) (y * powPart 2 q * powPart 10 (-p))

/-- Whether the decimal reads back as the double. -/
def Binary.readsBack (b : Binary) (d : Numeral) : Bool :=
  let below := if b.mantissa = Nat.pow 2 52 ∧ -1074 < b.exponent then 1 else 2
  let low := compareScaled (4 * d.digits) d.exponent (4 * b.mantissa - below) b.exponent
  let high := compareScaled (4 * d.digits) d.exponent (4 * b.mantissa + 2) b.exponent
  if b.mantissa % 2 = 0 then low != .lt && high != .gt else low == .gt && high == .lt

/-- The largest multiple of `10 ^ p` that is not above the double, counted in that unit. -/
def Binary.floorAt (b : Binary) (p : Int) : Nat :=
  b.mantissa * powPart 2 b.exponent * powPart 10 (-p) / (powPart 2 (-b.exponent) * powPart 10 p)

/-- The least `e` from `start` on, within `fuel` steps, for which the double is below `10 ^ e`. -/
def Binary.magnitudeFrom (b : Binary) : Nat → Int → Int
  | 0, e => e
  | fuel + 1, e => if b.floorAt e = 0 then e else b.magnitudeFrom fuel (e + 1)

/-- The `e` for which the double lies in `[10 ^ (e - 1), 10 ^ e)`. -/
def Binary.magnitude (b : Binary) : Int :=
  b.magnitudeFrom 700 (-330)

/-- Of the two neighbours of the double on the grid of `10 ^ p`, the nearer one that reads back; a
tie goes to the even one. -/
def Binary.onGrid? (b : Binary) (p : Int) : Option Numeral :=
  let lower : Numeral := ⟨b.floorAt p, p⟩
  let upper : Numeral := ⟨b.floorAt p + 1, p⟩
  match b.readsBack lower && lower.digits != 0, b.readsBack upper with
  | false, false => none
  | true, false => some lower
  | false, true => some upper
  | true, true =>
    match compareScaled (lower.digits + upper.digits) p (2 * b.mantissa) b.exponent with
    | .lt => some upper
    | .gt => some lower
    | .eq => some (if lower.digits % 2 = 0 then lower else upper)

/-- The first grid, from one digit on, that holds a decimal which reads back. -/
def Binary.search (b : Binary) (magnitude : Int) : Nat → Nat → Numeral
  | 0, _ => ⟨b.mantissa, b.exponent⟩
  | fuel + 1, count =>
    match b.onGrid? (magnitude - count) with
    | some d => d
    | none => b.search magnitude fuel (count + 1)

/-- Moves the zeros at the end of the digits into the exponent. -/
def Numeral.withoutZeros : Nat → Numeral → Numeral
  | 0, d => d
  | fuel + 1, d =>
    if d.digits ≠ 0 ∧ d.digits % 10 = 0 then
      withoutZeros fuel ⟨d.digits / 10, d.exponent + 1⟩
    else d

/-- The shortest decimal that reads back as a positive double. -/
def Binary.shortest (b : Binary) : Numeral :=
  (b.search b.magnitude 17 1).withoutZeros 20

end SessionKeeper.Decimal
