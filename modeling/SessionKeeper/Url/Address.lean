/-!
# Internet addresses

Addresses of both versions, the text they are written as, and two readers: the strict one takes what
is written and other plain spellings of addresses, the lenient one, for URLs, takes version 4
addresses of one to four numbers in three bases.
-/

namespace SessionKeeper.Url

/-- An internet address: four bytes, or eight groups of sixteen bits. -/
inductive Address
  | v4 (value : Nat)
  | v6 (groups : List Nat)
  deriving DecidableEq, Repr

/-- The pieces of a text between separators. -/
def splitOn (separator : Char) : List Char → List (List Char)
  | [] => [[]]
  | c :: cs =>
    match splitOn separator cs with
    | [] => [[c]]
    | piece :: pieces => if c = separator then [] :: piece :: pieces else (c :: piece) :: pieces

/-- The value of a digit in a base up to sixteen. -/
def digitIn? (base : Nat) (c : Char) : Option Nat :=
  let value? :=
    if c.isDigit then some (c.toNat - 48)
    else if 'a' ≤ c ∧ c ≤ 'f' then some (c.toNat - 87)
    else if 'A' ≤ c ∧ c ≤ 'F' then some (c.toNat - 55)
    else none
  value?.filter fun n => n < base

/-- The number that digits of a base denote after those of `acc`. -/
def readIn (base acc : Nat) : List Char → Option Nat
  | [] => some acc
  | c :: cs =>
    match digitIn? base c with
    | none => none
    | some n => readIn base (acc * base + n) cs

/-- A number of an address in a URL: hexadecimal behind `0x`, octal behind `0`, decimal
otherwise. -/
def readPart : List Char → Option Nat
  | [] => none
  | '0' :: 'x' :: cs => readIn 16 0 cs
  | '0' :: 'X' :: cs => readIn 16 0 cs
  | '0' :: c :: cs => readIn 8 0 (c :: cs)
  | cs => readIn 10 0 cs

/-- The pieces of a dotted name without the empty one behind a final dot. -/
def dottedParts (cs : List Char) : List (List Char) :=
  let parts := splitOn '.' cs
  if parts.getLast? = some [] then parts.dropLast else parts

/-- Whether a name has to be an address, because its last piece is a number. -/
def endsInNumber (cs : List Char) : Bool :=
  let parts := splitOn '.' cs
  let last? := if parts.getLast? = some [] then parts.dropLast.getLast? else parts.getLast?
  match last? with
  | none => false
  | some last => (last != [] && last.all Char.isDigit) || (readPart last).isSome

/-- The value of one to four numbers: all but the last are bytes from the left, the last fills
up. -/
def combine (position : Nat) : List Nat → Option Nat
  | [] => none
  | [n] => if n < Nat.pow 256 (4 - position) then some n else none
  | n :: rest =>
    if n ≤ 255 ∧ position < 3 then
      (combine (position + 1) rest).map fun m => n * Nat.pow 256 (3 - position) + m
    else none

/-- Reads a version 4 address as it may be spelled in a URL. -/
def readV4Lenient (cs : List Char) : Option Address :=
  match (dottedParts cs).mapM readPart with
  | none => none
  | some numbers => (combine 0 numbers).map .v4

/-- Reads a byte in decimal digits, without zeros in front. -/
def readByte (cs : List Char) : Option Nat :=
  if cs.length ≤ 3 ∧ cs ≠ [] ∧ (cs.head? ≠ some '0' ∨ cs = ['0']) then
    (readIn 10 0 cs).filter fun n => n ≤ 255
  else none

/-- Reads four bytes with dots between them. -/
def readV4Value (cs : List Char) : Option Nat :=
  match (splitOn '.' cs).mapM readByte with
  | some [a, b, c, d] => some (((a * 256 + b) * 256 + c) * 256 + d)
  | _ => none

/-- Reads a group of at most four hexadecimal digits. -/
def readGroup (cs : List Char) : Option Nat :=
  if cs ≠ [] ∧ cs.length ≤ 4 then readIn 16 0 cs else none

/-- Reads groups with colons between them. The last may be a version 4 address. -/
def readGroups : List (List Char) → Option (List Nat)
  | [] => some []
  | [cs] =>
    match readGroup cs with
    | some n => some [n]
    | none => (readV4Value cs).map fun n => [n / 65536, n % 65536]
  | cs :: rest =>
    match readGroup cs, readGroups rest with
    | some n, some ns => some (n :: ns)
    | _, _ => none

/-- The groups between colons; no text has none. -/
def colonParts (cs : List Char) : List (List Char) :=
  if cs = [] then [] else splitOn ':' cs

/-- The text before and behind the first double colon. -/
def splitDoubleColon : List Char → Option (List Char × List Char)
  | ':' :: ':' :: cs => some ([], cs)
  | [] => none
  | c :: cs => (splitDoubleColon cs).map fun (before, behind) => (c :: before, behind)

/-- Reads a version 6 address. A double colon stands for at least one group of zero, and an address
in front of it is made of groups only. -/
def readV6 (cs : List Char) : Option Address :=
  match splitDoubleColon cs with
  | none =>
    match readGroups (colonParts cs) with
    | some groups => if groups.length = 8 then some (.v6 groups) else none
    | none => none
  | some (before, behind) =>
    match (colonParts before).mapM readGroup, readGroups (colonParts behind) with
    | some front, some back =>
      if front.length + back.length ≤ 7 then
        some (.v6 (front ++ List.replicate (8 - front.length - back.length) 0 ++ back))
      else none
    | _, _ => none

/-- Reads an address of either version. -/
def readAddress (cs : List Char) : Option Address :=
  match readV4Value cs with
  | some n => some (.v4 n)
  | none => readV6 cs

/-- Four bytes with dots between them. -/
def writeV4 (n : Nat) : List Char :=
  Nat.toDigits 10 (n / Nat.pow 256 3 % 256) ++ '.' :: Nat.toDigits 10 (n / Nat.pow 256 2 % 256) ++
    '.' :: Nat.toDigits 10 (n / 256 % 256) ++ '.' :: Nat.toDigits 10 (n % 256)

/-- The number of zeros in front. -/
def leadingZeros (groups : List Nat) : Nat :=
  (groups.takeWhile fun n => n == 0).length

/-- The position and length of the first longest run of zeros, counted from `position`. -/
def longestZeros (position : Nat) : List Nat → Nat × Nat
  | [] => (position, 0)
  | n :: rest =>
    let here := leadingZeros (n :: rest)
    let later := longestZeros (position + 1) rest
    if later.2 ≤ here then (position, here) else later

/-- Groups in lower-case hexadecimal digits with colons between them. -/
def writeGroups : List Nat → List Char
  | [] => []
  | [n] => Nat.toDigits 16 n
  | n :: rest => Nat.toDigits 16 n ++ ':' :: writeGroups rest

/-- Eight groups, the first longest run of two or more zeros as a double colon. -/
def writeV6 (groups : List Nat) : List Char :=
  let (position, length) := longestZeros 0 groups
  if 2 ≤ length then
    writeGroups (groups.take position) ++
      ':' :: ':' :: writeGroups (groups.drop (position + length))
  else writeGroups groups

/-- Whether the address is one of the own machine. -/
def Address.isLoopback : Address → Bool
  | .v4 n => n / Nat.pow 256 3 == 127
  | .v6 groups => groups == [0, 0, 0, 0, 0, 0, 0, 1]

end SessionKeeper.Url
