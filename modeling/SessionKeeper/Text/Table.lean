/-!
# Tables of code points

A table says something of ranges of code points that do not overlap, in ascending order. It is kept
as a text of words with blanks between them. A word is a code point or a range of them, and after
commas the values that go with it; all numbers are hexadecimal.
-/

namespace SessionKeeper.Text

/-- What a table says of the code points from `first` to `last`. -/
structure Entry where
  first : Nat
  last : Nat
  values : List Nat
  deriving DecidableEq, Repr

/-- A table of code points. -/
structure Table where
  entries : Array Entry

/-- The pieces of a text between characters that a test selects, as far as they are not empty. -/
def wordsBetween (separates : Char → Bool) (cs : List Char) : List (List Char) :=
  let (word, words) := cs.foldr
    (fun c (word, words) =>
      if separates c then ([], if word = [] then words else word :: words) else (c :: word, words))
    ([], [])
  if word = [] then words else word :: words

/-- The value of a hexadecimal digit, capital if it is a letter. -/
def hexDigit (c : Char) : Nat :=
  if c.isDigit then c.toNat - 48 else c.toNat - 55

/-- The number that hexadecimal digits denote. -/
def readHex (cs : List Char) : Nat :=
  cs.foldl (fun n c => n * 16 + hexDigit c) 0

/-- Reads a word of a table. -/
def Entry.read (word : List Char) : Entry :=
  match wordsBetween (fun c => c == ',') word with
  | [] => ⟨0, 0, []⟩
  | points :: values =>
    match (wordsBetween (fun c => c == '-') points).map readHex with
    | [first, last] => ⟨first, last, values.map readHex⟩
    | numbers => ⟨numbers.headD 0, numbers.headD 0, values.map readHex⟩

/-- Reads a table. -/
def Table.read (text : String) : Table :=
  ⟨((wordsBetween Char.isWhitespace text.toList).map Entry.read).toArray⟩

namespace Table

/-- The entry for a code point among those from `low` on and below `high`. -/
def findBetween (t : Table) (n low high : Nat) : Option Entry :=
  if low < high then
    match t.entries[(low + high) / 2]? with
    | none => none
    | some e =>
      if n < e.first then t.findBetween n low ((low + high) / 2)
      else if e.last < n then t.findBetween n ((low + high) / 2 + 1) high
      else some e
  else none
termination_by high - low

/-- The entry for a character. -/
def find? (t : Table) (c : Char) : Option Entry :=
  t.findBetween c.toNat 0 t.entries.size

/-- Whether the table says something of a character. -/
def contains (t : Table) (c : Char) : Bool :=
  (t.find? c).isSome

/-- The first value that goes with a character. -/
def value? (t : Table) (c : Char) : Option Nat :=
  (t.find? c).bind fun e => e.values.head?

end Table

end SessionKeeper.Text
