import SessionKeeper.Json.Value

/-!
# Written documents

Two layouts of a document: compact, without any white space, and pretty, with every item on a line
of its own. In a string only the quote, the backslash and the control characters below the space are
escaped.
-/

namespace SessionKeeper.Json

/-- One character of a string as it is written between the quotes. -/
def escapeChar (c : Char) : List Char :=
  if c = '"' then ['\\', '"']
  else if c = '\\' then ['\\', '\\']
  else if c = '\x08' then ['\\', 'b']
  else if c = '\t' then ['\\', 't']
  else if c = '\n' then ['\\', 'n']
  else if c = '\x0c' then ['\\', 'f']
  else if c = '\r' then ['\\', 'r']
  else if c.toNat < 0x20 then
    ['\\', 'u', '0', '0', Nat.digitChar (c.toNat / 16), Nat.digitChar (c.toNat % 16)]
  else [c]

/-- A string with its quotes. -/
def writeString (s : String) : List Char :=
  '"' :: s.toList.flatMap escapeChar ++ ['"']

/-- A number. -/
def writeNumber : Number → List Char
  | .natural n => Nat.toDigits 10 n
  | .negative n => (toString n).toList
  | .floating bits => (Decimal.writeDouble bits).toList

/-- The indentation of a level. -/
def indent (level : Nat) : List Char :=
  List.replicate (2 * level) ' '

mutual

/-- The compact layout. -/
def Value.writeCompact : Value → List Char
  | .null => ['n', 'u', 'l', 'l']
  | .boolean true => ['t', 'r', 'u', 'e']
  | .boolean false => ['f', 'a', 'l', 's', 'e']
  | .number n => writeNumber n
  | .text s => writeString s
  | .list items => '[' :: writeCompactItems true items ++ [']']
  | .object members => '{' :: writeCompactMembers true members ++ ['}']

/-- The elements of a list, with commas before all but the first. -/
def writeCompactItems : Bool → List Value → List Char
  | _, [] => []
  | first, v :: vs =>
    (if first then [] else [',']) ++ v.writeCompact ++ writeCompactItems false vs

/-- The members of an object, with commas before all but the first. -/
def writeCompactMembers : Bool → List (String × Value) → List Char
  | _, [] => []
  | first, (k, v) :: rest =>
    (if first then [] else [',']) ++ writeString k ++ ':' :: v.writeCompact ++
      writeCompactMembers false rest

end

mutual

/-- The pretty layout of a document that stands at `level`. -/
def Value.writePretty (level : Nat) : Value → List Char
  | .list [] => ['[', ']']
  | .list (v :: vs) =>
    '[' :: writePrettyItems level true (v :: vs) ++ '\n' :: indent level ++ [']']
  | .object [] => ['{', '}']
  | .object (m :: ms) =>
    '{' :: writePrettyMembers level true (m :: ms) ++ '\n' :: indent level ++ ['}']
  | .null => ['n', 'u', 'l', 'l']
  | .boolean true => ['t', 'r', 'u', 'e']
  | .boolean false => ['f', 'a', 'l', 's', 'e']
  | .number n => writeNumber n
  | .text s => writeString s

/-- The elements of a list, each on a line of its own. -/
def writePrettyItems (level : Nat) : Bool → List Value → List Char
  | _, [] => []
  | first, v :: vs =>
    (if first then ['\n'] else [',', '\n']) ++ indent (level + 1) ++ v.writePretty (level + 1) ++
      writePrettyItems level false vs

/-- The members of an object, each on a line of its own. -/
def writePrettyMembers (level : Nat) : Bool → List (String × Value) → List Char
  | _, [] => []
  | first, (k, v) :: rest =>
    (if first then ['\n'] else [',', '\n']) ++ indent (level + 1) ++ writeString k ++
      [':', ' '] ++ v.writePretty (level + 1) ++ writePrettyMembers level false rest

end

/-- The compact text of a document. -/
def Value.compact (v : Value) : String :=
  String.ofList v.writeCompact

/-- The pretty text of a document. -/
def Value.pretty (v : Value) : String :=
  String.ofList (v.writePretty 0)

end SessionKeeper.Json
