import SessionKeeper.Text.Quoted
import SessionKeeper.Text.Utf8
import SessionKeeper.Decimal.Notation

/-!
# What can be wrong with a JSON text

A reader that stops gives the cause and how many bytes it had not consumed; the line and column
follow from the whole text. A cause is about the grammar, or about a value that is well formed but
not what the reader was asked for.
-/

namespace SessionKeeper.Json

/-- What a reader found where it expected something else. -/
inductive Found
  | null
  | boolean (b : Bool)
  | integer (n : Int)
  | floating (bits : UInt64)
  | text (s : String)
  | sequence
  | map
  deriving DecidableEq, Repr

/-- The wording of what was found. -/
def Found.message : Found → String
  | .null => "null"
  | .boolean b => s!"boolean `{b}`"
  | .integer n => s!"integer `{n}`"
  | .floating bits => s!"floating point `{Decimal.writeDouble bits}`"
  | .text s => s!"string {Text.quoted s}"
  | .sequence => "sequence"
  | .map => "map"

/-- Why reading stopped. -/
inductive Cause
  | eofInValue
  | eofInObject
  | eofInList
  | eofInString
  | expectedValue
  | expectedColon
  | expectedCommaOrBrace
  | expectedCommaOrBracket
  | keyNotString
  | trailingComma
  | trailingCharacters
  | invalidNumber
  | numberOutOfRange
  | recursionLimit
  | expectedIdent
  | invalidEscape
  | controlCharacter
  | loneSurrogate
  | unfinishedSurrogate
  | invalidType (found : Found) (expected : String)
  | invalidValue (found : Found) (expected : String)
  | unknownVariant (name : String) (choices : List String)
  | missingField (key : String)
  | duplicateField (key : String)
  | invalidLength (length : Nat) (expected : String)
  | noMatchingVariant (type : String)
  deriving DecidableEq, Repr

/-- The names a variant may have, as an error lists them. -/
def choicesMessage : List String → String
  | [] => "there are no variants"
  | [a] => s!"expected `{a}`"
  | [a, b] => s!"expected `{a}` or `{b}`"
  | choices => "expected one of " ++ ", ".intercalate (choices.map fun c => s!"`{c}`")

/-- The wording of a cause. -/
def Cause.message : Cause → String
  | .eofInValue => "EOF while parsing a value"
  | .eofInObject => "EOF while parsing an object"
  | .eofInList => "EOF while parsing a list"
  | .eofInString => "EOF while parsing a string"
  | .expectedValue => "expected value"
  | .expectedColon => "expected `:`"
  | .expectedCommaOrBrace => "expected `,` or `\x7d`"
  | .expectedCommaOrBracket => "expected `,` or `]`"
  | .keyNotString => "key must be a string"
  | .trailingComma => "trailing comma"
  | .trailingCharacters => "trailing characters"
  | .invalidNumber => "invalid number"
  | .numberOutOfRange => "number out of range"
  | .recursionLimit => "recursion limit exceeded"
  | .expectedIdent => "expected ident"
  | .invalidEscape => "invalid escape"
  | .controlCharacter => "control character (\\u0000-\\u001F) found while parsing a string"
  | .loneSurrogate => "lone leading surrogate in hex escape"
  | .unfinishedSurrogate => "unexpected end of hex escape"
  | .invalidType found expected => s!"invalid type: {found.message}, expected {expected}"
  | .invalidValue found expected => s!"invalid value: {found.message}, expected {expected}"
  | .unknownVariant name choices => s!"unknown variant `{name}`, {choicesMessage choices}"
  | .missingField key => s!"missing field `{key}`"
  | .duplicateField key => s!"duplicate field `{key}`"
  | .invalidLength length expected => s!"invalid length {length}, expected {expected}"
  | .noMatchingVariant type => s!"data did not match any variant of untagged enum {type}"

/-- A cause, and how many bytes of the text were left when it was met. -/
structure Fault where
  cause : Cause
  left : Nat
  deriving DecidableEq, Repr

/-- A fault met on looking at the next byte of `cs`, which counts as reached; at the end of the
text there is none. -/
def Fault.lookingAt (cause : Cause) (cs : List Char) : Fault :=
  ⟨cause, Text.size cs - 1⟩

/-- A fault met after everything before `cs` was consumed. -/
def Fault.before (cause : Cause) (cs : List Char) : Fault :=
  ⟨cause, Text.size cs⟩

/-- A line, from 1, and the number of bytes of it that were consumed. -/
structure Place where
  line : Nat
  column : Nat
  deriving DecidableEq, Repr

/-- The place after one more byte. -/
def Place.next (p : Place) (b : UInt8) : Place :=
  if b == 0x0A then ⟨p.line + 1, 0⟩ else ⟨p.line, p.column + 1⟩

/-- The place after the first `count` bytes of a text. -/
def Place.after (bytes : List UInt8) (count : Nat) : Place :=
  (bytes.take count).foldl Place.next ⟨1, 0⟩

/-- Why a whole text was refused, and where. -/
structure Error where
  cause : Cause
  place : Place
  deriving DecidableEq, Repr

/-- The wording of a refusal. -/
def Error.message (e : Error) : String :=
  s!"{e.cause.message} at line {e.place.line} column {e.place.column}"

/-- The refusal that a fault in a text amounts to. -/
def Fault.within (f : Fault) (text : String) : Error :=
  ⟨f.cause, Place.after text.toUTF8.toList (text.utf8ByteSize - f.left)⟩

/-- Reads a value from the front of a text and leaves the rest. -/
abbrev Reader (α : Type) := List Char → Except Fault (α × List Char)

end SessionKeeper.Json
