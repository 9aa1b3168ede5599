import SessionKeeper.Text.Blank
import SessionKeeper.Text.Utf8

/-!
# Lines of an environment file

A quoted value may go on over several lines, so what counts as one line is found by following the
quotes. A hash behind a blank begins a comment that lasts to the end of the line.
-/

namespace SessionKeeper.EnvironmentFile

/-- Where a scan stands: among plain characters, behind a blank, inside quotes, or behind a
backslash. -/
inductive Scan
  | plain
  | blank
  | escaped
  | single
  | singleEscaped
  | double
  | doubleEscaped
  deriving DecidableEq, Repr

namespace Scan

/-- What a plain character does to the scan. -/
def afterPlain (c : Char) : Scan :=
  if c = '\\' then .escaped
  else if c = '"' then .double
  else if c = '\'' then .single
  else .plain

/-- The scan after one more character, or nothing if the character begins a comment. -/
def next (c : Char) : Scan → Option Scan
  | .plain =>
    if Text.isBlank c && c != '\n' && c != '\r' then some .blank else some (afterPlain c)
  | .blank => if c = '#' then none else some (afterPlain c)
  | .escaped => some .plain
  | .single => some (if c = '\\' then .singleEscaped else if c = '\'' then .plain else .single)
  | .singleEscaped => some .single
  | .double => some (if c = '\\' then .doubleEscaped else if c = '"' then .plain else .double)
  | .doubleEscaped => some .double

/-- Scans characters up to a comment. Gives those before the comment and, if there is none, where
the scan ends. -/
def run : Scan → List Char → List Char × Option Scan
  | scan, [] => ([], some scan)
  | scan, c :: cs =>
    match scan.next c with
    | none => ([], none)
    | some scan =>
      match scan.run cs with
      | (before, last?) => (c :: before, last?)

end Scan

/-- Splits bytes behind every line feed. -/
def splitLines (line : List UInt8) : List UInt8 → List (List UInt8)
  | [] => if line = [] then [] else [line]
  | b :: bs => if b = 0x0A then (line ++ [b]) :: splitLines [] bs else splitLines (line ++ [b]) bs

/-- Characters without the line feed at their end and the carriage return before it. -/
def dropLineEnd (cs : List Char) : List Char :=
  match cs.reverse with
  | '\n' :: '\r' :: rest => rest.reverse
  | '\n' :: rest => rest.reverse
  | _ => cs

/-- Whether nothing but blanks stands before a hash. -/
def isComment (cs : List Char) : Bool :=
  (cs.dropWhile Text.isBlank).head? == some '#'

/-- The lines, quoted line feeds included, as far as they can be read. `begun` holds what came
before in the line, and `scan` where that left off. -/
def joinLines (begun : List Char) (scan : Scan) : List (List UInt8) → List (List Char)
  | [] => []
  | bytes :: rest =>
    match Text.decode ⟨bytes.toArray⟩ with
    | none => []
    | some piece =>
      let line := begun ++ piece.toList
      if isComment line then [] :: joinLines [] .plain rest
      else
        match scan.run piece.toList with
        | (before, none) => (begun ++ before) :: joinLines [] .plain rest
        | (_, some .plain) => dropLineEnd line :: joinLines [] .plain rest
        | (_, some scan) => joinLines line scan rest

/-- The lines of a file. A mark of the byte order in front means nothing. -/
def lines (content : ByteArray) : List (List Char) :=
  match content.toList with
  | 0xEF :: 0xBB :: 0xBF :: bytes => joinLines [] .plain (splitLines [] bytes)
  | bytes => joinLines [] .plain (splitLines [] bytes)

end SessionKeeper.EnvironmentFile
