import SessionKeeper.FileTree.Basic

/-!
# Typing

How a line comes about at a terminal that does not show it. A key adds its character, takes back
some of what was typed, or ends the line. Keys that send an escape sequence and other control
characters do nothing.
-/

namespace SessionKeeper.Typing

/-- What a key does. -/
inductive Key
  | character (c : Char)
  | eraseCharacter
  | eraseWord
  | eraseLine
  | endLine
  | endInput
  | interrupt
  | escape
  | nothing
  deriving DecidableEq, Repr

/-- Control characters, those behind the delete character included. -/
def isControl (c : Char) : Bool :=
  c.toNat < 0x20 || (0x7F ≤ c.toNat && c.toNat ≤ 0x9F)

/-- What the key that sends a character does. -/
def Key.of (c : Char) : Key :=
  if c = '\n' ∨ c = '\r' then .endLine
  else if c = '\x08' ∨ c = '\x7f' then .eraseCharacter
  else if c = '\x17' then .eraseWord
  else if c = '\x15' then .eraseLine
  else if c = '\x04' then .endInput
  else if c = '\x03' then .interrupt
  else if c = '\x1b' then .escape
  else if isControl c then .nothing
  else .character c

/-- Where the keys stand in an escape sequence. -/
inductive Place
  | outside
  | begun
  | parameters
  | last
  deriving DecidableEq, Repr

/-- Where the keys stand behind a character of an escape sequence. -/
def Place.next : Place → Char → Place
  | .outside, _ => .outside
  | .begun, c => if c = '[' then .parameters else if c = 'O' then .last else .outside
  | .parameters, c => if '@' ≤ c ∧ c ≤ '~' then .outside else .parameters
  | .last, _ => .outside

/-- A reversed line without its last word and the spaces behind it. -/
def dropWord (line : List Char) : List Char :=
  (line.dropWhile fun c => c == ' ').dropWhile fun c => c != ' '

/-- Reads keys until one ends the line, of which the reversed `line` was typed before. Gives the
keys that are left. -/
def readFrom (place : Place) (line : List Char) :
    List Char → Except IoError String × List Char
  | [] => (.error .endOfFile, [])
  | c :: keys =>
    if place ≠ .outside ∧ Key.of c ≠ .endLine then readFrom (place.next c) line keys
    else
      match Key.of c with
      | .character c => readFrom .outside (c :: line) keys
      | .eraseCharacter => readFrom .outside line.tail keys
      | .eraseWord => readFrom .outside (dropWord line) keys
      | .eraseLine => readFrom .outside [] keys
      | .endLine => (.ok (String.ofList line.reverse), keys)
      | .endInput =>
        if line = [] then (.error .endOfFile, keys) else readFrom .outside line keys
      | .interrupt => (.error .interrupted, keys)
      | .escape => readFrom .begun line keys
      | .nothing => readFrom .outside line keys

/-- Reads a line. -/
def readLine (keys : List Char) : Except IoError String × List Char :=
  readFrom .outside [] keys

end SessionKeeper.Typing
