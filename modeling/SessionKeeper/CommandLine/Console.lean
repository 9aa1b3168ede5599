import SessionKeeper.CommandLine.Typing
import SessionKeeper.Text.Blank

/-!
# The console

The standard streams of a process, and the terminal that passwords are typed at, which need not be
there.
-/

namespace SessionKeeper

/-- What can still be read, the keys that will be pressed, and what was printed. -/
structure Console where
  input : List UInt8
  terminal : Option (List Char)
  output : String
  errors : String
  deriving DecidableEq, Repr

namespace Console

/-- A console on which nothing was printed. -/
def start (input : ByteArray) (terminal : Option (List Char)) : Console :=
  ⟨input.toList, terminal, "", ""⟩

/-- Prints a text. -/
def print (s : String) (c : Console) : Console :=
  { c with output := c.output ++ s }

/-- Prints a text where errors are printed. -/
def complain (s : String) (c : Console) : Console :=
  { c with errors := c.errors ++ s }

/-- The bytes up to and with the first line feed, and those behind it. -/
def splitLine : List UInt8 → List UInt8 × List UInt8
  | [] => ([], [])
  | b :: bs =>
    if b = 0x0A then ([b], bs)
    else
      match splitLine bs with
      | (line, rest) => (b :: line, rest)

/-- Reads a line of the input, without the blanks around it. -/
def readLine (c : Console) : Except IoError String × Console :=
  match splitLine c.input with
  | (line, rest) =>
    match Text.decode ⟨line.toArray⟩ with
    | none => (.error .notText, { c with input := rest })
    | some s => (.ok (Text.trim s), { c with input := rest })

/-- Reads a line that is typed at the terminal. -/
def readPassword (c : Console) : Except IoError String × Console :=
  match c.terminal with
  | none => (.error .noTerminal, c)
  | some keys =>
    match Typing.readLine keys with
    | (line, rest) => (line, { c with terminal := some rest })

end Console

end SessionKeeper
