import SessionKeeper.Json.Number

/-!
# Passing over a value

A value that nobody asked for is checked for its shape only, to any depth: a list of the brackets
that are still open stands in for recursion.
-/

namespace SessionKeeper.Json

/-- A bracket that is open. -/
inductive Bracket
  | list
  | object
  deriving DecidableEq, Repr

/-- What is met when the text ends inside a bracket. -/
def Bracket.eof : Bracket → Cause
  | .list => .eofInList
  | .object => .eofInObject

/-- What is met when an item is followed by neither a comma nor the closing bracket. -/
def Bracket.unclosed : Bracket → Cause
  | .list => .expectedCommaOrBracket
  | .object => .expectedCommaOrBrace

/-- The character that closes a bracket. -/
def Bracket.closing : Bracket → Char
  | .list => ']'
  | .object => '}'

/-- Passes over a scalar that begins with `c`. -/
def skipScalar (c : Char) (rest : List Char) : Except Fault (List Char) :=
  if c = 'n' then expectWord ['u', 'l', 'l'] rest
  else if c = 't' then expectWord ['r', 'u', 'e'] rest
  else if c = 'f' then expectWord ['a', 'l', 's', 'e'] rest
  else if c = '-' ∨ c.isDigit then skipNumber c rest
  else if c = '"' then skipString rest
  else .error (.lookingAt .expectedValue (c :: rest))

/-- Passes over the key and the colon that an object wants before each value. -/
def skipKey (cs : List Char) : Except Fault (List Char) :=
  match skipSpace cs with
  | [] => .error ⟨.eofInObject, 0⟩
  | c :: rest =>
    if c = '"' then
      match skipString rest with
      | .error f => .error f
      | .ok rest => expectColon rest
    else .error (.lookingAt .keyNotString (c :: rest))

/-- Passes over what stands before the next item of a bracket. -/
def Bracket.skipLead : Bracket → List Char → Except Fault (List Char)
  | .list, cs => .ok cs
  | .object, cs => skipKey cs

/-- Behind an item: closes brackets until one goes on with a comma, and stops before the next item
or behind the whole value. -/
def closeWithin : Nat → List Bracket → List Char → Except Fault (List Bracket × List Char)
  | 0, _, _ => .error ⟨.eofInValue, 0⟩
  | _ + 1, [], cs => .ok ([], cs)
  | fuel + 1, b :: open?, cs =>
    match skipSpace cs with
    | [] => .error ⟨b.eof, 0⟩
    | c :: rest =>
      if c = ',' then
        match b.skipLead rest with
        | .error f => .error f
        | .ok rest => .ok (b :: open?, rest)
      else if c = b.closing then closeWithin fuel open? rest
      else .error (.lookingAt b.unclosed (c :: rest))

/-- Passes over an item inside the brackets `open?`, and over everything up to their end. -/
def skipWithin : Nat → List Bracket → List Char → Except Fault (List Char)
  | 0, _, _ => .error ⟨.eofInValue, 0⟩
  | fuel + 1, open?, cs =>
    match skipSpace cs with
    | [] => .error ⟨.eofInValue, 0⟩
    | c :: rest =>
      if c = '[' ∨ c = '{' then
        let b := if c = '[' then Bracket.list else Bracket.object
        match skipSpace rest with
        | [] => .error ⟨b.eof, 0⟩
        | d :: rest' =>
          if d = b.closing then
            match closeWithin (rest'.length + 1) open? rest' with
            | .error f => .error f
            | .ok ([], rest) => .ok rest
            | .ok (open?, rest) => skipWithin fuel open? rest
          else
            match b.skipLead rest with
            | .error f => .error f
            | .ok rest => skipWithin fuel (b :: open?) rest
      else
        match skipScalar c rest with
        | .error f => .error f
        | .ok rest =>
          match closeWithin (rest.length + 1) open? rest with
          | .error f => .error f
          | .ok ([], rest) => .ok rest
          | .ok (open?, rest) => skipWithin fuel open? rest

/-- Passes over a value. -/
def skipValue (cs : List Char) : Except Fault (List Char) :=
  skipWithin (cs.length + 1) [] cs

end SessionKeeper.Json
