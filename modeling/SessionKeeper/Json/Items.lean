import SessionKeeper.Json.Skip

/-!
# Items of lists and objects

What stands between the items of a bracket that is being read, and how the bracket ends. These are
the same whatever the items are read into.
-/

namespace SessionKeeper.Json

/-- Brackets may be nested this deep, less one. -/
def depthLimit : Nat := 128

/-- Reads up to the next element of a list. `none` leaves the closing bracket in place. -/
def nextElement (first : Bool) (cs : List Char) : Except Fault (Bool × List Char) :=
  match skipSpace cs with
  | [] => .error ⟨.eofInList, 0⟩
  | c :: rest =>
    if c = ']' then .ok (false, c :: rest)
    else if first then .ok (true, c :: rest)
    else if c = ',' then
      match skipSpace rest with
      | [] => .error ⟨.eofInValue, 0⟩
      | d :: rest =>
        if d = ']' then .error (.lookingAt .trailingComma (d :: rest)) else .ok (true, d :: rest)
    else .error (.lookingAt .expectedCommaOrBracket (c :: rest))

/-- Reads up to and with the opening quote of the next key of an object. -/
def nextKey (first : Bool) (cs : List Char) : Except Fault (Bool × List Char) :=
  match skipSpace cs with
  | [] => .error ⟨.eofInObject, 0⟩
  | c :: rest =>
    if c = '}' then .ok (false, c :: rest)
    else if first then
      if c = '"' then .ok (true, rest) else .error (.lookingAt .keyNotString (c :: rest))
    else if c = ',' then
      match skipSpace rest with
      | [] => .error ⟨.eofInValue, 0⟩
      | d :: rest =>
        if d = '"' then .ok (true, rest)
        else if d = '}' then .error (.lookingAt .trailingComma (d :: rest))
        else .error (.lookingAt .keyNotString (d :: rest))
    else .error (.lookingAt .expectedCommaOrBrace (c :: rest))

/-- Reads the end of a list. -/
def endList (cs : List Char) : Except Fault (List Char) :=
  match skipSpace cs with
  | [] => .error ⟨.eofInList, 0⟩
  | c :: rest =>
    if c = ']' then .ok rest
    else if c = ',' then
      match skipSpace rest with
      | [] => .error ⟨.trailingCharacters, 0⟩
      | d :: rest =>
        if d = ']' then .error (.lookingAt .trailingComma (d :: rest))
        else .error (.lookingAt .trailingCharacters (d :: rest))
    else .error (.lookingAt .trailingCharacters (c :: rest))

/-- Reads the end of an object. -/
def endObject (cs : List Char) : Except Fault (List Char) :=
  match skipSpace cs with
  | [] => .error ⟨.eofInObject, 0⟩
  | c :: rest =>
    if c = '}' then .ok rest
    else if c = ',' then .error (.lookingAt .trailingComma (c :: rest))
    else .error (.lookingAt .trailingCharacters (c :: rest))

/-- How much is left of a text when a list is abandoned for what it holds: what would end it has
been consumed. -/
def leftAfterList (cs : List Char) : Nat :=
  match skipSpace cs with
  | [] => 0
  | c :: rest =>
    if c = ']' then Text.size rest
    else if c = ',' then Text.size (skipSpace rest)
    else Text.size (c :: rest)

/-- How much is left of a text when an object is abandoned for what it holds: what would end it has
been consumed. -/
def leftAfterObject (cs : List Char) : Nat :=
  match skipSpace cs with
  | [] => 0
  | c :: rest => if c = '}' then Text.size rest else Text.size (c :: rest)

end SessionKeeper.Json
