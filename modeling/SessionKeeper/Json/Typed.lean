import SessionKeeper.Json.Value

/-!
# Values of a given type

Readers that know what they want. What they find instead is named in the error, after it has been
read as far as its own grammar goes.
-/

namespace SessionKeeper.Json

/-- The error of a scalar that was read to its end but is not what was expected. -/
def mismatchAfter (found : Found) (expected : String) (rest : List Char) : Fault :=
  .before (.invalidType found expected) rest

/-- The error of a value of the wrong type that begins with `c`. -/
def mismatch (expected : String) (c : Char) (rest : List Char) : Fault :=
  if c = 'n' then
    match expectWord ['u', 'l', 'l'] rest with
    | .error f => f
    | .ok rest => mismatchAfter .null expected rest
  else if c = 't' then
    match expectWord ['r', 'u', 'e'] rest with
    | .error f => f
    | .ok rest => mismatchAfter (.boolean true) expected rest
  else if c = 'f' then
    match expectWord ['a', 'l', 's', 'e'] rest with
    | .error f => f
    | .ok rest => mismatchAfter (.boolean false) expected rest
  else if c = '-' ∨ c.isDigit then
    match readNumber c rest with
    | .error f => f
    | .ok (n, rest) => mismatchAfter n.found expected rest
  else if c = '"' then
    match readString rest with
    | .error f => f
    | .ok (s, rest) => mismatchAfter (.text s) expected rest
  else if c = '[' then mismatchAfter .sequence expected (c :: rest)
  else if c = '{' then mismatchAfter .map expected (c :: rest)
  else .lookingAt .expectedValue (c :: rest)

/-- Reads a string. -/
def readText (expected : String) : Reader String := fun cs =>
  match skipSpace cs with
  | [] => .error ⟨.eofInValue, 0⟩
  | c :: rest => if c = '"' then readString rest else .error (mismatch expected c rest)

/-- Reads `null`. -/
def readNull (expected : String) : Reader Unit := fun cs =>
  match skipSpace cs with
  | [] => .error ⟨.eofInValue, 0⟩
  | c :: rest =>
    if c = 'n' then (expectWord ['u', 'l', 'l'] rest).map fun rest => ((), rest)
    else .error (mismatch expected c rest)

/-- Reads `null` as nothing, and anything else with the given reader. -/
def readOptional {α : Type} (read : Reader α) : Reader (Option α) := fun cs =>
  match skipSpace cs with
  | [] => (read cs).map fun (a, rest) => (some a, rest)
  | c :: rest =>
    if c = 'n' then (expectWord ['u', 'l', 'l'] rest).map fun rest => (none, rest)
    else (read cs).map fun (a, rest) => (some a, rest)

/-- Reads a natural number of at most `bits` bits, whose type is called `expected`. -/
def readBounded (bits : Nat) (expected : String) : Reader Nat := fun cs =>
  match skipSpace cs with
  | [] => .error ⟨.eofInValue, 0⟩
  | c :: rest =>
    if c = '-' ∨ c.isDigit then
      match readNumber c rest with
      | .error f => .error f
      | .ok (.natural n, rest) =>
        if n < Nat.pow 2 bits then .ok (n, rest)
        else .error (.before (.invalidValue (.integer n) expected) rest)
      | .ok (.negative n, rest) => .error (.before (.invalidValue (.integer n) expected) rest)
      | .ok (.floating b, rest) => .error (mismatchAfter (.floating b) expected rest)
    else .error (mismatch expected c rest)

/-- The choice of a name. -/
def choose {α : Type} (choices : List (String × α)) (name : String) (rest : List Char) :
    Except Fault (α × List Char) :=
  match choices.lookup name with
  | some a => .ok (a, rest)
  | none => .error (.before (.unknownVariant name (choices.map Prod.fst)) rest)

/-- Reads the key of an object that has to have one, behind its brace. -/
def readOnlyKey : Reader String := fun cs =>
  match skipSpace cs with
  | [] => .error ⟨.eofInObject, 0⟩
  | c :: rest =>
    if c = '"' then readString rest
    else if c = '}' then .error (.lookingAt .expectedValue (c :: rest))
    else .error (.lookingAt .keyNotString (c :: rest))

/-- Reads one of several names, alone or as the key of an object whose value is `null`. -/
def readChoice {α : Type} (choices : List (String × α)) (depth : Nat) : Reader α := fun cs =>
  match skipSpace cs with
  | [] => .error ⟨.eofInValue, 0⟩
  | c :: rest =>
    if c = '"' then
      match readString rest with
      | .error f => .error f
      | .ok (name, rest) => choose choices name rest
    else if c = '{' then
      if depth ≤ 1 then .error (.lookingAt .recursionLimit (c :: rest))
      else
        match readOnlyKey rest with
        | .error f => .error f
        | .ok (name, rest) =>
          match choose choices name rest with
          | .error f => .error f
          | .ok (a, rest) =>
            match expectColon rest with
            | .error f => .error f
            | .ok rest =>
              match readNull "unit" rest with
              | .error f => .error f
              | .ok ((), rest) =>
                match skipSpace rest with
                | [] => .error ⟨.eofInObject, 0⟩
                | d :: rest =>
                  if d = '}' then .ok (a, rest)
                  else .error (.before .expectedValue (d :: rest))
    else .error (.lookingAt .expectedValue (c :: rest))

/-- Reads a whole text: nothing but white space may follow the value. -/
def readWhole {α : Type} (read : Nat → Reader α) (text : String) : Except Error α :=
  match read depthLimit text.toList with
  | .error f => .error (f.within text)
  | .ok (a, rest) =>
    match skipSpace rest with
    | [] => .ok a
    | c :: rest => .error ((Fault.lookingAt .trailingCharacters (c :: rest)).within text)

end SessionKeeper.Json
