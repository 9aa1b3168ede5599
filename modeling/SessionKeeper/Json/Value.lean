import SessionKeeper.Json.Items

/-!
# Values of any shape

A JSON document as a tree. Objects keep their members in the order of the text, with every key as
often as it was written; `Value.normalized` gives the document that is meant, in which the last
member of a key counts and the keys ascend.
-/

namespace SessionKeeper.Json

/-- A JSON document. -/
inductive Value
  | null
  | boolean (b : Bool)
  | number (n : Number)
  | text (s : String)
  | list (items : List Value)
  | object (members : List (String × Value))
  deriving Repr

/-- Reads a value whose brackets may be nested `depth` deep, less one, within `fuel` steps. -/
def readValueWithin : Nat → Nat → Reader Value
  | 0, _, _ => .error ⟨.eofInValue, 0⟩
  | fuel + 1, depth, cs =>
    match skipSpace cs with
    | [] => .error ⟨.eofInValue, 0⟩
    | c :: rest =>
      if c = 'n' then (expectWord ['u', 'l', 'l'] rest).map fun rest => (.null, rest)
      else if c = 't' then (expectWord ['r', 'u', 'e'] rest).map fun rest => (.boolean true, rest)
      else if c = 'f' then
        (expectWord ['a', 'l', 's', 'e'] rest).map fun rest => (.boolean false, rest)
      else if c = '-' ∨ c.isDigit then
        (readNumber c rest).map fun (n, rest) => (.number n, rest)
      else if c = '"' then (readString rest).map fun (s, rest) => (.text s, rest)
      else if c = '[' then
        if depth ≤ 1 then .error (.lookingAt .recursionLimit (c :: rest))
        else readItems fuel (depth - 1) true rest []
      else if c = '{' then
        if depth ≤ 1 then .error (.lookingAt .recursionLimit (c :: rest))
        else readMembers fuel (depth - 1) true rest []
      else .error (.lookingAt .expectedValue (c :: rest))
where
  /-- Reads the elements of a list behind those in `seen`, the latest of which is in front. -/
  readItems : Nat → Nat → Bool → List Char → List Value → Except Fault (Value × List Char)
    | 0, _, _, _, _ => .error ⟨.eofInValue, 0⟩
    | fuel + 1, depth, first, cs, seen =>
      match nextElement first cs with
      | .error f => .error f
      | .ok (false, rest) => (endList rest).map fun rest => (.list seen.reverse, rest)
      | .ok (true, rest) =>
        match readValueWithin fuel depth rest with
        | .error f => .error f
        | .ok (v, rest) => readItems fuel depth false rest (v :: seen)
  /-- Reads the members of an object behind those in `seen`, the latest of which is in front. -/
  readMembers :
      Nat → Nat → Bool → List Char → List (String × Value) → Except Fault (Value × List Char)
    | 0, _, _, _, _ => .error ⟨.eofInValue, 0⟩
    | fuel + 1, depth, first, cs, seen =>
      match nextKey first cs with
      | .error f => .error f
      | .ok (false, rest) => (endObject rest).map fun rest => (.object seen.reverse, rest)
      | .ok (true, rest) =>
        match readString rest with
        | .error f => .error f
        | .ok (key, rest) =>
          match expectColon rest with
          | .error f => .error f
          | .ok rest =>
            match readValueWithin fuel depth rest with
            | .error f => .error f
            | .ok (v, rest) => readMembers fuel depth false rest ((key, v) :: seen)

/-- Reads a value of any shape. -/
def readValue (depth : Nat) : Reader Value := fun cs =>
  readValueWithin (2 * cs.length + 2) depth cs

/-- Puts a member into an ascending list of members, over an earlier one of the same key. -/
def putMember (key : String) (v : Value) : List (String × Value) → List (String × Value)
  | [] => [(key, v)]
  | (k, w) :: rest =>
    if key < k then (key, v) :: (k, w) :: rest
    else if key = k then (key, v) :: rest
    else (k, w) :: putMember key v rest

mutual

/-- The document with ascending keys, of equal keys the last. -/
def Value.normalized : Value → Value
  | .list items => .list (normalizedItems items)
  | .object members => .object (normalizedMembers members [])
  | v => v

/-- `Value.normalized` for every item. -/
def normalizedItems : List Value → List Value
  | [] => []
  | v :: vs => v.normalized :: normalizedItems vs

/-- The members put one after another into ascending members. -/
def normalizedMembers : List (String × Value) → List (String × Value) → List (String × Value)
  | [], done => done
  | (k, v) :: rest, done => normalizedMembers rest (putMember k v.normalized done)

end

end SessionKeeper.Json
