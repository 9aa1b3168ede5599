import SessionKeeper.Json.Printer
import SessionKeeper.Json.Typed
import SessionKeeper.Store.Memory

/-!
# The storage document

All texts of a store as one JSON object of strings, laid out with a line for each key. A document
that is read may have its keys in any order and more than once; of equal keys the last counts.
-/

namespace SessionKeeper.Entries

/-- Reads the members of an object of strings, within `fuel` members. -/
def readMembersWithin : Nat → Bool → Entries → Json.Reader Entries
  | 0, _, _, _ => .error ⟨.eofInObject, 0⟩
  | fuel + 1, first, entries, cs =>
    match Json.nextKey first cs with
    | .error f => .error f
    | .ok (false, rest) => .ok (entries, rest)
    | .ok (true, rest) =>
      match Json.readString rest with
      | .error f => .error f
      | .ok (key, rest) =>
        match Json.expectColon rest with
        | .error f => .error f
        | .ok rest =>
          match Json.readText "a string" rest with
          | .error f => .error f
          | .ok (value, rest) => readMembersWithin fuel false (entries.insert key value) rest

/-- Reads an object of strings. -/
def read (depth : Nat) : Json.Reader Entries := fun cs =>
  match Json.skipSpace cs with
  | [] => .error ⟨.eofInValue, 0⟩
  | c :: rest =>
    if c = '{' then
      if depth ≤ 1 then .error (.lookingAt .recursionLimit (c :: rest))
      else
        match readMembersWithin (rest.length + 1) true .empty rest with
        | .error f => .error f
        | .ok (entries, rest) => (Json.endObject rest).map fun rest => (entries, rest)
    else .error (Json.mismatch "a map" c rest)

/-- The entries of a document. -/
def parse (text : String) : Except Json.Error Entries :=
  Json.readWhole read text

/-- The entries as a JSON object. -/
def toValue (entries : Entries) : Json.Value :=
  .object (entries.toList.map fun b => (b.1, .text b.2))

/-- The document of the entries. -/
def render (entries : Entries) : String :=
  entries.toValue.pretty

end SessionKeeper.Entries
