import SessionKeeper.Json.Typed

/-!
# Records

A record is written as an object of its fields, in any order and among other keys, or as a list of
its fields in their order. Both forms fill the slots of a draft; a draft that is complete enough
becomes the record.
-/

namespace SessionKeeper.Json

/-- A field of a record while it is read into drafts of type `δ`. The reader may accept a value and
still refuse it; the cause is then reported where the record is abandoned. -/
structure Slot (δ : Type) where
  key : String
  mayBeAbsent : Bool
  isFilled : δ → Bool
  read : Nat → Reader (Except Cause (δ → δ))

/-- How records of type `ρ` are read through drafts of type `δ`. `build` names the first field that
is missing from a draft. -/
structure Shape (δ ρ : Type) where
  name : String
  slots : List (Slot δ)
  blank : δ
  build : δ → Except String ρ

variable {δ ρ α : Type}

/-- A slot whose reader accepts every value it reads. -/
def Slot.of (key : String) (mayBeAbsent : Bool) (get : δ → Option α) (put : α → δ → δ)
    (read : Nat → Reader α) : Slot δ where
  key := key
  mayBeAbsent := mayBeAbsent
  isFilled := fun d => (get d).isSome
  read := fun depth cs => (read depth cs).map fun (a, rest) => (.ok (put a), rest)

/-- How errors call a record. -/
def Shape.title (shape : Shape δ ρ) : String :=
  s!"struct {shape.name}"

/-- How errors call a record whose list of fields is too short. -/
def Shape.sizedTitle (shape : Shape δ ρ) : String :=
  match shape.slots.length with
  | 1 => s!"struct {shape.name} with 1 element"
  | n => s!"struct {shape.name} with {n} elements"

/-- Fills the slots from the elements of a list, the first of which is for slot number `index`. -/
def Shape.readElements (shape : Shape δ ρ) (depth : Nat) :
    List (Slot δ) → Nat → Bool → δ → Reader δ
  | [], _, _, draft, cs => .ok (draft, cs)
  | slot :: slots, index, first, draft, cs =>
    match nextElement first cs with
    | .error f => .error f
    | .ok (false, rest) =>
      if slot.mayBeAbsent then shape.readElements depth slots (index + 1) first draft rest
      else .error ⟨.invalidLength index shape.sizedTitle, leftAfterList rest⟩
    | .ok (true, rest) =>
      match slot.read depth rest with
      | .error f => .error f
      | .ok (.error cause, rest) => .error ⟨cause, leftAfterList rest⟩
      | .ok (.ok put, rest) => shape.readElements depth slots (index + 1) false (put draft) rest

/-- Fills the slots from the members of an object, within `fuel` members. -/
def Shape.readFieldsWithin (shape : Shape δ ρ) (depth : Nat) : Nat → Bool → δ → Reader δ
  | 0, _, _, _ => .error ⟨.eofInObject, 0⟩
  | fuel + 1, first, draft, cs =>
    match nextKey first cs with
    | .error f => .error f
    | .ok (false, rest) => .ok (draft, rest)
    | .ok (true, rest) =>
      match readString rest with
      | .error f => .error f
      | .ok (key, rest) =>
        match shape.slots.find? fun slot => slot.key == key with
        | none =>
          match expectColon rest with
          | .error f => .error f
          | .ok rest =>
            match skipValue rest with
            | .error f => .error f
            | .ok rest => shape.readFieldsWithin depth fuel false draft rest
        | some slot =>
          if slot.isFilled draft then .error ⟨.duplicateField key, leftAfterObject rest⟩
          else
            match expectColon rest with
            | .error f => .error f
            | .ok rest =>
              match slot.read depth rest with
              | .error f => .error f
              | .ok (.error cause, rest) => .error ⟨cause, leftAfterObject rest⟩
              | .ok (.ok put, rest) => shape.readFieldsWithin depth fuel false (put draft) rest

/-- The record of a draft that was read up to `cs`. -/
def Shape.finish (shape : Shape δ ρ) (draft : δ) (cs : List Char) (left : Nat) :
    Except Fault (ρ × List Char) :=
  match shape.build draft with
  | .ok record => .ok (record, cs)
  | .error key => .error ⟨.missingField key, left⟩

/-- Reads a record in either form. -/
def Shape.read (shape : Shape δ ρ) (depth : Nat) : Reader ρ := fun cs =>
  match skipSpace cs with
  | [] => .error ⟨.eofInValue, 0⟩
  | c :: rest =>
    if c = '[' then
      if depth ≤ 1 then .error (.lookingAt .recursionLimit (c :: rest))
      else
        match shape.readElements (depth - 1) shape.slots 0 true shape.blank rest with
        | .error f => .error f
        | .ok (draft, rest) =>
          match endList rest with
          | .error f => .error f
          | .ok rest => shape.finish draft rest (Text.size rest)
    else if c = '{' then
      if depth ≤ 1 then .error (.lookingAt .recursionLimit (c :: rest))
      else
        match shape.readFieldsWithin (depth - 1) (rest.length + 1) true shape.blank rest with
        | .error f => .error f
        | .ok (draft, rest) =>
          match endObject rest with
          | .error f => .error f
          | .ok rest => shape.finish draft rest (Text.size rest)
    else .error (mismatch shape.title c rest)

end SessionKeeper.Json
