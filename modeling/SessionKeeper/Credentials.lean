import SessionKeeper.Json.Printer
import SessionKeeper.Json.Record

/-!
# Credentials and what they are answered with

What is sent to sign in or to register, and the two answers.
-/

namespace SessionKeeper

/-- What a user signs in with. It is sent and never stored. -/
structure Credentials where
  email : String
  password : String
  deriving DecidableEq, Repr

/-- The body of a request with credentials. -/
def Credentials.toValue (c : Credentials) : Json.Value :=
  .object [("email", .text c.email), ("password", .text c.password)]

/-- The credentials as a log shows them, without the password. -/
def Credentials.shown (c : Credentials) : String :=
  s!"Credentials \x7b email: {Text.quoted c.email}, password: \"<redacted>\" \x7d"

/-- The answer to a sign-in. -/
structure LoginResponse where
  token : String
  deriving DecidableEq, Repr

namespace LoginResponse

/-- The answer to a sign-in, while it is read. -/
structure Draft where
  token : Option String

/-- How the answer to a sign-in is read. -/
def shape : Json.Shape Draft LoginResponse where
  name := "LoginResponse"
  slots := [.of "token" false (·.token) (fun s d => { d with token := some s })
    fun _ => Json.readText "a string"]
  blank := ⟨none⟩
  build := fun d =>
    match d.token with
    | some token => .ok ⟨token⟩
    | none => .error "token"

/-- The answer of a body. -/
def parse (text : String) : Except Json.Error LoginResponse :=
  Json.readWhole shape.read text

/-- The answer as a JSON record. -/
def toValue (r : LoginResponse) : Json.Value :=
  .object [("token", .text r.token)]

end LoginResponse

/-- The answer to a registration. -/
structure RegisterResponse where
  id : Option String
  token : String
  deriving DecidableEq, Repr

namespace RegisterResponse

/-- The id that a value stands for: a text, or an integer of 64 bits in decimal digits. -/
def idOf : Json.Value → Except Json.Cause String
  | .text s => .ok s
  | .number (.natural n) =>
    if n < Nat.pow 2 63 then .ok (toString n) else .error (.noMatchingVariant "IdRepr")
  | .number (.negative n) => .ok (toString n)
  | _ => .error (.noMatchingVariant "IdRepr")

/-- Reads an id, which may be `null`. -/
def readId (depth : Nat) : Json.Reader (Except Json.Cause (Option String)) := fun cs =>
  (Json.readOptional (Json.readValue depth) cs).map fun
    | (none, rest) => (.ok none, rest)
    | (some v, rest) => ((idOf v).map some, rest)

/-- The answer to a registration, while it is read. -/
structure Draft where
  id : Option (Option String)
  token : Option String

/-- How the answer to a registration is read. The id may be missing. -/
def shape : Json.Shape Draft RegisterResponse where
  name := "RegisterResponse"
  slots := [
    { key := "id"
      mayBeAbsent := true
      isFilled := fun d => d.id.isSome
      read := fun depth cs =>
        (readId depth cs).map fun (id, rest) =>
          (id.map fun id d => { d with id := some id }, rest) },
    .of "token" false (·.token) (fun s d => { d with token := some s })
      fun _ => Json.readText "a string"]
  blank := ⟨none, none⟩
  build := fun d =>
    match d.token with
    | some token => .ok ⟨d.id.join, token⟩
    | none => .error "token"

/-- The answer of a body. -/
def parse (text : String) : Except Json.Error RegisterResponse :=
  Json.readWhole shape.read text

/-- The answer as a JSON record. An id that is not there is left out. -/
def toValue (r : RegisterResponse) : Json.Value :=
  .object <|
    (match r.id with
    | none => []
    | some id => [("id", .text id)]) ++ [("token", .text r.token)]

end RegisterResponse

end SessionKeeper
