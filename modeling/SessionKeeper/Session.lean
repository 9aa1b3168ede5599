import SessionKeeper.Json.Printer
import SessionKeeper.Json.Record
import SessionKeeper.Text.Blank

/-!
# Sessions

Who is signed in, as it is kept in memory and stored as a JSON record. A request needs only the
token of a stored session, which is read by itself and more leniently.
-/

namespace SessionKeeper

/-- A signed-in user. -/
structure Session where
  id : String
  email : String
  name : Option String
  token : String
  deriving DecidableEq, Repr

namespace Session

/-- The key that the session is stored under. -/
def key : String := "@AuthData:user"

/-- The id of a user for whom the server gives none. -/
def placeholderId : String := "1"

/-- Stands for the token where a session is shown. -/
def redactedToken : String := "[redacted]"

/-- A session while it is read. -/
structure Draft where
  id : Option String
  email : Option String
  name : Option (Option String)
  token : Option String

/-- How a session is read. The name may be missing. -/
def shape : Json.Shape Draft Session where
  name := "Session"
  slots := [
    .of "id" false (·.id) (fun s d => { d with id := some s }) fun _ => Json.readText "a string",
    .of "email" false (·.email) (fun s d => { d with email := some s })
      fun _ => Json.readText "a string",
    .of "name" true (·.name) (fun s d => { d with name := some s })
      fun _ => Json.readOptional (Json.readText "a string"),
    .of "token" false (·.token) (fun s d => { d with token := some s })
      fun _ => Json.readText "a string"]
  blank := ⟨none, none, none, none⟩
  build := fun d =>
    match d.id, d.email, d.token with
    | none, _, _ => .error "id"
    | some _, none, _ => .error "email"
    | some _, some _, none => .error "token"
    | some id, some email, some token => .ok ⟨id, email, d.name.join, token⟩

/-- The session of a stored text. -/
def parse (text : String) : Except Json.Error Session :=
  Json.readWhole shape.read text

/-- The session as a JSON record. A name that is not there is left out. -/
def toValue (s : Session) : Json.Value :=
  .object <|
    [("id", .text s.id), ("email", .text s.email)] ++
      (match s.name with
      | none => []
      | some name => [("name", .text name)]) ++
      [("token", .text s.token)]

/-- The text that a session is stored as. -/
def render (s : Session) : String :=
  s.toValue.compact

/-- The session as it may be shown. -/
def redacted (s : Session) : Session :=
  { s with token := redactedToken }

/-- What the user is called: the name, or the email if there is no name to read. -/
def displayName (s : Session) : String :=
  match s.name with
  | none => s.email
  | some name => if Text.allBlank name then s.email else name

end Session

/-- The token of a stored session, while it is read. -/
structure TokenDraft where
  token : Option (Option String)

/-- How the token of a stored session is read. Nothing else has to be there. -/
def storedTokenShape : Json.Shape TokenDraft (Option String) where
  name := "StoredToken"
  slots := [.of "token" true (·.token) (fun s d => { d with token := some s })
    fun _ => Json.readOptional (Json.readText "a string")]
  blank := ⟨none⟩
  build := fun d => .ok d.token.join

/-- The token of a stored text. -/
def storedToken (text : String) : Except Json.Error (Option String) :=
  Json.readWhole storedTokenShape.read text

end SessionKeeper
