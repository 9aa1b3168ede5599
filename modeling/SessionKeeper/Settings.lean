import SessionKeeper.FileTree.Basic
import SessionKeeper.Json.Printer
import SessionKeeper.Json.Record
import SessionKeeper.Text.Blank
import SessionKeeper.Text.Natural

/-!
# Settings

Which server is asked, with which key and how long, and where the session is kept. Settings are read
from a file that may leave out any of them, and variables of the environment go before the file.
-/

namespace SessionKeeper

/-- Where the session is kept. -/
inductive Backend
  | file
  | keychain
  | memory
  deriving DecidableEq, Repr

namespace Backend

/-- The name of a backend. -/
def label : Backend → String
  | .file => "file"
  | .keychain => "keyring"
  | .memory => "memory"

/-- The name of a backend as the log shows it. -/
def title : Backend → String
  | .file => "File"
  | .keychain => "Keyring"
  | .memory => "Memory"

/-- The backends by their names. -/
def choices : List (String × Backend) :=
  [(label .file, .file), (label .keychain, .keychain), (label .memory, .memory)]

/-- The backends by the names that a user may give them. -/
def aliases : List (String × Backend) :=
  choices ++ [("keychain", .keychain)]

/-- The backend of a name, whatever its case and the blanks around it. An error is what the name
comes to. -/
def ofName (s : String) : Except String Backend :=
  match aliases.lookup (Text.normalized s) with
  | some backend => .ok backend
  | none => .error (Text.normalized s)

/-- What is said about a name that is no backend. -/
def unknownMessage (name : String) : String :=
  s!"Unknown store backend: {name}"

/-- Reads a backend. -/
def read (depth : Nat) : Json.Reader Backend :=
  Json.readChoice choices depth

end Backend

/-- The settings. -/
structure Settings where
  baseUrl : String
  apiKey : String
  timeoutSeconds : Nat
  backend : Backend
  dataDirectory : Option Path
  deriving DecidableEq, Repr

/-- Why settings could not be found or understood. -/
inductive SettingsError
  | unreadable (path : Path) (error : IoError)
  | unparsable (error : Json.Error)
  | badTimeout (text : String) (error : Text.NaturalError)
  | unknownBackend (name : String)
  deriving DecidableEq, Repr

/-- The wording of the error and of what it comes from, outermost first. -/
def SettingsError.chain : SettingsError → List String
  | .unreadable path e => [s!"Failed to read config file {path.text}", e.message]
  | .unparsable e => ["Failed to parse config file", e.message]
  | .badTimeout text e => [s!"ALLEASY_TIMEOUT_SECS is not a number: {text}", e.message]
  | .unknownBackend name => [Backend.unknownMessage name]

namespace Settings

/-- The settings that hold when nothing else is said. -/
def initial : Settings where
  baseUrl := "https://reqres.in/api"
  apiKey := "reqres-free-v1"
  timeoutSeconds := 10
  backend := .file
  dataDirectory := none

/-- Settings while they are read. -/
structure Draft where
  baseUrl : Option String
  apiKey : Option String
  timeoutSeconds : Option Nat
  backend : Option Backend
  dataDirectory : Option (Option Path)

/-- Reads a path. -/
def readPath : Json.Reader Path := fun cs =>
  (Json.readText "path string" cs).map fun (s, rest) => (⟨s⟩, rest)

/-- How settings are read. All of them may be missing. -/
def shape : Json.Shape Draft Settings where
  name := "Config"
  slots := [
    .of "base_url" true (·.baseUrl) (fun s d => { d with baseUrl := some s })
      fun _ => Json.readText "a string",
    .of "api_key" true (·.apiKey) (fun s d => { d with apiKey := some s })
      fun _ => Json.readText "a string",
    .of "timeout_secs" true (·.timeoutSeconds) (fun n d => { d with timeoutSeconds := some n })
      fun _ => Json.readBounded 64 "u64",
    .of "store" true (·.backend) (fun b d => { d with backend := some b }) Backend.read,
    .of "data_dir" true (·.dataDirectory) (fun p d => { d with dataDirectory := some p })
      fun _ => Json.readOptional readPath]
  blank := ⟨none, none, none, none, none⟩
  build := fun d => .ok
    { baseUrl := d.baseUrl.getD initial.baseUrl
      apiKey := d.apiKey.getD initial.apiKey
      timeoutSeconds := d.timeoutSeconds.getD initial.timeoutSeconds
      backend := d.backend.getD initial.backend
      dataDirectory := d.dataDirectory.getD initial.dataDirectory }

/-- The settings of a text. -/
def parse (text : String) : Except Json.Error Settings :=
  Json.readWhole shape.read text

/-- The settings as a JSON record. -/
def toValue (s : Settings) : Json.Value :=
  .object [
    ("base_url", .text s.baseUrl),
    ("api_key", .text s.apiKey),
    ("timeout_secs", .number (.natural s.timeoutSeconds)),
    ("store", .text s.backend.label),
    ("data_dir", match s.dataDirectory with
      | none => .null
      | some path => .text path.text)]

/-- The text of the settings. -/
def render (s : Settings) : String :=
  s.toValue.pretty

/-- The settings with those that variables of the environment give. -/
def override (s : Settings) (look : String → Option String) :
    Except SettingsError Settings := do
  let s := match look "ALLEASY_BASE_URL" with
    | some url => { s with baseUrl := url }
    | none => s
  let s := match look "ALLEASY_API_KEY" with
    | some key => { s with apiKey := key }
    | none => s
  let s ← match look "ALLEASY_TIMEOUT_SECS" with
    | some text =>
      match Text.readNatural text with
      | .ok n => .ok { s with timeoutSeconds := n }
      | .error e => .error (.badTimeout text e)
    | none => .ok s
  let s ← match look "ALLEASY_STORE" with
    | some name =>
      match Backend.ofName name with
      | .ok backend => .ok { s with backend := backend }
      | .error name => .error (.unknownBackend name)
    | none => .ok s
  match look "ALLEASY_DATA_DIR" with
  | some path => .ok { s with dataDirectory := some ⟨path⟩ }
  | none => .ok s

end Settings

end SessionKeeper
