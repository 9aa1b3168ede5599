import SessionKeeper.Settings

/-!
# The environment

Variables, and the directories that they and the account of the user determine. A directory of the
user counts only when it is absolute; without it a place below the home directory stands in.
-/

namespace SessionKeeper

/-- The variables of a process with their values, and the home directory of its account. A value
need not be text. -/
structure Environment where
  bindings : SortedMap String ByteArray
  accountHome : Path
  deriving DecidableEq

namespace Environment

/-- The value of a variable, if it is text. -/
def text? (e : Environment) (name : String) : Option String :=
  match e.bindings.get? name with
  | none => none
  | some bytes => Text.decode bytes

/-- The value of a variable as a path. -/
def path? (e : Environment) (name : String) : Option Path :=
  (e.bindings.get? name).map fun bytes => ⟨Text.decodeLossy bytes⟩

/-- The environment with another value for a variable. -/
def set (e : Environment) (name : String) (value : ByteArray) : Environment :=
  { e with bindings := e.bindings.insert name value }

/-- The environment without a variable. -/
def unset (e : Environment) (name : String) : Environment :=
  { e with bindings := e.bindings.erase name }

/-- The home directory. -/
def home (e : Environment) : Path :=
  match e.path? "HOME" with
  | none => e.accountHome
  | some path => if path.text = "" then e.accountHome else path

/-- The directory of a variable, or one below the home directory. -/
def userDirectory (e : Environment) (name : String) (fallback : Path) : Path :=
  match e.path? name with
  | none => e.home.join fallback
  | some path => if path.isAbsolute then path else e.home.join fallback

/-- The name of the application's own directories. -/
def application : Path := ⟨"alleasy"⟩

/-- Where the settings are kept. -/
def settingsPath (e : Environment) : Path :=
  ((e.userDirectory "XDG_CONFIG_HOME" ⟨".config"⟩).join application).join ⟨"config.json"⟩

/-- Where the data are kept when the settings do not say. -/
def dataDirectory (e : Environment) : Path :=
  (e.userDirectory "XDG_DATA_HOME" ⟨".local/share"⟩).join application

end Environment

namespace Settings

/-- The directory of the storage file. -/
def directory (s : Settings) (e : Environment) : Path :=
  s.dataDirectory.getD e.dataDirectory

/-- The settings of a file. A file that is not there says nothing. -/
def load (t : FileTree) (path : Path) : Except SettingsError Settings :=
  if t.pathExists path then
    match t.readText path with
    | .error e => .error (.unreadable path e)
    | .ok text =>
      match parse text with
      | .error e => .error (.unparsable e)
      | .ok s => .ok s
  else .ok initial

/-- Writes the settings to a file, and makes its directory. -/
def save (s : Settings) (t : FileTree) (path : Path) : Except IoError Unit × FileTree :=
  match path.parent? with
  | none => t.write path s.render.toUTF8
  | some directory =>
    match t.ensureDirectories directory with
    | (.error e, t) => (.error e, t)
    | (.ok (), t) => t.write path s.render.toUTF8

end Settings

end SessionKeeper
