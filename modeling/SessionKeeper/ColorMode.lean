import SessionKeeper.Json.Printer
import SessionKeeper.Json.Record
import SessionKeeper.Text.Blank

/-!
# Colour modes

The light and the dark mode, their names, and the stored record of a preference. The record carries
a version, which is written as zero and read as any number of 32 bits.
-/

namespace SessionKeeper

/-- A colour mode. -/
inductive ColorMode
  | light
  | dark
  deriving DecidableEq, Repr

namespace ColorMode

/-- The mode without a preference. -/
def initial : ColorMode := .light

/-- The other mode. -/
def toggled : ColorMode → ColorMode
  | .light => .dark
  | .dark => .light

/-- The name of a mode. -/
def label : ColorMode → String
  | .light => "light"
  | .dark => "dark"

/-- The modes by their names. -/
def choices : List (String × ColorMode) :=
  [(label .light, .light), (label .dark, .dark)]

/-- The mode of a name, whatever its case and the blanks around it. An error is what the name comes
to. -/
def ofName (s : String) : Except String ColorMode :=
  match choices.lookup (Text.normalized s) with
  | some mode => .ok mode
  | none => .error (Text.normalized s)

/-- What is said about a name that is no mode. -/
def unknownMessage (name : String) : String :=
  s!"Unknown colour mode: {name}"

/-- The key that the preference is stored under. -/
def key : String := "theme-storage"

/-- Reads a mode. -/
def read (depth : Nat) : Json.Reader ColorMode :=
  Json.readChoice choices depth

/-- The state of a stored preference, while it is read. -/
structure StateDraft where
  mode : Option ColorMode

/-- How the state of a stored preference is read. The mode may be missing. -/
def stateShape : Json.Shape StateDraft ColorMode where
  name := "ThemeState"
  slots := [.of "colorMode" true (·.mode) (fun m d => { d with mode := some m }) read]
  blank := ⟨none⟩
  build := fun d => .ok (d.mode.getD initial)

/-- A stored preference, while it is read. -/
structure PreferenceDraft where
  state : Option ColorMode
  version : Option Nat

/-- How a stored preference is read. The version may be missing. -/
def preferenceShape : Json.Shape PreferenceDraft ColorMode where
  name := "PersistedTheme"
  slots := [
    .of "state" false (·.state) (fun m d => { d with state := some m }) stateShape.read,
    .of "version" true (·.version) (fun n d => { d with version := some n })
      fun _ => Json.readBounded 32 "u32"]
  blank := ⟨none, none⟩
  build := fun d =>
    match d.state with
    | some mode => .ok mode
    | none => .error "state"

/-- The mode of a stored text. -/
def parse (text : String) : Except Json.Error ColorMode :=
  Json.readWhole preferenceShape.read text

/-- The preference as a JSON record. -/
def toValue (mode : ColorMode) : Json.Value :=
  .object [("state", .object [("colorMode", .text mode.label)]), ("version", .number (.natural 0))]

/-- The text that a preference is stored as. -/
def render (mode : ColorMode) : String :=
  mode.toValue.compact

end ColorMode

end SessionKeeper
