import SessionKeeper.Environment
import SessionKeeper.EnvironmentFile.Assignment
import SessionKeeper.EnvironmentFile.Line

/-!
# Environment files

A file of assignments in the working directory or one above it, which sets variables that are not
set yet. A line that cannot be read ends it; what was set before stays.
-/

namespace SessionKeeper.EnvironmentFile

/-- The name of an environment file. -/
def fileName : String := ".env"

/-- The value of a name: that of the variable, or what the file assigned so far. -/
def lookup (e : Environment) (assigned : SortedMap String String) : Lookup := fun name =>
  match e.text? name with
  | some value => value
  | none => (assigned.get? name).getD ""

/-- The environment with a value for a variable that has no text yet. -/
def setDefault (e : Environment) (name value : String) : Environment :=
  match e.text? name with
  | some _ => e
  | none => e.set name value.toUTF8

/-- The environment after the lines of a file, some of which were read before. -/
def applyLines (e : Environment) (assigned : SortedMap String String) :
    List (List Char) → Environment
  | [] => e
  | line :: rest =>
    match readLine (lookup e assigned) line with
    | .nothing => applyLines e assigned rest
    | .malformed => e
    | .assignment name value =>
      applyLines (setDefault e name value) (assigned.insert name value) rest

/-- Where an environment file is looked for: in the working directory, and then in each one above
it. -/
def candidates (working : Location) : List Location :=
  (List.range (working.length + 1)).reverse.map fun n => working.take n ++ [fileName]

/-- The content of the nearest environment file. A directory of its name is passed over. -/
def find? (t : FileTree) : Option ByteArray :=
  (candidates t.working).findSome? fun l =>
    match t.node? l with
    | some (.file content) => some content
    | _ => none

/-- The environment with the variables of the nearest environment file. -/
def load (e : Environment) (t : FileTree) : Environment :=
  match find? t with
  | none => e
  | some content => applyLines e .empty (lines content)

end SessionKeeper.EnvironmentFile
