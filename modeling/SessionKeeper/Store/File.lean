import SessionKeeper.Program.Basic
import SessionKeeper.Store.Document
import SessionKeeper.Text.Blank

/-!
# The store in a file

One document holds all entries. A change reads the document, makes the directories that are missing,
writes the new document to a sibling of the file and moves it over the file, so that the file has
the old document or the new one at any time. Each access to the file tree is a step of its own. The
tasks that use one open store take turns by its guard; stores that were opened apart know nothing of
each other.
-/

namespace SessionKeeper

/-- One access to the file tree, or to the guard of a store. -/
inductive FileStep
  | acquire (guard : Nat)
  | release (guard : Nat)
  | readText (path : Path)
  | ensureDirectories (path : Path)
  | truncate (path : Path)
  | append (path : Path) (bytes : ByteArray)
  | moveFile (source target : Path)
  | report (event : Event)

/-- What an access answers. -/
abbrev FileStep.Answer : FileStep → Type
  | .acquire _ => Unit
  | .release _ => Unit
  | .readText _ => Except IoError String
  | .ensureDirectories _ => Except IoError Unit
  | .truncate _ => Except IoError Unit
  | .append _ _ => Except IoError Unit
  | .moveFile _ _ => Except IoError Unit
  | .report _ => Unit

/-- The steps of a file store. -/
abbrev fileSteps : Interface :=
  ⟨FileStep, FileStep.Answer⟩

/-- A file tree, the guards that tasks have, and what was reported about the tree, latest first. -/
structure Disk where
  tree : FileTree
  held : List Nat
  events : List Event

/-- A file tree that no task is using. -/
def Disk.idle (tree : FileTree) : Disk :=
  ⟨tree, [], []⟩

/-- A change of the tree that leaves it as it was when it fails. -/
def Disk.apply (d : Disk) : Except IoError FileTree → Except IoError Unit × Disk
  | .ok tree => (.ok (), { d with tree := tree })
  | .error e => (.error e, d)

/-- How a step acts on the disk. -/
def FileStep.answer : (step : FileStep) → Disk → step.Answer × Disk
  | .acquire guard, d => ((), { d with held := guard :: d.held })
  | .release guard, d => ((), { d with held := d.held.erase guard })
  | .readText path, d => (d.tree.readText path, d)
  | .ensureDirectories path, d =>
    match d.tree.ensureDirectories path with
    | (result, tree) => (result, { d with tree := tree })
  | .truncate path, d => d.apply (d.tree.truncate path)
  | .append path bytes, d => d.apply (d.tree.append path bytes)
  | .moveFile source target, d => d.apply (d.tree.moveFile source target)
  | .report event, d => ((), { d with events := event :: d.events })

/-- Whether a step has to wait, which is for a guard that another task has. Accesses to the tree
never wait for one another. -/
def FileStep.isBlocked : FileStep → Disk → Bool
  | .acquire guard, d => d.held.contains guard
  | _, _ => false

/-- How the steps of file stores act on the disk. -/
def diskHandler : Handler fileSteps Disk :=
  ⟨FileStep.answer, FileStep.isBlocked⟩

/-- A storage file as one store has it open: where it is, the guard of the store, and the pieces in
which a document is written. -/
structure StorageFile where
  path : Path
  guard : Nat
  cut : ByteArray → List ByteArray

namespace StorageFile

/-- A file that a single store has open, and that is written in one piece. -/
def opened (path : Path) : StorageFile :=
  ⟨path, 0, fun document => [document]⟩

/-- The extension of the sibling that a document is written to first. -/
def siblingExtension : String := "json.tmp"

/-- The name of the file in its directory. -/
def fileName : Path := ⟨"storage.json"⟩

/-- The storage file of a directory. -/
def within (directory : Path) : Path :=
  directory.join fileName

/-- The path that a document is written to before it is moved over `path`. -/
def sibling (path : Path) : Path :=
  path.withExtension siblingExtension

/-- What the content of the file holds. A file without content holds nothing. -/
def decode (content : String) : Except StoreError Entries :=
  if Text.allBlank content then .ok .empty
  else
    match Entries.parse content with
    | .ok entries => .ok entries
    | .error e => .error (.damaged e)

/-- What reading the file answers. A file that is missing holds nothing. -/
def ofContent : Except IoError String → Except StoreError Entries
  | .ok content => decode content
  | .error .notFound => .ok .empty
  | .error e => .error (.io e)

/-- Reads all entries. -/
def load (path : Path) : Program fileSteps (Except StoreError Entries) :=
  .ask (.readText path) fun answer => .done (ofContent answer)

/-- Goes on if the step succeeded. -/
def andThen (rest : Program fileSteps (Except StoreError Unit)) :
    Except IoError Unit → Program fileSteps (Except StoreError Unit)
  | .ok () => rest
  | .error e => .done (.error (.io e))

/-- Makes the directory of the file. -/
def makeRoom (path : Path) (rest : Program fileSteps (Except StoreError Unit)) :
    Program fileSteps (Except StoreError Unit) :=
  match path.parent? with
  | none => rest
  | some directory => .ask (.ensureDirectories directory) (andThen rest)

/-- Writes the pieces of a document one after another. -/
def writePieces (path : Path) (rest : Program fileSteps (Except StoreError Unit)) :
    List ByteArray → Program fileSteps (Except StoreError Unit)
  | [] => rest
  | piece :: pieces => .ask (.append path piece) (andThen (writePieces path rest pieces))

/-- Moves the sibling over the file, and reports it. -/
def publish (path : Path) (count : Nat) : Program fileSteps (Except StoreError Unit) :=
  .ask (.moveFile (sibling path) path) <| andThen <|
    .ask
      (.report ⟨.debug, "Storage file written", [("path", path.text), ("keys", toString count)]⟩)
      fun () => .done (.ok ())

/-- Replaces the document, writing it in the given pieces. -/
def saveIn (path : Path) (count : Nat) (pieces : List ByteArray) :
    Program fileSteps (Except StoreError Unit) :=
  makeRoom path <|
    .ask (.truncate (sibling path)) <| andThen <|
      writePieces (sibling path) (publish path count) pieces

/-- Replaces the document by that of the entries. -/
def save (f : StorageFile) (entries : Entries) : Program fileSteps (Except StoreError Unit) :=
  saveIn f.path entries.size (f.cut entries.render.toUTF8)

/-- Reads the text under a key, for a task that has the guard. -/
def lookUp (f : StorageFile) (key : String) :
    Program fileSteps (Except StoreError (Option String)) :=
  (load f.path).bind fun
    | .ok entries => .done (.ok (entries.get? key))
    | .error e => .done (.error e)

/-- Puts a text under a key, for a task that has the guard. -/
def put (f : StorageFile) (key value : String) : Program fileSteps (Except StoreError Unit) :=
  (load f.path).bind fun
    | .ok entries => f.save (entries.insert key value)
    | .error e => .done (.error e)

/-- Removes a key, for a task that has the guard. Without the key the file is left alone. -/
def erase (f : StorageFile) (key : String) : Program fileSteps (Except StoreError Unit) :=
  (load f.path).bind fun
    | .ok entries => if entries.contains key then f.save (entries.erase key) else .done (.ok ())
    | .error e => .done (.error e)

/-- Runs the steps of a task while it has the guard. -/
def guarded {α : Type} (f : StorageFile) (body : Program fileSteps α) : Program fileSteps α :=
  .ask (.acquire f.guard) fun () => body.bind fun a => .ask (.release f.guard) fun () => .done a

/-- Reads the text under a key. -/
def get (f : StorageFile) (key : String) : Program fileSteps (Except StoreError (Option String)) :=
  f.guarded (f.lookUp key)

/-- Puts a text under a key. -/
def set (f : StorageFile) (key value : String) : Program fileSteps (Except StoreError Unit) :=
  f.guarded (f.put key value)

/-- Removes a key. -/
def remove (f : StorageFile) (key : String) : Program fileSteps (Except StoreError Unit) :=
  f.guarded (f.erase key)

end StorageFile

/-- A storage file in a file tree. -/
structure FileStore where
  path : Path
  tree : FileTree
  deriving DecidableEq

namespace FileStore

/-- Runs the steps of a change without a pause. -/
def change (s : FileStore) (program : Program fileSteps (Except StoreError Unit)) :
    Change FileStore :=
  match program.run diskHandler (.idle s.tree) with
  | (result, disk) => ⟨result, { s with tree := disk.tree }, disk.events.reverse⟩

instance : Store FileStore where
  get key s := (((StorageFile.opened s.path).get key).run diskHandler (.idle s.tree)).1
  set key value s := s.change ((StorageFile.opened s.path).set key value)
  remove key s := s.change ((StorageFile.opened s.path).remove key)

end FileStore

end SessionKeeper
