import SessionKeeper.FileTree.Path
import SessionKeeper.SortedMap
import SessionKeeper.Text.Utf8

/-!
# File trees

Files and directories as one map from locations below the root. An operation resolves a path
component by component, so that each way in which a path can be wrong has its own error, and an
operation that fails half-way leaves what it did so far.
-/

namespace SessionKeeper

/-- Why an access to the file tree failed. -/
inductive IoError
  | notFound
  | notADirectory
  | isADirectory
  | alreadyExists
  | nameTooLong
  | noTerminal
  | invalidArgument
  | interrupted
  | nulInPath
  | notText
  | endOfFile
  | treeNotCreated
  deriving DecidableEq, Repr

/-- The wording of the error. -/
def IoError.message : IoError → String
  | .notFound => "No such file or directory (os error 2)"
  | .noTerminal => "No such device or address (os error 6)"
  | .alreadyExists => "File exists (os error 17)"
  | .notADirectory => "Not a directory (os error 20)"
  | .isADirectory => "Is a directory (os error 21)"
  | .invalidArgument => "Invalid argument (os error 22)"
  | .interrupted => "operation interrupted"
  | .nameTooLong => "File name too long (os error 36)"
  | .nulInPath => "file name contained an unexpected NUL byte"
  | .notText => "stream did not contain valid UTF-8"
  | .endOfFile => "unexpected end of file"
  | .treeNotCreated => "failed to create whole tree"

/-- What stands at a location. -/
inductive Node
  | directory
  | file (content : ByteArray)
  deriving DecidableEq

/-- The names that lead from the root to a file or directory. -/
abbrev Location := List String

/-- A file tree, and the directory that relative paths start from. -/
structure FileTree where
  nodes : SortedMap Location Node
  working : Location
  deriving DecidableEq

namespace FileTree

/-- The tree with nothing below the root. -/
def empty : FileTree :=
  ⟨.empty, []⟩

instance : Inhabited FileTree := ⟨empty⟩

/-- What stands at a location. The root is a directory. -/
def node? (t : FileTree) (l : Location) : Option Node :=
  if l = [] then some .directory else t.nodes.get? l

/-- The tree with something at a location. -/
def put (t : FileTree) (l : Location) (n : Node) : FileTree :=
  { t with nodes := t.nodes.insert l n }

/-- The longest name of a file, in bytes. -/
def nameLimit : Nat := 255

/-- Follows components from the location of a directory. The last one need not exist. -/
def walk (t : FileTree) (here : Location) : List String → Except IoError Location
  | [] => .ok here
  | c :: cs =>
    match t.node? here with
    | none => .error .notFound
    | some (.file _) => .error .notADirectory
    | some .directory =>
      if c = "." then t.walk here cs
      else if c = ".." then t.walk here.dropLast cs
      else if nameLimit < c.utf8ByteSize then .error .nameTooLong
      else t.walk (here ++ [c]) cs

/-- The longest path, in bytes. -/
def pathLimit : Nat := 4095

/-- The location that a path names. -/
def resolve (t : FileTree) (p : Path) : Except IoError Location :=
  if p.text.toList.any fun c => c == '\x00' then .error .nulInPath
  else if p.text = "" then .error .notFound
  else if pathLimit < p.text.utf8ByteSize then .error .nameTooLong
  else t.walk (if p.isAbsolute then [] else t.working) p.components

/-- Whether a path names something. -/
def pathExists (t : FileTree) (p : Path) : Bool :=
  match t.resolve p with
  | .error _ => false
  | .ok l =>
    match t.node? l with
    | none => false
    | some .directory => true
    | some (.file _) => !p.wantsDirectory

/-- Whether a path names a directory. -/
def isDirectory (t : FileTree) (p : Path) : Bool :=
  match t.resolve p with
  | .error _ => false
  | .ok l => t.node? l == some .directory

/-- The content of a file. -/
def read (t : FileTree) (p : Path) : Except IoError ByteArray :=
  match t.resolve p with
  | .error e => .error e
  | .ok l =>
    match t.node? l with
    | none => .error .notFound
    | some .directory => .error .isADirectory
    | some (.file content) => if p.wantsDirectory then .error .notADirectory else .ok content

/-- The content of a file that has to be text. -/
def readText (t : FileTree) (p : Path) : Except IoError String :=
  match t.read p with
  | .error e => .error e
  | .ok content =>
    match Text.decode content with
    | none => .error .notText
    | some s => .ok s

/-- Makes one directory, whose parent exists. -/
def makeDirectory (t : FileTree) (p : Path) : Except IoError FileTree :=
  match t.resolve p with
  | .error e => .error e
  | .ok l =>
    match t.node? l with
    | some _ => .error .alreadyExists
    | none => .ok (t.put l .directory)

/-- Makes one directory, or finds it made. -/
def ensureDirectory (t : FileTree) (p : Path) : Except IoError Unit × FileTree :=
  match t.makeDirectory p with
  | .ok t => (.ok (), t)
  | .error e => (if t.isDirectory p then .ok () else .error e, t)

/-- Makes a directory and those above it, up to `fuel` of them. -/
def ensureDirectoriesWithin : Nat → FileTree → Path → Except IoError Unit × FileTree
  | 0, t, _ => (.error .treeNotCreated, t)
  | fuel + 1, t, p =>
    if p.text = "" then (.ok (), t)
    else
      match t.makeDirectory p with
      | .ok t => (.ok (), t)
      | .error .notFound =>
        match p.parent? with
        | none => (.error .treeNotCreated, t)
        | some parent =>
          match ensureDirectoriesWithin fuel t parent with
          | (.error e, t) => (.error e, t)
          | (.ok (), t) => t.ensureDirectory p
      | .error e => (if t.isDirectory p then .ok () else .error e, t)

/-- Makes a directory and those above it, as far as they are missing. -/
def ensureDirectories (t : FileTree) (p : Path) : Except IoError Unit × FileTree :=
  ensureDirectoriesWithin (p.text.length + 1) t p

/-- Creates a file, or empties one. -/
def truncate (t : FileTree) (p : Path) : Except IoError FileTree :=
  match t.resolve p with
  | .error e => .error e
  | .ok l =>
    match t.node? l with
    | some .directory => .error .isADirectory
    | some (.file _) =>
      if p.wantsDirectory then .error .notADirectory else .ok (t.put l (.file ByteArray.empty))
    | none =>
      if p.wantsDirectory then .error .isADirectory else .ok (t.put l (.file ByteArray.empty))

/-- Adds bytes to the end of a file. -/
def append (t : FileTree) (p : Path) (bytes : ByteArray) : Except IoError FileTree :=
  match t.resolve p with
  | .error e => .error e
  | .ok l =>
    match t.node? l with
    | none => .error .notFound
    | some .directory => .error .isADirectory
    | some (.file content) => .ok (t.put l (.file (content ++ bytes)))

/-- Replaces the whole content of a file, or creates it. -/
def write (t : FileTree) (p : Path) (bytes : ByteArray) : Except IoError Unit × FileTree :=
  match t.truncate p with
  | .error e => (.error e, t)
  | .ok t =>
    match t.append p bytes with
    | .error e => (.error e, t)
    | .ok t => (.ok (), t)

/-- Gives a file another path, and replaces a file that stands there. -/
def moveFile (t : FileTree) (source target : Path) : Except IoError FileTree :=
  match t.resolve source with
  | .error e => .error e
  | .ok l =>
    match t.node? l with
    | none => .error .notFound
    | some .directory => .error .isADirectory
    | some (.file content) =>
      match t.resolve target with
      | .error e => .error e
      | .ok m =>
        if target.wantsDirectory then .error .notADirectory
        else if t.node? m = some .directory then .error .isADirectory
        else if l = m then .ok t
        else .ok ({ t with nodes := t.nodes.erase l }.put m (.file content))

/-- The tree without what a test on locations selects. -/
def without (t : FileTree) (selects : Location → Bool) : FileTree :=
  { t with nodes := t.nodes.eraseAll selects }

/-- Removes everything in the directory at a location, and then the directory itself. A path that
ends in a single dot cannot be removed; one that ends in two dots has lost its way by then. -/
def removeDirectory (t : FileTree) (p : Path) (l : Location) : Except IoError Unit × FileTree :=
  if p.components.getLast? = some "." then
    (.error .invalidArgument, t.without fun m => l.isPrefixOf m && m != l)
  else if p.components.getLast? = some ".." then
    (.ok (), t.without fun m => l.isPrefixOf m && m != l)
  else (.ok (), t.without fun m => l.isPrefixOf m)

/-- Removes a file, or a directory with everything in it. -/
def removeAll (t : FileTree) (p : Path) : Except IoError Unit × FileTree :=
  match t.resolve p with
  | .error e => (.error e, t)
  | .ok l =>
    match t.node? l with
    | none => (.error .notFound, t)
    | some .directory => t.removeDirectory p l
    | some (.file _) =>
      if p.wantsDirectory then (.error .notADirectory, t)
      else (.ok (), t.without fun m => m == l)

/-- Everything below a location, with the names that lead there from it. -/
def below (t : FileTree) (l : Location) : List (Location × Node) :=
  t.nodes.toList.filterMap fun (m, n) =>
    if l.isPrefixOf m ∧ m ≠ l then some (m.drop l.length, n) else none

end FileTree

end SessionKeeper
