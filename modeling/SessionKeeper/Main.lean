import SessionKeeper.CommandLine.Run

/-!
# The program

Connects the command line with the machine that it runs on. The files that a run may look at are
taken into a tree when it begins, and what a step changes in the tree is written back before the
next one. No request leaves the machine: each fails as it does when the server cannot be reached.
-/

namespace SessionKeeper.CommandLine.Host

/-- The text of a location. -/
def pathText (l : Location) : String :=
  "/" ++ "/".intercalate l

/-- The location of a path, seen from a working directory. -/
def locationOf (working : Location) (p : Path) : Location :=
  p.components.foldl
    (fun l c => if c = "." then l else if c = ".." then l.dropLast else l ++ [c])
    (if p.isAbsolute then [] else working)

/-- What stands at a location of the machine. What is there and is no file that can be read counts
as a directory. -/
def lookAt (l : Location) : IO (Option Node) := do
  try
    return some (.file (← IO.FS.readBinFile (pathText l)))
  catch
    | .noFileOrDirectory .. => return none
    | _ => return some .directory

/-- Takes what stands at a location into the tree. -/
def takeIn (t : FileTree) (l : Location) : IO FileTree := do
  match ← lookAt l with
  | none => return t
  | some n => return t.put l n

/-- Takes a location and those above it into the tree. -/
def takePath (t : FileTree) (l : Location) : IO FileTree :=
  ((List.range l.length).map fun n => l.take (n + 1)).foldlM takeIn t

/-- Writes one changed node. A file is replaced as a whole. -/
def writeNode (l : Location) : Node → IO Unit
  | .directory => IO.FS.createDirAll (pathText l)
  | .file content => do
    let sibling := (StorageFile.sibling ⟨pathText l⟩).text
    IO.FS.writeBinFile sibling content
    IO.FS.rename sibling (pathText l)

/-- Writes what a step changed in the tree. -/
def writeBack (earlier later : FileTree) : IO Unit :=
  later.nodes.toList.forM fun (l, n) => do
    unless earlier.node? l = some n do
      writeNode l n

/-- Reads a line of the standard input. -/
def readInputLine : IO (Except IoError String) := do
  try
    return .ok (Text.trim (← (← IO.getStdin).getLine))
  catch _ => return .error .notText

/-- Asks for a line at the terminal. -/
def readTerminalLine (label : String) : IO (Except IoError String) := do
  try
    let screen ← IO.FS.Handle.mk "/dev/tty" .write
    screen.putStr label
    screen.flush
    let keyboard ← IO.FS.Handle.mk "/dev/tty" .read
    return (Typing.readLine (← keyboard.getLine).toList).1
  catch _ => return .error .noTerminal

/-- Carries out one step. -/
def carryOut : (step : ProcessStep) → World Storage → IO (step.Answer × World Storage)
  | .client step, w => do
    let (answer, later) := step.answer w
    writeBack w.store.tree later.store.tree
    return (answer, later)
  | .print text, w => do
    let output ← IO.getStdout
    output.putStr text
    output.flush
    return ((), w)
  | .complain text, w => do
    IO.eprint text
    return ((), w)
  | .readLine, w => return (← readInputLine, w)
  | .readPassword label, w => return (← readTerminalLine label, w)

/-- Carries out a program. -/
def carryOutAll {α : Type} : Program processSteps α → World Storage → IO α
  | .done a, _ => return a
  | .ask step resume, w => do
    let (answer, w) ← carryOut step w
    carryOutAll (resume answer) w

/-- The pieces of bytes between zeros, with what was collected of the first. -/
def splitZeros (piece : List UInt8) : List UInt8 → List (List UInt8)
  | [] => [piece]
  | b :: bs => if b = 0 then piece :: splitZeros [] bs else splitZeros (piece ++ [b]) bs

/-- The values of the variables in bytes that list them. -/
def variablesOf (bytes : ByteArray) : SortedMap String ByteArray :=
  (splitZeros [] bytes.toList).foldl
    (fun bindings entry =>
      match entry.dropWhile fun b => b != 0x3D with
      | [] => bindings
      | _ :: value =>
        let name := entry.takeWhile fun b => b != 0x3D
        bindings.insert (Text.decodeLossy ⟨name.toArray⟩) ⟨value.toArray⟩)
    .empty

/-- The environment of the program. -/
def environment : IO Environment := do
  return ⟨variablesOf (← IO.FS.readBinFile "/proc/self/environ"), ⟨"/"⟩⟩

/-- The machine with what a run may look at to find its settings. -/
def machine (e : Environment) : IO Machine := do
  let working := locationOf [] ⟨(← IO.currentDir).toString⟩
  let t ← takePath ⟨.empty, working⟩ working
  let t ← (EnvironmentFile.candidates working).foldlM takeIn t
  let t ← takePath t (locationOf working (EnvironmentFile.load e t).settingsPath)
  return ⟨t, .empty, .unreachable⟩

/-- The world with the storage file, if it is in use. -/
def withStorageFile (w : World Storage) : IO (World Storage) := do
  match w.store.medium with
  | .file path =>
    let t := w.store.tree
    let t ← takePath t (locationOf t.working path)
    let t ← takePath t (locationOf t.working (StorageFile.sibling path))
    return { w with store := { w.store with tree := t } }
  | _ => return w

/-- Runs the program and gives its exit code. -/
def run (arguments : List String) : IO UInt32 := do
  let e ← environment
  match (← machine e).launch e arguments (.start ByteArray.empty none) with
  | .finished code console =>
    IO.print console.output
    IO.eprint console.errors
    return UInt32.ofNat code
  | .running action p =>
    let result ← carryOutAll (ExceptT.run action) (← withStorageFile p.world)
    IO.eprint (finalWords result)
    return UInt32.ofNat (exitCode result)

end SessionKeeper.CommandLine.Host

/-- The program. -/
def main (arguments : List String) : IO UInt32 :=
  SessionKeeper.CommandLine.Host.run arguments
