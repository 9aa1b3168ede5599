import SessionKeeper.Environment
import SessionKeeper.Store.File
import SessionKeeper.Store.Keychain

/-!
# Storage

Everything that texts can be kept in, and the store that is in use. The file tree outlives the store
in use; a keychain and a memory are there whether they are used or not.
-/

namespace SessionKeeper

/-- Which store is in use, and where it keeps its texts. -/
inductive Medium
  | file (path : Path)
  | keychain (service : String)
  | memory
  deriving DecidableEq, Repr

/-- The places where texts can be kept, and the store in use. -/
structure Storage where
  medium : Medium
  tree : FileTree
  keychain : Keychain
  memory : MemoryStore
  deriving DecidableEq

namespace Storage

/-- The storage after a change of the storage file. -/
def ofFile (s : Storage) (c : Change FileStore) : Change Storage :=
  ⟨c.result, { s with tree := c.store.tree }, c.events⟩

/-- The storage after a change of the keychain. -/
def ofKeychain (s : Storage) (c : Change KeychainStore) : Change Storage :=
  ⟨c.result, { s with keychain := c.store.keychain }, c.events⟩

/-- The storage after a change of the memory. -/
def ofMemory (s : Storage) (c : Change MemoryStore) : Change Storage :=
  ⟨c.result, { s with memory := c.store }, c.events⟩

/-- The text under a key of the store in use. -/
def get (key : String) (s : Storage) : Except StoreError (Option String) :=
  match s.medium with
  | .file path => Store.get key (FileStore.mk path s.tree)
  | .keychain service => Store.get key (KeychainStore.mk service s.keychain)
  | .memory => Store.get key s.memory

/-- Puts a text under a key of the store in use. -/
def set (key value : String) (s : Storage) : Change Storage :=
  match s.medium with
  | .file path => s.ofFile (Store.set key value (FileStore.mk path s.tree))
  | .keychain service => s.ofKeychain (Store.set key value (KeychainStore.mk service s.keychain))
  | .memory => s.ofMemory (Store.set key value s.memory)

/-- Removes a key of the store in use. -/
def remove (key : String) (s : Storage) : Change Storage :=
  match s.medium with
  | .file path => s.ofFile (Store.remove key (FileStore.mk path s.tree))
  | .keychain service => s.ofKeychain (Store.remove key (KeychainStore.mk service s.keychain))
  | .memory => s.ofMemory (Store.remove key s.memory)

instance : Store Storage :=
  ⟨get, set, remove⟩

end Storage

namespace Settings

/-- The store that settings select. -/
def medium (s : Settings) (e : Environment) : Medium :=
  match s.backend with
  | .file => .file (StorageFile.within (s.directory e))
  | .keychain => .keychain KeychainStore.defaultService
  | .memory => .memory

/-- What is reported when the store of settings is opened. -/
def opening (s : Settings) : Event :=
  ⟨.debug, "Opening store", [("backend", s.backend.title)]⟩

end Settings

end SessionKeeper
