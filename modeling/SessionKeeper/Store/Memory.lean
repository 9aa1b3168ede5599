import SessionKeeper.Store.Basic

/-!
# The store in memory

A map that nothing can go wrong with, and that is lost with the process.
-/

namespace SessionKeeper

/-- The texts of a document or a store, by key. -/
abbrev Entries := SortedMap String String

/-- A store that lives as long as the process. -/
structure MemoryStore where
  entries : Entries
  deriving DecidableEq, Inhabited

namespace MemoryStore

/-- A store that holds nothing. -/
def new : MemoryStore :=
  ⟨.empty⟩

/-- The number of keys. -/
def size (m : MemoryStore) : Nat :=
  m.entries.size

/-- Whether there are no keys. -/
def isEmpty (m : MemoryStore) : Bool :=
  m.entries.toList.isEmpty

instance : Store MemoryStore where
  get key m := .ok (m.entries.get? key)
  set key value m := ⟨.ok (), ⟨m.entries.insert key value⟩, []⟩
  remove key m := ⟨.ok (), ⟨m.entries.erase key⟩, []⟩

end MemoryStore

end SessionKeeper
