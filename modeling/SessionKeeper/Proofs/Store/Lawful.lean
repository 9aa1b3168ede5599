import SessionKeeper.Proofs.SortedMap
import SessionKeeper.Store.Memory
import SessionKeeper.Store.Outage

/-!
# Stores as maps

What a store is meant to be: a map of texts. A lawful store holds such a map. Its calls may fail,
but a call that fails leaves the map as it was, and a call that succeeds does what it does to a map.
-/

namespace SessionKeeper

/-- The texts of a store, by key. -/
abbrev Texts := String → Option String

namespace Texts

/-- No texts. -/
def empty : Texts :=
  fun _ => none

/-- The texts with one more, or with another under its key. -/
def put (key value : String) (m : Texts) : Texts :=
  fun k => if k = key then some value else m k

/-- The texts without a key. -/
def drop (key : String) (m : Texts) : Texts :=
  fun k => if k = key then none else m k

@[simp] theorem put_self (key value : String) (m : Texts) : m.put key value key = some value := by
  simp [put]

@[simp] theorem drop_self (key : String) (m : Texts) : m.drop key key = none := by
  simp [drop]

theorem drop_of_none {key : String} {m : Texts} (h : m key = none) : m.drop key = m := by
  funext k
  by_cases hk : k = key
  · subst hk
    rw [drop_self, h]
  · simp [drop, hk]

/-- The map itself as a store. Nothing can go wrong with it. -/
instance : Store Texts where
  get key m := .ok (m key)
  set key value m := ⟨.ok (), m.put key value, []⟩
  remove key m := ⟨.ok (), m.drop key, []⟩

end Texts

/-- A store that holds a map, and whose failing calls change nothing. -/
class LawfulStore (σ : Type) [Store σ] where
  texts : σ → Texts
  texts_of_get {key : String} {s : σ} {text : Option String} :
    Store.get key s = .ok text → text = texts s key
  texts_set {key value : String} {s : σ} : (Store.set key value s).result = .ok () →
    texts (Store.set key value s).store = (texts s).put key value
  texts_set_of_error {key value : String} {s : σ} {e : StoreError} :
    (Store.set key value s).result = .error e → texts (Store.set key value s).store = texts s
  texts_remove {key : String} {s : σ} : (Store.remove key s).result = .ok () →
    texts (Store.remove key s).store = (texts s).drop key
  texts_remove_of_error {key : String} {s : σ} {e : StoreError} :
    (Store.remove key s).result = .error e → texts (Store.remove key s).store = texts s

namespace LawfulStore

instance : LawfulStore Texts where
  texts := id
  texts_of_get h := (Except.ok.inj h).symm
  texts_set _ := rfl
  texts_set_of_error h := nomatch h
  texts_remove _ := rfl
  texts_remove_of_error h := nomatch h

end LawfulStore

/-! ## The store in memory -/

namespace Entries

theorem get?_insert (entries : Entries) (key value : String) :
    (entries.insert key value).get? = Texts.put key value entries.get? := by
  funext k
  by_cases hk : k = key
  · subst hk
    simp
  · simp [Texts.put, SortedMap.get?_insert_of_ne hk, hk]

theorem get?_erase (entries : Entries) (key : String) :
    (entries.erase key).get? = Texts.drop key entries.get? := by
  funext k
  by_cases hk : k = key
  · subst hk
    simp
  · simp [Texts.drop, SortedMap.get?_erase_of_ne hk, hk]

end Entries

namespace MemoryStore

/-- What the memory holds, by key. -/
def texts (m : MemoryStore) : Texts :=
  m.entries.get?

theorem texts_set (key value : String) (m : MemoryStore) :
    (Store.set key value m).store.texts = m.texts.put key value :=
  Entries.get?_insert m.entries key value

theorem texts_remove (key : String) (m : MemoryStore) :
    (Store.remove key m).store.texts = m.texts.drop key :=
  Entries.get?_erase m.entries key

instance : LawfulStore MemoryStore where
  texts := texts
  texts_of_get h := (Except.ok.inj h).symm
  texts_set _ := texts_set ..
  texts_set_of_error h := nomatch h
  texts_remove _ := texts_remove ..
  texts_remove_of_error h := nomatch h

end MemoryStore

/-! ## Stores with outages -/

namespace Unreliable

variable {σ : Type} [Store σ] [LawfulStore σ]

/-- Behind an outage a store is as lawful as before. -/
instance : LawfulStore (Unreliable σ) where
  texts u := LawfulStore.texts u.store
  texts_of_get {key u text} h := by
    simp only [Store.get] at h
    split at h
    next => cases h
    next => exact LawfulStore.texts_of_get h
  texts_set {key value u} h := by
    simp only [Store.set] at h ⊢
    split at h
    next => cases h
    next hup =>
      rw [if_neg hup]
      exact LawfulStore.texts_set h
  texts_set_of_error {key value u e} h := by
    simp only [Store.set] at h ⊢
    split at h
    next hdown => rw [if_pos hdown]; rfl
    next hup =>
      rw [if_neg hup]
      exact LawfulStore.texts_set_of_error h
  texts_remove {key u} h := by
    simp only [Store.remove] at h ⊢
    split at h
    next => cases h
    next hup =>
      rw [if_neg hup]
      exact LawfulStore.texts_remove h
  texts_remove_of_error {key u e} h := by
    simp only [Store.remove] at h ⊢
    split at h
    next hdown => rw [if_pos hdown]; rfl
    next hup =>
      rw [if_neg hup]
      exact LawfulStore.texts_remove_of_error h

end Unreliable

end SessionKeeper
