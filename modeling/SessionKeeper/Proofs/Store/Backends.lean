import Mathlib.Control.Monad.Basic
import SessionKeeper.Proofs.Store.File
import SessionKeeper.Proofs.Store.Lawful
import SessionKeeper.Store.Keychain

/-!
# The stores implement one map

A history of calls gets the same replies from the storage file, the keychain and the memory, namely
those of a map of texts. Each store is related to the map by what it holds; a call keeps the
relation and gets the reply of the map.
-/

namespace SessionKeeper

/-! ## Histories of calls -/

/-- A call of a store, or opening it anew where it keeps its texts. -/
inductive StoreCall
  | get (key : String)
  | set (key value : String)
  | remove (key : String)
  | reopen

/-- What a call of a store gives. -/
inductive StoreReply
  | found (result : Except StoreError (Option String))
  | changed (result : Except StoreError Unit)
  | reopened

/-- A store that can be opened anew where it keeps its texts. -/
class Reopen (σ : Type) where
  reopen : σ → σ

instance : Reopen FileStore := ⟨fun s => ⟨s.path, s.tree⟩⟩

instance : Reopen KeychainStore := ⟨fun s => ⟨s.service, s.keychain⟩⟩

instance : Reopen MemoryStore := ⟨id⟩

instance : Reopen Texts := ⟨id⟩

namespace StoreCall

variable {σ : Type} [Store σ] [Reopen σ]

/-- Makes a call. -/
def run (s : σ) : StoreCall → StoreReply × σ
  | .get key => (.found (Store.get key s), s)
  | .set key value => (.changed (Store.set key value s).result, (Store.set key value s).store)
  | .remove key => (.changed (Store.remove key s).result, (Store.remove key s).store)
  | .reopen => (.reopened, Reopen.reopen s)

/-- The replies to calls that are made one after another. -/
def replies : List StoreCall → σ → List StoreReply
  | [], _ => []
  | call :: calls, s => (call.run s).1 :: replies calls (call.run s).2

/-- Under the relation the call gets the reply of the map, and the relation holds afterwards. -/
def Follows (R : σ → Texts → Prop) (call : StoreCall) : Prop :=
  ∀ s m, R s m → (call.run s).1 = (call.run m).1 ∧ R (call.run s).2 (call.run m).2

/-- A store whose calls follow the map gets the replies of the map. -/
theorem replies_eq_of_follows {R : σ → Texts → Prop} {calls : List StoreCall}
    (hcalls : ∀ call ∈ calls, Follows R call) {s : σ} {m : Texts} (h : R s m) :
    replies calls s = replies calls m := by
  induction calls generalizing s m with
  | nil => rfl
  | cons call calls ih =>
      obtain ⟨hreply, hnext⟩ := hcalls call List.mem_cons_self s m h
      rw [replies, replies, hreply, ih (fun c hc => hcalls c (List.mem_cons_of_mem _ hc)) hnext]

end StoreCall

/-! ## The memory -/

theorem MemoryStore.follows (call : StoreCall) :
    call.Follows fun (s : MemoryStore) m => s.texts = m := by
  rintro s m rfl
  cases call with
  | get key => exact ⟨rfl, rfl⟩
  | set key value => exact ⟨rfl, texts_set ..⟩
  | remove key => exact ⟨rfl, texts_remove ..⟩
  | reopen => exact ⟨rfl, rfl⟩

/-! ## The keychain -/

namespace KeychainStore

/-- The keychain works, and files the texts of the map under the service. -/
structure Keeps (s : KeychainStore) (m : Texts) : Prop where
  faultless : s.keychain.faults = .none
  keeps : s.keychain.keeps = true
  filed : ∀ key, s.keychain.secrets.get? (s.account key) = (m key).map String.toUTF8

variable {s : KeychainStore} {m : Texts}

theorem Keeps.opened (h : s.Keeps m) : s.keychain.opened = .ok () := by
  rw [Keychain.opened, h.faultless]
  rfl

theorem Keeps.get_eq (h : s.Keeps m) (key : String) : Store.get key s = .ok (m key) := by
  change get key s = _
  have hfiled := h.filed key
  rw [get, h.opened]
  cases hm : m key with
  | none =>
      simp only [Keychain.password, h.faultless, hfiled, hm]
      rfl
  | some text =>
      simp only [Keychain.password, h.faultless, hfiled, hm, Option.map_some, Text.decode_toUTF8]
      rfl

theorem account_ne {key other : String} (h : other ≠ key) : s.account other ≠ s.account key :=
  fun he => h (congrArg Account.key he)

theorem Keeps.set (h : s.Keeps m) (key value : String) :
    (Store.set key value s).result = .ok () ∧
      (Store.set key value s).store.Keeps (m.put key value) := by
  have hset : Store.set key value s =
      s.accept { s.keychain with
        secrets := s.keychain.secrets.insert (s.account key) value.toUTF8 } := by
    change KeychainStore.set key value s = _
    rw [KeychainStore.set, h.opened]
    simp only [Keychain.setPassword, h.faultless, Keychain.plant, h.keeps]
    rfl
  rw [hset]
  refine ⟨rfl, h.faultless, h.keeps, fun k => ?_⟩
  change (s.keychain.secrets.insert (s.account key) value.toUTF8).get? (s.account k) = _
  by_cases hk : k = key
  · subst hk
    rw [SortedMap.get?_insert_self, Texts.put_self]
    rfl
  · rw [SortedMap.get?_insert_of_ne (account_ne hk), h.filed, Texts.put, if_neg hk]

theorem Keeps.remove_of_some (h : s.Keeps m) {key text : String} (hkey : m key = some text) :
    Store.remove key s =
      s.accept { s.keychain with secrets := s.keychain.secrets.erase (s.account key) } := by
  have hcontains : s.keychain.secrets.contains (s.account key) = true := by
    simp [SortedMap.contains, h.filed, hkey]
  change KeychainStore.remove key s = _
  rw [KeychainStore.remove, h.opened]
  simp only [Keychain.delete, h.faultless, hcontains]
  rfl

theorem Keeps.remove_of_none (h : s.Keeps m) {key : String} (hkey : m key = none) :
    Store.remove key s = s.accept s.keychain := by
  have hcontains : s.keychain.secrets.contains (s.account key) = false := by
    simp [SortedMap.contains, h.filed, hkey]
  change KeychainStore.remove key s = _
  rw [KeychainStore.remove, h.opened]
  simp only [Keychain.delete, h.faultless, hcontains]
  rfl

theorem Keeps.remove (h : s.Keeps m) (key : String) :
    (Store.remove key s).result = .ok () ∧
      (Store.remove key s).store.Keeps (m.drop key) := by
  cases hm : m key with
  | none =>
      rw [h.remove_of_none hm, Texts.drop_of_none hm]
      exact ⟨rfl, h⟩
  | some text =>
      rw [h.remove_of_some hm]
      refine ⟨rfl, h.faultless, h.keeps, fun k => ?_⟩
      change (s.keychain.secrets.erase (s.account key)).get? (s.account k) = _
      by_cases hk : k = key
      · subst hk
        rw [SortedMap.get?_erase_self, Texts.drop_self]
        rfl
      · rw [SortedMap.get?_erase_of_ne (account_ne hk), h.filed, Texts.drop, if_neg hk]

theorem follows (call : StoreCall) : call.Follows Keeps := by
  intro s m h
  cases call with
  | get key => exact ⟨congrArg StoreReply.found (h.get_eq key), h⟩
  | set key value =>
      obtain ⟨hresult, hkeeps⟩ := h.set key value
      exact ⟨congrArg StoreReply.changed hresult, hkeeps⟩
  | remove key =>
      obtain ⟨hresult, hkeeps⟩ := h.remove key
      exact ⟨congrArg StoreReply.changed hresult, hkeeps⟩
  | reopen => exact ⟨rfl, h⟩

end KeychainStore

/-! ## The file -/

namespace FileStore

/-- The file holds the texts of the map. Once there is something in it, or if something may be put
into it, it can be written. -/
def Keeps (written : Prop) (s : FileStore) (m : Texts) : Prop :=
  ∃ entries : Entries, s.contents = .ok entries ∧ entries.get? = m ∧
    (written ∨ entries ≠ .empty → StorageFile.Writable s.path s.tree)

theorem follows {written : Prop} {call : StoreCall}
    (hcall : ∀ key value, call = .set key value → written) : call.Follows (Keeps written) := by
  rintro s m ⟨entries, hcontents, rfl, hplace⟩
  cases call with
  | get key =>
      exact ⟨congrArg StoreReply.found (get_of_contents hcontents key),
        entries, hcontents, rfl, hplace⟩
  | set key value =>
      obtain ⟨t, events, hset, hplace', hcontents'⟩ :=
        set_of_contents hcontents (hplace (.inl (hcall key value rfl))) key value
      rw [StoreCall.run, hset]
      exact ⟨rfl, _, hcontents', Entries.get?_insert entries key value, fun _ => hplace'⟩
  | remove key =>
      cases hkey : entries.contains key with
      | true =>
          have hfull : entries ≠ .empty := by
            rintro rfl
            cases hkey
          obtain ⟨t, events, hremove, hplace', hcontents'⟩ :=
            remove_of_contains hcontents (hplace (.inr hfull)) hkey
          rw [StoreCall.run, hremove]
          exact ⟨rfl, _, hcontents', Entries.get?_erase entries key, fun _ => hplace'⟩
      | false =>
          -- nothing is written here, so it does not matter whether the file could be
          have habsent : entries.get? key = none := by
            simpa [SortedMap.contains] using hkey
          rw [StoreCall.run, remove_of_not_contains hcontents hkey]
          exact ⟨rfl, entries, hcontents, (Texts.drop_of_none habsent).symm, hplace⟩
  | reopen => exact ⟨rfl, entries, hcontents, rfl, hplace⟩

/-- If a history sets something and no access to the tree fails in it, then documents could be saved
from the start: nothing is written before the first text is set. -/
theorem writable_of_replies {calls : List StoreCall} {s : FileStore}
    (h : s.contents = .ok .empty) {key value : String} (hset : .set key value ∈ calls)
    (hio : ∀ e, StoreReply.changed (.error (.io e)) ∉ StoreCall.replies calls s) :
    StorageFile.Writable s.path s.tree := by
  induction calls with
  | nil => cases hset
  | cons call calls ih =>
      -- a call that leaves the store as it is leaves the question to the calls behind it
      have hrest : call.run s = ((call.run s).1, s) → (∀ k v, call ≠ .set k v) →
          StorageFile.Writable s.path s.tree := by
        intro hstay hcall
        rcases List.mem_cons.mp hset with hhead | htail
        · exact absurd hhead.symm (hcall key value)
        · refine ih htail fun e he => hio e ?_
          rw [StoreCall.replies, hstay]
          exact List.mem_cons_of_mem _ he
      cases call with
      | get k => exact hrest rfl nofun
      | set k v =>
          have hresult : ∀ e, (Store.set k v s).result ≠ .error (.io e) := by
            intro e he
            refine hio e ?_
            rw [StoreCall.replies, StoreCall.run, he]
            exact List.mem_cons_self
          exact writable_of_set h hresult
      | remove k =>
          refine hrest ?_ nofun
          rw [StoreCall.run, remove_of_not_contains h rfl]
      | reopen => exact hrest rfl nofun

end FileStore

/-! ## All three -/

/-- From an absent file, an empty keychain and an empty memory, every history of calls gets the
replies of a map of texts that holds nothing at first. The file need not be there, but if something
is to be put into it then it has to be possible to save a document where it is. -/
theorem StoreCall.replies_eq_map (path : Path) (tree : FileTree) (service : String)
    (calls : List StoreCall) (habsent : tree.readText path = .error .notFound)
    (hplace : (∃ key value, StoreCall.set key value ∈ calls) →
      (((StorageFile.opened path).save .empty).run diskHandler (.idle tree)).1 = .ok ()) :
    replies calls (FileStore.mk path tree) = replies calls Texts.empty ∧
      replies calls (KeychainStore.mk service .empty) = replies calls Texts.empty ∧
      replies calls MemoryStore.new = replies calls Texts.empty := by
  refine ⟨?_, ?_, ?_⟩
  · refine replies_eq_of_follows (R := FileStore.Keeps (∃ key value, .set key value ∈ calls))
      (fun call hcall => FileStore.follows ?_) ⟨.empty, ?_, rfl, ?_⟩
    · rintro key value rfl
      exact ⟨key, value, hcall⟩
    · change StorageFile.ofContent (tree.readText path) = _
      rw [habsent]
      rfl
    · rintro (hset | hfull)
      · exact StorageFile.writable_of_run_save (hplace hset)
      · exact absurd rfl hfull
  · exact replies_eq_of_follows (fun call _ => KeychainStore.follows call) ⟨rfl, rfl, fun _ => rfl⟩
  · exact replies_eq_of_follows (fun call _ => MemoryStore.follows call) rfl

/-- A history with awkward texts, in a tree where even the directory of the file is missing. -/
theorem StoreCall.replies_eq_map_of_missing_directory :
    FileTree.empty.readText ⟨"data/storage.json"⟩ = .error .notFound ∧
      (((StorageFile.opened ⟨"data/storage.json"⟩).save .empty).run diskHandler
        (.idle .empty)).1 = .ok () ∧
      replies [.get "a", .set "a" "\"\\\n", .reopen, .remove "b", .get "a", .remove "a", .get "a"]
        (FileStore.mk ⟨"data/storage.json"⟩ .empty) =
      replies [.get "a", .set "a" "\"\\\n", .reopen, .remove "b", .get "a", .remove "a", .get "a"]
        Texts.empty := by
  have habsent : FileTree.empty.readText ⟨"data/storage.json"⟩ = .error .notFound := by
    decide +kernel
  have hplace : (((StorageFile.opened ⟨"data/storage.json"⟩).save .empty).run diskHandler
      (.idle .empty)).1 = .ok () := by
    decide +kernel
  exact ⟨habsent, hplace, (replies_eq_map _ _ "service" _ habsent fun _ => hplace).1⟩

/-- A document can be saved where the file is to be whenever a history sets something there and no
access to the tree fails in it. -/
theorem StoreCall.savable_of_replies {path : Path} {tree : FileTree} {calls : List StoreCall}
    (habsent : tree.readText path = .error .notFound) {key value : String}
    (hset : .set key value ∈ calls)
    (hio : ∀ e, StoreReply.changed (.error (.io e)) ∉ replies calls (FileStore.mk path tree)) :
    (((StorageFile.opened path).save .empty).run diskHandler (.idle tree)).1 = .ok () := by
  have hcontents : (FileStore.mk path tree).contents = .ok .empty := by
    rw [FileStore.contents, habsent]
    rfl
  have hwritable : StorageFile.Writable path tree :=
    FileStore.writable_of_replies hcontents hset hio
  obtain ⟨e, hsave, -⟩ := StorageFile.run_save_of_writable (f := .opened path) .empty hwritable
    (by simp [StorageFile.opened]) [] []
  exact congrArg Prod.fst hsave

end SessionKeeper
