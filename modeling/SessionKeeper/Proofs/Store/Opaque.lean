import SessionKeeper.Proofs.FileTree.Alike
import SessionKeeper.Proofs.Store.File
import SessionKeeper.Storage
import SessionKeeper.Store.Outage

/-!
# Stores do not look at the texts they keep

Two stores hold related texts under the same keys and are the same in all else. Whatever they are
asked for, they fail alike and report the same events, and they go on to hold related texts. So what
the texts say makes no difference to a store.
-/

namespace SessionKeeper

/-! ## Opaque stores -/

/-- A reflexive relation on the texts under each key. -/
structure Likeness where
  rel : String → String → String → Prop
  refl : ∀ key text, rel key text text

/-- Changes with the same result and the same events that leave related stores. -/
structure Change.Alike {σ : Type} (S : σ → σ → Prop) (c d : Change σ) : Prop where
  result : c.result = d.result
  store : S c.store d.store
  events : c.events = d.events

/-- Changes that both succeed or both fail, with the same events, and leave related stores. If they
are to agree verbatim, they fail in the same way. -/
structure Change.Parallel {σ : Type} (verbatim : Prop) (S : σ → σ → Prop) (c d : Change σ) :
    Prop where
  result : SessionKeeper.Parallel (EqIf verbatim) Eq c.result d.result
  store : S c.store d.store
  events : c.events = d.events

theorem Change.Alike.parallel {σ : Type} {verbatim : Prop} {S : σ → σ → Prop} {c d : Change σ}
    (h : Alike S c d) : Change.Parallel verbatim S c d :=
  ⟨h.result ▸ .refl .refl (fun _ => rfl) _, h.store, h.events⟩

theorem Change.Parallel.alike {σ : Type} {S : σ → σ → Prop} {c d : Change σ}
    (h : Change.Parallel True S c d) : Alike S c d :=
  ⟨(Agree.of_parallel h.result).eq, h.store, h.events⟩

/-- A store that does not look at the texts it keeps. All stores are such: the memory, the keychain,
the file, whichever of them is in use, and each of them behind an outage. -/
class OpaqueStore (σ : Type) [Store σ] where
  /-- Stores that hold related texts under the same keys and are the same in all else. -/
  Alike : Likeness → σ → σ → Prop
  refl (R : Likeness) (s : σ) : Alike R s s
  get {R : Likeness} {s t : σ} (h : Alike R s t) (key : String) :
    Agree (Option.Rel (R.rel key)) (Store.get key s) (Store.get key t)
  set {R : Likeness} {s t : σ} (h : Alike R s t) {key a b : String} (hab : R.rel key a b) :
    Change.Alike (Alike R) (Store.set key a s) (Store.set key b t)
  remove {R : Likeness} {s t : σ} (h : Alike R s t) (key : String) :
    Change.Alike (Alike R) (Store.remove key s) (Store.remove key t)

/-! ## The memory -/

namespace MemoryStore

instance : OpaqueStore MemoryStore where
  Alike R s t := s.entries.Alike R.rel t.entries
  refl R s := .refl R.refl s.entries
  get h key := .ok (h.get? key)
  set h _ _ _ hab := ⟨rfl, h.insert hab, rfl⟩
  remove h key := ⟨rfl, h.erase key, rfl⟩

end MemoryStore

/-! ## Stores with outages -/

namespace Unreliable

variable {σ : Type} [Store σ] [OpaqueStore σ]

/-- The same calls fail, of stores that are alike. -/
def Alike (R : Likeness) (u v : Unreliable σ) : Prop :=
  u.outage = v.outage ∧ OpaqueStore.Alike R u.store v.store

variable {R : Likeness} {u v : Unreliable σ}

theorem Alike.refuse (h : Alike R u v) (reason : String) :
    Change.Alike (Alike R) (u.refuse reason) (v.refuse reason) :=
  ⟨rfl, h, rfl⟩

theorem Alike.accept (h : Alike R u v) {c d : Change σ}
    (hcd : Change.Alike (OpaqueStore.Alike R) c d) :
    Change.Alike (Alike R) (u.accept c) (v.accept d) :=
  ⟨hcd.result, ⟨h.1, hcd.store⟩, hcd.events⟩

instance : OpaqueStore (Unreliable σ) where
  Alike := Alike
  refl R u := ⟨rfl, OpaqueStore.refl R u.store⟩
  get {R u v} h key := by
    simp only [Store.get, h.1]
    split
    next => exact .error _
    next => exact OpaqueStore.get h.2 key
  set {R u v} h key a b hab := by
    simp only [Store.set, h.1]
    split
    next => exact h.refuse _
    next => exact h.accept (OpaqueStore.set h.2 hab)
  remove {R u v} h key := by
    simp only [Store.remove, h.1]
    split
    next => exact h.refuse _
    next => exact h.accept (OpaqueStore.remove h.2 key)

end Unreliable

/-! ## The keychain -/

/-- Bytes that are the same, or those of related texts. -/
inductive Likeness.Bytes (R : Likeness) (key : String) : ByteArray → ByteArray → Prop
  | same (bytes : ByteArray) : R.Bytes key bytes bytes
  | texts {a b : String} (h : R.rel key a b) : R.Bytes key a.toUTF8 b.toUTF8

theorem Likeness.Bytes.decode {R : Likeness} {key : String} {x y : ByteArray}
    (h : R.Bytes key x y) : Option.Rel (R.rel key) (Text.decode x) (Text.decode y) := by
  cases h with
  | same =>
      cases Text.decode x with
      | none => exact .none
      | some text => exact .some (R.refl key text)
  | texts h =>
      rw [Text.decode_toUTF8, Text.decode_toUTF8]
      exact .some h

/-- Keychains that hold the same entries with related texts and meet the same faults. -/
structure Keychain.Alike (R : Likeness) (k l : Keychain) : Prop where
  faults : k.faults = l.faults
  keeps : k.keeps = l.keeps
  secrets : k.secrets.Alike (fun a => R.Bytes a.key) l.secrets

namespace Keychain.Alike

variable {R : Likeness} {k l : Keychain}

protected theorem refl (R : Likeness) (k : Keychain) : k.Alike R k :=
  ⟨rfl, rfl, .refl (fun _ _ => .same _) _⟩

theorem opened_eq (h : k.Alike R l) : k.opened = l.opened := by
  rw [opened, opened, h.faults]

theorem password (h : k.Alike R l) (a : Account) :
    Agree (R.rel a.key) (k.password a) (l.password a) := by
  have hget := h.secrets.get? a
  rw [Keychain.password, Keychain.password, h.faults]
  cases meet l.faults.reading with
  | error fault => exact .error fault
  | ok _ =>
      generalize k.secrets.get? a = x at hget ⊢
      generalize l.secrets.get? a = y at hget ⊢
      cases hget with
      | none => exact .error _
      | @some x y hbytes =>
          have htext := hbytes.decode
          simp only [bind, Except.bind]
          generalize Text.decode x = s at htext ⊢
          generalize Text.decode y = t at htext ⊢
          cases htext with
          | none => exact .error _
          | some hst => exact .ok hst

theorem setPassword (h : k.Alike R l) {a : Account} {s t : String} (hst : R.rel a.key s t) :
    Agree (Keychain.Alike R) (k.setPassword a s) (l.setPassword a t) := by
  rw [Keychain.setPassword, Keychain.setPassword, h.faults]
  cases meet l.faults.writing with
  | error fault => exact .error fault
  | ok _ =>
      change Agree _ (.ok (k.plant a _)) (.ok (l.plant a _))
      rw [plant, plant, h.keeps]
      split
      next => exact .ok ⟨h.faults, rfl, h.secrets.insert (.texts hst)⟩
      next => exact .ok h

theorem delete (h : k.Alike R l) (a : Account) :
    Agree (Keychain.Alike R) (k.delete a) (l.delete a) := by
  rw [Keychain.delete, Keychain.delete, h.faults, h.secrets.contains_eq]
  cases meet l.faults.deleting with
  | error fault => exact .error fault
  | ok _ =>
      simp only [bind, Except.bind]
      split
      next => exact .ok ⟨rfl, h.keeps, h.secrets.erase a⟩
      next => exact .error _

end Keychain.Alike

namespace KeychainStore

/-- The stores have the same service, of keychains that are alike. -/
structure Alike (R : Likeness) (s t : KeychainStore) : Prop where
  service : s.service = t.service
  keychain : s.keychain.Alike R t.keychain

namespace Alike

variable {R : Likeness} {s t : KeychainStore}

theorem account_eq (h : Alike R s t) (key : String) : s.account key = t.account key := by
  rw [account, account, h.service]

theorem refuse (h : Alike R s t) (fault : KeychainFault) :
    Change.Alike (Alike R) (s.refuse fault) (t.refuse fault) :=
  ⟨rfl, h, rfl⟩

theorem accept (h : Alike R s t) {k l : Keychain} (hkl : k.Alike R l) :
    Change.Alike (Alike R) (s.accept k) (t.accept l) :=
  ⟨rfl, ⟨h.service, hkl⟩, rfl⟩

theorem get (h : Alike R s t) (key : String) :
    Agree (Option.Rel (R.rel key)) (Store.get key s) (Store.get key t) := by
  change Agree _ (KeychainStore.get key s) (KeychainStore.get key t)
  rw [KeychainStore.get, KeychainStore.get, h.keychain.opened_eq, h.account_eq]
  cases t.keychain.opened with
  | error fault => exact .error _
  | ok _ =>
      have hpassword := h.keychain.password (t.account key)
      generalize s.keychain.password (t.account key) = x at hpassword ⊢
      generalize t.keychain.password (t.account key) = y at hpassword ⊢
      cases hpassword with
      | ok hab => exact .ok (.some hab)
      | error fault =>
          cases fault with
          | panic => exact .error _
          | error e =>
              -- an entry that is missing is no error of the store
              cases e with
              | noEntry => exact .ok .none
              | _ => exact .error _

theorem set (h : Alike R s t) {key a b : String} (hab : R.rel key a b) :
    Change.Alike (Alike R) (Store.set key a s) (Store.set key b t) := by
  change Change.Alike _ (KeychainStore.set key a s) (KeychainStore.set key b t)
  rw [KeychainStore.set, KeychainStore.set, h.keychain.opened_eq, h.account_eq]
  cases t.keychain.opened with
  | error fault => exact h.refuse fault
  | ok _ =>
      have hset := h.keychain.setPassword (a := t.account key) hab
      generalize s.keychain.setPassword (t.account key) a = x at hset ⊢
      generalize t.keychain.setPassword (t.account key) b = y at hset ⊢
      cases hset with
      | ok hkl => exact h.accept hkl
      | error fault => exact h.refuse fault

theorem remove (h : Alike R s t) (key : String) :
    Change.Alike (Alike R) (Store.remove key s) (Store.remove key t) := by
  change Change.Alike _ (KeychainStore.remove key s) (KeychainStore.remove key t)
  rw [KeychainStore.remove, KeychainStore.remove, h.keychain.opened_eq, h.account_eq]
  cases t.keychain.opened with
  | error fault => exact h.refuse fault
  | ok _ =>
      have hdelete := h.keychain.delete (t.account key)
      generalize s.keychain.delete (t.account key) = x at hdelete ⊢
      generalize t.keychain.delete (t.account key) = y at hdelete ⊢
      cases hdelete with
      | ok hkl => exact h.accept hkl
      | error fault =>
          cases fault with
          | panic => exact h.refuse .panic
          | error e =>
              cases e with
              | noEntry => exact h.accept h.keychain
              | _ => exact h.refuse _

end Alike

instance : OpaqueStore KeychainStore where
  Alike := Alike
  refl R s := ⟨rfl, .refl R s.keychain⟩
  get h := h.get
  set h := h.set
  remove h := h.remove

end KeychainStore

/-! ## The file -/

/-- Contents of files that are the same, or documents of entries with related texts. -/
inductive Likeness.Content (R : Likeness) : ByteArray → ByteArray → Prop
  | same (content : ByteArray) : R.Content content content
  | documents {d e : Entries} (h : d.Alike R.rel e) :
      R.Content d.render.toUTF8 e.render.toUTF8

/-- What a content of the storage file holds. -/
def StorageFile.holdings (content : ByteArray) : Except StoreError Entries :=
  match Text.decode content with
  | none => .error (.io .notText)
  | some text => decode text

theorem StorageFile.holdings_render (entries : Entries) :
    holdings entries.render.toUTF8 = .ok entries := by
  rw [holdings, Text.decode_toUTF8]
  exact decode_render entries

/-- Which contents of a storage file may stand for one another: they hold related texts, or neither
can be read. The documents that a store writes for related texts are among them. If stores are to
agree verbatim, the contents cannot be read for the same reason. -/
structure Likeness.Layout (R : Likeness) (verbatim : Prop) where
  rel : ByteArray → ByteArray → Prop
  refl : ∀ content, rel content content
  documents {d e : Entries} : d.Alike R.rel e → rel d.render.toUTF8 e.render.toUTF8
  holdings {a b : ByteArray} : rel a b → Parallel (EqIf verbatim) (SortedMap.Alike R.rel)
    (StorageFile.holdings a) (StorageFile.holdings b)

namespace Likeness

/-- Documents of related texts as a store writes them. -/
def written (R : Likeness) : R.Layout True where
  rel := R.Content
  refl := .same
  documents := .documents
  holdings h := by
    cases h with
    | same content => exact .refl .refl (.refl R.refl) _
    | documents hde =>
        rw [StorageFile.holdings_render, StorageFile.holdings_render]
        exact .ok hde

/-- All contents that are read alike, however they are laid out. -/
def readable (R : Likeness) (verbatim : Prop) : R.Layout verbatim where
  rel a b := Parallel (EqIf verbatim) (SortedMap.Alike R.rel) (StorageFile.holdings a)
    (StorageFile.holdings b)
  refl _ := .refl .refl (.refl R.refl) _
  documents hde := by
    rw [StorageFile.holdings_render, StorageFile.holdings_render]
    exact .ok hde
  holdings := id

end Likeness

/-- Disks with trees that are alike, on which the same was done so far. -/
structure Disk.Alike (C : ByteArray → ByteArray → Prop) (d e : Disk) : Prop where
  tree : d.tree.Alike C e.tree
  held : d.held = e.held
  events : d.events = e.events

namespace StorageFile

open Program

variable {C : ByteArray → ByteArray → Prop}

/-- Changes that come to the same result and leave disks that are alike. -/
def Ends (C : ByteArray → ByteArray → Prop) (r s : Except StoreError Unit) (d e : Disk) : Prop :=
  r = s ∧ d.Alike C e

theorem coupled_andThen {rest rest' : Program fileSteps (Except StoreError Unit)}
    (hrest : Coupled diskHandler (Disk.Alike C) rest rest' (Ends C))
    (r s : Except IoError Unit) :
    Coupled diskHandler (fun d e => r = s ∧ d.Alike C e) (andThen rest r) (andThen rest' s)
      (Ends C) := by
  rintro d e ⟨rfl, h⟩
  cases r with
  | ok _ => exact hrest d e h
  | error _ => exact ⟨rfl, h⟩

/-- An access that leaves trees alike does so on the disks. -/
theorem apply_alike {d e : Disk} (h : d.Alike C e) {r s : Except IoError FileTree}
    (hrs : Agree (FileTree.Alike C) r s) :
    (d.apply r).1 = (e.apply s).1 ∧ (d.apply r).2.Alike C (e.apply s).2 := by
  cases hrs with
  | ok htree => exact ⟨rfl, htree, h.held, h.events⟩
  | error _ => exact ⟨rfl, h⟩

theorem coupled_publish (path : Path) (count : Nat) :
    Coupled diskHandler (Disk.Alike C) (publish path count) (publish path count) (Ends C) := by
  refine .ask (fun r s d e => r = s ∧ d.Alike C e) ?_ (coupled_andThen ?_)
  · exact fun d e h => apply_alike h (h.tree.moveFile _ _)
  · refine .ask (fun _ _ => Disk.Alike C) ?_ fun _ _ => .done fun d e h => ⟨rfl, h⟩
    exact fun d e h => ⟨h.tree, h.held, congrArg (List.cons _) h.events⟩

theorem coupled_makeRoom (path : Path) {rest rest' : Program fileSteps (Except StoreError Unit)}
    (hrest : Coupled diskHandler (Disk.Alike C) rest rest' (Ends C)) :
    Coupled diskHandler (Disk.Alike C) (makeRoom path rest) (makeRoom path rest') (Ends C) := by
  rw [makeRoom, makeRoom]
  cases path.parent? with
  | none => exact hrest
  | some directory =>
      refine .ask (fun r s d e => r = s ∧ d.Alike C e) ?_ (coupled_andThen hrest)
      intro d e h
      obtain ⟨hresult, htree⟩ := h.tree.ensureDirectories directory
      exact ⟨hresult, htree, h.held, h.events⟩

/-- Two documents with related texts are written alike. -/
theorem coupled_write (path : Path) {rest rest' : Program fileSteps (Except StoreError Unit)}
    (hrest : Coupled diskHandler (Disk.Alike C) rest rest' (Ends C)) {a b : ByteArray}
    (hempty : C .empty .empty) (hab : C a b) :
    Coupled diskHandler (Disk.Alike C)
      (.ask (.truncate path) <| andThen <| writePieces path rest [a])
      (.ask (.truncate path) <| andThen <| writePieces path rest' [b]) (Ends C) := by
  intro d e h
  have htruncate := h.tree.truncate_append path hempty hab
  simp only [run_ask, diskHandler, FileStep.answer]
  generalize d.tree.truncate path = r at htruncate ⊢
  generalize e.tree.truncate path = s at htruncate ⊢
  cases htruncate with
  | error _ => exact ⟨rfl, h⟩
  | ok happend =>
      obtain ⟨t, u, ht, hu, htree⟩ := happend
      simp only [Disk.apply, andThen, writePieces, run_ask, FileStep.answer, ht, hu]
      exact hrest _ _ ⟨htree, h.held, h.events⟩

theorem coupled_save {R : Likeness} {verbatim : Prop} (L : R.Layout verbatim) (path : Path)
    {d e : Entries} (hde : d.Alike R.rel e) :
    Coupled diskHandler (Disk.Alike L.rel) ((opened path).save d) ((opened path).save e)
      (Ends L.rel) := by
  rw [save, save, hde.size_eq]
  exact coupled_makeRoom path
    (coupled_write _ (coupled_publish path e.size) (L.refl _) (L.documents hde))

end StorageFile

namespace FileStore

open StorageFile

theorem contents_eq (s : FileStore) :
    s.contents = match s.tree.read s.path with
      | .ok content => holdings content
      | .error .notFound => .ok .empty
      | .error e => .error (.io e) := by
  rw [contents, FileTree.readText]
  cases s.tree.read s.path with
  | ok content =>
      dsimp only
      rw [holdings]
      cases Text.decode content <;> rfl
  | error e => cases e <;> rfl

/-- The stores have the same file, in trees that are alike. -/
structure Alike {R : Likeness} {verbatim : Prop} (L : R.Layout verbatim) (s t : FileStore) :
    Prop where
  path : s.path = t.path
  tree : s.tree.Alike L.rel t.tree

namespace Alike

variable {R : Likeness} {verbatim : Prop} {L : R.Layout verbatim} {s t : FileStore}

theorem contents (h : Alike L s t) :
    Parallel (EqIf verbatim) (SortedMap.Alike R.rel) s.contents t.contents := by
  have hread := h.tree.read t.path
  rw [contents_eq, contents_eq, h.path]
  generalize s.tree.read t.path = r at hread ⊢
  generalize t.tree.read t.path = q at hread ⊢
  cases hread with
  | error _ => exact .refl .refl (.refl R.refl) _
  | ok hcontent => exact L.holdings hcontent

theorem get (h : Alike L s t) (key : String) :
    Parallel (EqIf verbatim) (Option.Rel (R.rel key)) (Store.get key s) (Store.get key t) := by
  have hcontents := h.contents
  rw [get_eq, get_eq]
  generalize s.contents = r at hcontents ⊢
  generalize t.contents = q at hcontents ⊢
  cases hcontents with
  | error he => exact .error he
  | ok hde => exact .ok (hde.get? key)

theorem change (h : Alike L s t)
    {rest : Except StoreError Entries → Program fileSteps (Except StoreError Unit)}
    {rest' : Except StoreError Entries → Program fileSteps (Except StoreError Unit)}
    (hrest : Program.Keeps diskHandler (Disk.Alike L.rel) (Parallel (EqIf verbatim) Eq)
      (rest s.contents) (rest' t.contents)) :
    Change.Parallel verbatim (Alike L)
      (s.change ((opened s.path).guarded ((load s.path).bind rest)))
      (t.change ((opened t.path).guarded ((load t.path).bind rest'))) := by
  rw [change_guarded, change_guarded]
  obtain ⟨hresult, hdisk⟩ :=
    hrest ⟨s.tree, [0], []⟩ ⟨t.tree, [0], []⟩ ⟨h.tree, rfl, rfl⟩
  exact ⟨hresult, ⟨h.path, hdisk.tree⟩, congrArg List.reverse hdisk.events⟩

/-- Entries with related texts are saved alike. -/
theorem keeps_save (L : R.Layout verbatim) (path : Path) {d e : Entries}
    (hde : d.Alike R.rel e) :
    Program.Keeps diskHandler (Disk.Alike L.rel) (Parallel (EqIf verbatim) Eq)
      ((opened path).save d) ((opened path).save e) :=
  Program.Keeps.mono (coupled_save L path hde) fun r _ hrs =>
    hrs ▸ .refl .refl (fun _ => rfl) r

theorem set (h : Alike L s t) {key a b : String} (hab : R.rel key a b) :
    Change.Parallel verbatim (Alike L) (Store.set key a s) (Store.set key b t) := by
  refine h.change ?_
  have hcontents := h.contents
  generalize s.contents = r at hcontents ⊢
  generalize t.contents = q at hcontents ⊢
  cases hcontents with
  | error he => exact .pure (.error he)
  | ok hde =>
      rw [h.path]
      exact keeps_save L t.path (hde.insert hab)

theorem remove (h : Alike L s t) (key : String) :
    Change.Parallel verbatim (Alike L) (Store.remove key s) (Store.remove key t) := by
  refine h.change ?_
  have hcontents := h.contents
  generalize s.contents = r at hcontents ⊢
  generalize t.contents = q at hcontents ⊢
  cases hcontents with
  | error he => exact .pure (.error he)
  | ok hde =>
      rw [h.path]
      simp only [hde.contains_eq]
      split_ifs
      · exact keeps_save L t.path (hde.erase key)
      · exact .pure (.ok rfl)

end Alike

instance : OpaqueStore FileStore where
  Alike R := Alike R.written
  refl R s := ⟨rfl, .refl R.written.refl s.tree⟩
  get h key := .of_parallel (h.get key)
  set h _ _ _ hab := (h.set hab).alike
  remove h key := (h.remove key).alike

end FileStore

/-! ## Everything that texts can be kept in -/

namespace Storage

/-- The same store is in use, and all places where texts can be kept are alike. -/
structure Alike {R : Likeness} {verbatim : Prop} (L : R.Layout verbatim) (s t : Storage) :
    Prop where
  medium : s.medium = t.medium
  tree : s.tree.Alike L.rel t.tree
  keychain : s.keychain.Alike R t.keychain
  memory : OpaqueStore.Alike R s.memory t.memory

namespace Alike

variable {R : Likeness} {verbatim : Prop} {L : R.Layout verbatim} {s t : Storage}

theorem fileStore (h : Alike L s t) (path : Path) :
    FileStore.Alike L ⟨path, s.tree⟩ ⟨path, t.tree⟩ :=
  ⟨rfl, h.tree⟩

theorem keychainStore (h : Alike L s t) (service : String) :
    KeychainStore.Alike R ⟨service, s.keychain⟩ ⟨service, t.keychain⟩ :=
  ⟨rfl, h.keychain⟩

theorem ofFile (h : Alike L s t) {c d : Change FileStore}
    (hcd : Change.Parallel verbatim (FileStore.Alike L) c d) :
    Change.Parallel verbatim (Alike L) (s.ofFile c) (t.ofFile d) :=
  ⟨hcd.result, ⟨h.medium, hcd.store.tree, h.keychain, h.memory⟩, hcd.events⟩

theorem ofKeychain (h : Alike L s t) {c d : Change KeychainStore}
    (hcd : Change.Alike (KeychainStore.Alike R) c d) :
    Change.Alike (Alike L) (s.ofKeychain c) (t.ofKeychain d) :=
  ⟨hcd.result, ⟨h.medium, h.tree, hcd.store.keychain, h.memory⟩, hcd.events⟩

theorem ofMemory (h : Alike L s t) {c d : Change MemoryStore}
    (hcd : Change.Alike (OpaqueStore.Alike R) c d) :
    Change.Alike (Alike L) (s.ofMemory c) (t.ofMemory d) :=
  ⟨hcd.result, ⟨h.medium, h.tree, h.keychain, hcd.store⟩, hcd.events⟩

theorem get (h : Alike L s t) (key : String) :
    Parallel (EqIf verbatim) (Option.Rel (R.rel key)) (Store.get key s) (Store.get key t) := by
  change Parallel _ _ (Storage.get key s) (Storage.get key t)
  rw [Storage.get, Storage.get, h.medium]
  cases t.medium with
  | file path => exact (h.fileStore path).get key
  | keychain service => exact ((h.keychainStore service).get key).parallel .refl
  | memory => exact (OpaqueStore.get h.memory key).parallel .refl

theorem set (h : Alike L s t) {key a b : String} (hab : R.rel key a b) :
    Change.Parallel verbatim (Alike L) (Store.set key a s) (Store.set key b t) := by
  change Change.Parallel _ _ (Storage.set key a s) (Storage.set key b t)
  rw [Storage.set, Storage.set, h.medium]
  cases t.medium with
  | file path => exact h.ofFile ((h.fileStore path).set hab)
  | keychain service => exact (h.ofKeychain ((h.keychainStore service).set hab)).parallel
  | memory => exact (h.ofMemory (OpaqueStore.set h.memory hab)).parallel

theorem remove (h : Alike L s t) (key : String) :
    Change.Parallel verbatim (Alike L) (Store.remove key s) (Store.remove key t) := by
  change Change.Parallel _ _ (Storage.remove key s) (Storage.remove key t)
  rw [Storage.remove, Storage.remove, h.medium]
  cases t.medium with
  | file path => exact h.ofFile ((h.fileStore path).remove key)
  | keychain service => exact (h.ofKeychain ((h.keychainStore service).remove key)).parallel
  | memory => exact (h.ofMemory (OpaqueStore.remove h.memory key)).parallel

end Alike

instance : OpaqueStore Storage where
  Alike R := Alike R.written
  refl R s :=
    ⟨rfl, .refl R.written.refl s.tree, .refl R s.keychain, OpaqueStore.refl R s.memory⟩
  get h key := .of_parallel (h.get key)
  set h _ _ _ hab := (h.set hab).alike
  remove h key := (h.remove key).alike

end Storage

end SessionKeeper
