import SessionKeeper.Proofs.Store.Backends

/-!
# Stores keep their keys apart

What is done under one key of a store does not show under another. In the file all keys share one
document, which every change reads and writes as a whole, so there it takes the document read back
to see it. What was put under a key itself is found there.
-/

namespace SessionKeeper

/-- A store in which each key is on its own as long as no call fails. The memory, the keychain and
the file are such stores. -/
class SeparateStore (σ : Type) [Store σ] where
  /-- Stores that are the same to whoever uses this key only. -/
  Same : String → σ → σ → Prop
  refl (key : String) (s : σ) : Same key s s
  get {key : String} {s t : σ} (h : Same key s t) : Store.get key s = Store.get key t
  set {key value : String} {s t : σ} (h : Same key s t)
    (hok : (Store.set key value s).result = .ok ()) :
    (Store.set key value t).result = .ok () ∧
      Same key (Store.set key value s).store (Store.set key value t).store
  remove {key : String} {s t : σ} (h : Same key s t) (hok : (Store.remove key s).result = .ok ()) :
    (Store.remove key t).result = .ok () ∧
      Same key (Store.remove key s).store (Store.remove key t).store
  set_other {key other value : String} {s t : σ} (h : Same key s t) (hne : key ≠ other)
    (hok : (Store.set other value s).result = .ok ()) : Same key (Store.set other value s).store t
  remove_other {key other : String} {s t : σ} (h : Same key s t) (hne : key ≠ other)
    (hok : (Store.remove other s).result = .ok ()) : Same key (Store.remove other s).store t

/-- A store that gives back what was put under a key last. The keychain does so as long as it keeps
its entries and meets no faults. -/
class FaithfulStore (σ : Type) [Store σ] where
  /-- Nothing stands in the way of finding what is put into the store. -/
  Sound : σ → Prop
  sound_set {key value : String} {s : σ} (h : Sound s)
    (hok : (Store.set key value s).result = .ok ()) : Sound (Store.set key value s).store
  get_set {key value : String} {s : σ} (h : Sound s)
    (hok : (Store.set key value s).result = .ok ()) :
    Store.get key (Store.set key value s).store = .ok (some value)

/-! ## The memory -/

namespace MemoryStore

instance : SeparateStore MemoryStore where
  Same key s t := s.texts key = t.texts key
  refl _ _ := rfl
  get h := congrArg Except.ok h
  set _ _ := ⟨rfl, by simp only [texts_set, Texts.put_self]⟩
  remove _ _ := ⟨rfl, by simp only [texts_remove, Texts.drop_self]⟩
  set_other h hne _ := by
    rw [texts_set, Texts.put, if_neg hne]
    exact h
  remove_other h hne _ := by
    rw [texts_remove, Texts.drop, if_neg hne]
    exact h

instance : FaithfulStore MemoryStore where
  Sound _ := True
  sound_set _ _ := trivial
  get_set _ _ := congrArg Except.ok (SortedMap.get?_insert_self ..)

end MemoryStore

/-! ## The keychain -/

namespace Keychain

@[simp] theorem faults_plant (k : Keychain) (a : Account) (bytes : ByteArray) :
    (k.plant a bytes).faults = k.faults := by
  rw [plant]
  split <;> rfl

@[simp] theorem keeps_plant (k : Keychain) (a : Account) (bytes : ByteArray) :
    (k.plant a bytes).keeps = k.keeps := by
  rw [plant]
  split <;> rfl

theorem get?_plant_self (k : Keychain) (a : Account) (bytes : ByteArray) :
    (k.plant a bytes).secrets.get? a = if k.keeps then some bytes else k.secrets.get? a := by
  rw [plant]
  split
  next => exact SortedMap.get?_insert_self ..
  next => rfl

theorem get?_plant_of_ne {a b : Account} (h : b ≠ a) (k : Keychain) (bytes : ByteArray) :
    (k.plant a bytes).secrets.get? b = k.secrets.get? b := by
  rw [plant]
  split
  next => exact SortedMap.get?_insert_of_ne h ..
  next => rfl

/-- The keychain after an entry was removed, which need not be there. One that takes every entry for
missing removes none. -/
def without (k : Keychain) (a : Account) : Keychain :=
  if k.faults.deleting = none ∧ k.secrets.contains a then
    { k with secrets := k.secrets.erase a }
  else k

@[simp] theorem faults_without (k : Keychain) (a : Account) :
    (k.without a).faults = k.faults := by
  rw [without]
  split <;> rfl

@[simp] theorem keeps_without (k : Keychain) (a : Account) : (k.without a).keeps = k.keeps := by
  rw [without]
  split <;> rfl

theorem get?_without_self (k : Keychain) (a : Account) :
    (k.without a).secrets.get? a =
      if k.faults.deleting = none then none else k.secrets.get? a := by
  by_cases hdeleting : k.faults.deleting = none
  · by_cases hcontains : k.secrets.contains a = true
    · rw [without, if_pos ⟨hdeleting, hcontains⟩, if_pos hdeleting, SortedMap.get?_erase_self]
    · rw [without, if_neg fun h => hcontains h.2, if_pos hdeleting]
      simpa [SortedMap.contains] using hcontains
  · rw [without, if_neg fun h => hdeleting h.1, if_neg hdeleting]

theorem get?_without_of_ne {a b : Account} (h : b ≠ a) (k : Keychain) :
    (k.without a).secrets.get? b = k.secrets.get? b := by
  rw [without]
  split
  next => exact SortedMap.get?_erase_of_ne h ..
  next => rfl

end Keychain

namespace KeychainStore

variable {key other value : String} {s t : KeychainStore}

/-- Whether a key can be set depends on the faults only. -/
theorem set_result_eq (h : s.keychain.faults = t.keychain.faults) :
    (Store.set key value s).result = (Store.set key value t).result := by
  change (KeychainStore.set key value s).result = (KeychainStore.set key value t).result
  rw [KeychainStore.set, KeychainStore.set, Keychain.opened, Keychain.opened, Keychain.setPassword,
    Keychain.setPassword, h]
  cases t.keychain.faults.opening <;> cases t.keychain.faults.writing <;> rfl

theorem set_of_ok (hok : (Store.set key value s).result = .ok ()) :
    Store.set key value s = s.accept (s.keychain.plant (s.account key) value.toUTF8) := by
  change (KeychainStore.set key value s).result = _ at hok
  change KeychainStore.set key value s = _
  rw [KeychainStore.set, Keychain.opened, Keychain.setPassword] at hok ⊢
  cases hopening : s.keychain.faults.opening with
  | some fault => simp [hopening, Keychain.meet, refuse] at hok
  | none =>
      cases hwriting : s.keychain.faults.writing with
      | some fault => simp [hopening, hwriting, Keychain.meet, refuse, bind, Except.bind] at hok
      | none => rfl

/-- How removing a key ends, by what opening and deleting meet. -/
theorem remove_eq (key : String) (s : KeychainStore) : Store.remove key s =
    match s.keychain.faults.opening, s.keychain.faults.deleting with
    | some fault, _ => s.refuse fault
    | none, none => s.accept (s.keychain.without (s.account key))
    | none, some (.error .noEntry) => s.accept (s.keychain.without (s.account key))
    | none, some fault => s.refuse fault := by
  change KeychainStore.remove key s = _
  rw [KeychainStore.remove, Keychain.opened, Keychain.delete, Keychain.without]
  cases s.keychain.faults.opening with
  | some fault => rfl
  | none =>
      cases s.keychain.faults.deleting with
      | none => cases s.keychain.secrets.contains (s.account key) <;> rfl
      | some fault =>
          cases fault with
          | panic => rfl
          | error e => cases e <;> rfl

/-- Whether a key can be removed depends on the faults only. -/
theorem remove_result_eq (h : s.keychain.faults = t.keychain.faults) :
    (Store.remove key s).result = (Store.remove key t).result := by
  rw [remove_eq, remove_eq, h]
  split <;> rfl

theorem remove_of_ok (hok : (Store.remove key s).result = .ok ()) :
    Store.remove key s = s.accept (s.keychain.without (s.account key)) := by
  rw [remove_eq] at hok ⊢
  split at hok <;> first | rfl | cases hok

/-- The stores have the same service, and their keychains the same faults and the same entry of the
key. -/
structure Same (key : String) (s t : KeychainStore) : Prop where
  service : s.service = t.service
  faults : s.keychain.faults = t.keychain.faults
  keeps : s.keychain.keeps = t.keychain.keeps
  secret : s.keychain.secrets.get? (s.account key) = t.keychain.secrets.get? (t.account key)

instance : SeparateStore KeychainStore where
  Same := Same
  refl _ _ := ⟨rfl, rfl, rfl, rfl⟩
  get {key s t} h := by
    change KeychainStore.get key s = KeychainStore.get key t
    rw [KeychainStore.get, KeychainStore.get, Keychain.opened, Keychain.opened, Keychain.password,
      Keychain.password, h.faults, h.secret]
  set {key value s t} h hok := by
    have hok' := (set_result_eq h.faults).symm.trans hok
    rw [set_of_ok hok, set_of_ok hok']
    refine ⟨rfl, h.service, by simpa [accept] using h.faults, by simpa [accept] using h.keeps, ?_⟩
    change (Keychain.plant _ (s.account key) _).secrets.get? (s.account key) =
      (Keychain.plant _ (t.account key) _).secrets.get? (t.account key)
    rw [Keychain.get?_plant_self, Keychain.get?_plant_self, h.keeps, h.secret]
  remove {key s t} h hok := by
    have hok' := (remove_result_eq h.faults).symm.trans hok
    rw [remove_of_ok hok, remove_of_ok hok']
    refine ⟨rfl, h.service, by simpa [accept] using h.faults, by simpa [accept] using h.keeps, ?_⟩
    change (Keychain.without _ (s.account key)).secrets.get? (s.account key) =
      (Keychain.without _ (t.account key)).secrets.get? (t.account key)
    rw [Keychain.get?_without_self, Keychain.get?_without_self, h.faults, h.secret]
  set_other {key other value s t} h hne hok := by
    rw [set_of_ok hok]
    refine ⟨h.service, by simpa [accept] using h.faults, by simpa [accept] using h.keeps, ?_⟩
    change (Keychain.plant _ (s.account other) _).secrets.get? (s.account key) = _
    rw [Keychain.get?_plant_of_ne (account_ne hne), h.secret]
  remove_other {key other s t} h hne hok := by
    rw [remove_of_ok hok]
    refine ⟨h.service, by simpa [accept] using h.faults, by simpa [accept] using h.keeps, ?_⟩
    change (Keychain.without _ (s.account other)).secrets.get? (s.account key) = _
    rw [Keychain.get?_without_of_ne (account_ne hne), h.secret]

instance : FaithfulStore KeychainStore where
  Sound s := s.keychain.faults = .none ∧ s.keychain.keeps = true
  sound_set h hok := by
    rw [set_of_ok hok]
    simpa [accept] using h
  get_set {key value s} h hok := by
    obtain ⟨hfaults, hkeeps⟩ := h
    rw [set_of_ok hok]
    change KeychainStore.get key
      ⟨s.service, s.keychain.plant (s.account key) value.toUTF8⟩ = .ok (some value)
    have hsecret : (s.keychain.plant (s.account key) value.toUTF8).secrets.get? (s.account key) =
        some value.toUTF8 := by
      rw [Keychain.get?_plant_self, if_pos hkeeps]
    simp only [account] at hsecret
    simp only [KeychainStore.get, Keychain.opened, Keychain.password, account,
      Keychain.faults_plant, hfaults, hsecret, Text.decode_toUTF8]
    rfl

end KeychainStore

/-! ## The file -/

namespace FileStore

open StorageFile

theorem not_io_of_ok {result : Except StoreError Unit} (hok : result = .ok ()) (e : IoError) :
    result ≠ .error (.io e) := by
  simp [hok]

/-- The stores have the same file, which holds the same under the key, and documents can be saved in
both trees or in none. -/
structure Same (key : String) (s t : FileStore) : Prop where
  path : s.path = t.path
  found : (s.contents.map fun entries => entries.get? key) =
    t.contents.map fun entries => entries.get? key
  writable : Writable s.path s.tree ↔ Writable t.path t.tree

namespace Same

variable {key other value : String} {s t : FileStore}

theorem exists_contents (h : Same key s t) {d : Entries} (hd : s.contents = .ok d) :
    ∃ e, t.contents = .ok e ∧ d.get? key = e.get? key := by
  have hfound := h.found
  rw [hd] at hfound
  obtain ⟨e, ht, heq⟩ := Json.map_eq_ok hfound.symm
  exact ⟨e, ht, heq.symm⟩

theorem of_contents (hpath : s.path = t.path) {d e : Entries} (hd : s.contents = .ok d)
    (he : t.contents = .ok e) (hkey : d.get? key = e.get? key) (hs : Writable s.path s.tree)
    (ht : Writable t.path t.tree) : Same key s t :=
  ⟨hpath, by rw [hd, he]; exact congrArg Except.ok hkey, iff_of_true hs ht⟩

theorem set (h : Same key s t) (hok : (Store.set key value s).result = .ok ()) :
    (Store.set key value t).result = .ok () ∧
      Same key (Store.set key value s).store (Store.set key value t).store := by
  obtain ⟨d, hd⟩ := exists_contents_of_set hok
  obtain ⟨e, he, -⟩ := h.exists_contents hd
  have hplace : Writable s.path s.tree := writable_of_set hd (not_io_of_ok hok)
  obtain ⟨u, _, hu, hplace', hcontents⟩ := set_of_contents hd hplace key value
  obtain ⟨v, _, hv, hplace'', hcontents'⟩ :=
    set_of_contents he (h.writable.mp hplace) key value
  rw [hu, hv]
  exact ⟨rfl, .of_contents h.path hcontents hcontents' (by simp) hplace' hplace''⟩

theorem remove (h : Same key s t) (hok : (Store.remove key s).result = .ok ()) :
    (Store.remove key t).result = .ok () ∧
      Same key (Store.remove key s).store (Store.remove key t).store := by
  obtain ⟨d, hd⟩ := exists_contents_of_remove hok
  obtain ⟨e, he, hkey⟩ := h.exists_contents hd
  have hcontains : d.contains key = e.contains key := by simp only [SortedMap.contains, hkey]
  cases hc : e.contains key with
  | false =>
      -- a key that is missing on one side is missing on both, and neither file is written
      rw [remove_of_not_contains hd (hcontains.trans hc), remove_of_not_contains he hc]
      exact ⟨rfl, h⟩
  | true =>
      have hplace : Writable s.path s.tree :=
        writable_of_remove hd (hcontains.trans hc) (not_io_of_ok hok)
      obtain ⟨u, _, hu, hplace', hcontents⟩ := remove_of_contains hd hplace (hcontains.trans hc)
      obtain ⟨v, _, hv, hplace'', hcontents'⟩ :=
        remove_of_contains he (h.writable.mp hplace) hc
      rw [hu, hv]
      exact ⟨rfl, .of_contents h.path hcontents hcontents' (by simp) hplace' hplace''⟩

theorem set_other (h : Same key s t) (hne : key ≠ other)
    (hok : (Store.set other value s).result = .ok ()) :
    Same key (Store.set other value s).store t := by
  obtain ⟨d, hd⟩ := exists_contents_of_set hok
  obtain ⟨e, he, hkey⟩ := h.exists_contents hd
  have hplace : Writable s.path s.tree := writable_of_set hd (not_io_of_ok hok)
  obtain ⟨u, _, hu, hplace', hcontents⟩ := set_of_contents hd hplace other value
  rw [hu]
  refine .of_contents h.path hcontents he ?_ hplace' (h.writable.mp hplace)
  rw [SortedMap.get?_insert_of_ne hne, hkey]

theorem remove_other (h : Same key s t) (hne : key ≠ other)
    (hok : (Store.remove other s).result = .ok ()) :
    Same key (Store.remove other s).store t := by
  obtain ⟨d, hd⟩ := exists_contents_of_remove hok
  obtain ⟨e, he, hkey⟩ := h.exists_contents hd
  cases hc : d.contains other with
  | false =>
      rw [remove_of_not_contains hd hc]
      exact h
  | true =>
      have hplace : Writable s.path s.tree :=
        writable_of_remove hd hc (not_io_of_ok hok)
      obtain ⟨u, _, hu, hplace', hcontents⟩ := remove_of_contains hd hplace hc
      rw [hu]
      refine .of_contents h.path hcontents he ?_ hplace' (h.writable.mp hplace)
      rw [SortedMap.get?_erase_of_ne hne, hkey]

end Same

instance : SeparateStore FileStore where
  Same := Same
  refl _ _ := ⟨rfl, rfl, Iff.rfl⟩
  get h := by rw [get_eq, get_eq, h.found]
  set h hok := h.set hok
  remove h hok := h.remove hok
  set_other h hne hok := h.set_other hne hok
  remove_other h hne hok := h.remove_other hne hok

instance : FaithfulStore FileStore where
  Sound _ := True
  sound_set _ _ := trivial
  get_set {key value s} _ hok := by
    obtain ⟨entries, hentries⟩ := exists_contents_of_set hok
    have hplace : Writable s.path s.tree := writable_of_set hentries (not_io_of_ok hok)
    obtain ⟨t, _, hset, -, hcontents⟩ := set_of_contents hentries hplace key value
    rw [hset, get_of_contents hcontents, SortedMap.get?_insert_self]

end FileStore

end SessionKeeper
