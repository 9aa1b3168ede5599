import SessionKeeper.Proofs.Store.Separate

/-!
# Services share a keychain

Stores of any services use one keychain, and each use of it may go wrong in its own way. What fails
changes nothing, what succeeds changes no entry but its own, and an entry counts as missing only if
it is. So the stores of a service cannot tell whether there are others.
-/

namespace SessionKeeper

/-! ## How calls of a store of the keychain end -/

namespace Keychain

theorem exists_password_of_absent {k : Keychain} {a : Account} (h : k.secrets.get? a = none) :
    ∃ fault, k.password a = .error fault := by
  rw [password, h]
  cases k.faults.reading with
  | none => exact ⟨.error .noEntry, rfl⟩
  | some fault => exact ⟨fault, rfl⟩

/-- A keychain says of itself that an entry is missing only if it is. -/
theorem absent_of_password {k : Keychain} {a : Account}
    (hreading : k.faults.reading ≠ some (.error .noEntry))
    (h : k.password a = .error (.error .noEntry)) : k.secrets.get? a = none := by
  rw [password] at h
  cases hfault : k.faults.reading with
  | some fault =>
      rw [hfault] at h hreading
      exact absurd (congrArg some (Except.error.inj h)) hreading
  | none =>
      rw [hfault] at h
      cases hentry : k.secrets.get? a with
      | none => rfl
      | some bytes =>
          simp only [hentry, meet] at h
          cases hdecoded : Text.decode bytes <;> simp [hdecoded, bind, Except.bind] at h

theorem absent_of_delete {k : Keychain} {a : Account}
    (hdeleting : k.faults.deleting ≠ some (.error .noEntry))
    (h : k.delete a = .error (.error .noEntry)) : k.secrets.get? a = none := by
  rw [delete] at h
  cases hfault : k.faults.deleting with
  | some fault =>
      rw [hfault] at h hdeleting
      exact absurd (congrArg some (Except.error.inj h)) hdeleting
  | none =>
      rw [hfault] at h
      cases hcontains : k.secrets.contains a with
      | false => simpa [SortedMap.contains] using hcontains
      | true => simp [hcontains, meet, bind, Except.bind] at h

end Keychain

namespace KeychainStore

variable {key value : String} {s : KeychainStore}

/-- Nothing is found where the entry could be opened and the keychain says that it is missing. -/
theorem get_eq_ok_none_iff : Store.get key s = .ok none ↔
    s.keychain.opened = .ok () ∧
      s.keychain.password (s.account key) = .error (.error .noEntry) := by
  change get key s = .ok none ↔ _
  rw [get]
  split
  next fault hopened => simp [hopened]
  next hopened =>
    split
    next value hpassword => simp [hpassword]
    next hpassword => simp [hopened, hpassword]
    next fault hmissing hpassword =>
      constructor
      · intro h
        cases h
      · intro h
        exact absurd (Except.error.inj (hpassword.symm.trans h.2)) hmissing

theorem set_cases (key value : String) (s : KeychainStore) :
    (∃ fault, Store.set key value s = s.refuse fault) ∨
      Store.set key value s = s.accept (s.keychain.plant (s.account key) value.toUTF8) := by
  change (∃ fault, KeychainStore.set key value s = _) ∨ KeychainStore.set key value s = _
  rw [KeychainStore.set, Keychain.setPassword]
  split
  next => exact .inl ⟨_, rfl⟩
  next =>
    cases s.keychain.faults.writing with
    | none => exact .inr rfl
    | some fault => exact .inl ⟨fault, rfl⟩

theorem remove_cases (key : String) (s : KeychainStore) :
    (∃ fault, Store.remove key s = s.refuse fault) ∨
      Store.remove key s = s.accept (s.keychain.without (s.account key)) := by
  rw [remove_eq]
  split
  next => exact .inl ⟨_, rfl⟩
  next => exact .inr rfl
  next => exact .inr rfl
  next => exact .inl ⟨_, rfl⟩

/-- A change of a key that changes no entry but its own, and none at all if it fails. -/
structure Confined (s : KeychainStore) (key : String) (c : Change KeychainStore) : Prop where
  keeps : c.store.keychain.keeps = s.keychain.keeps
  get?_of_ne {a : Account} (h : a ≠ s.account key) :
    c.store.keychain.secrets.get? a = s.keychain.secrets.get? a
  secrets_of_error {e : StoreError} (h : c.result = .error e) :
    c.store.keychain.secrets = s.keychain.secrets

theorem confined_refuse (s : KeychainStore) (key : String) (fault : KeychainFault) :
    s.Confined key (s.refuse fault) :=
  ⟨rfl, fun _ => rfl, fun _ => rfl⟩

theorem confined_set (key value : String) (s : KeychainStore) :
    s.Confined key (Store.set key value s) := by
  rcases set_cases key value s with ⟨fault, hset⟩ | hset
  · rw [hset]
    exact s.confined_refuse key fault
  · rw [hset]
    exact ⟨Keychain.keeps_plant .., fun h => Keychain.get?_plant_of_ne h .., nofun⟩

theorem confined_remove (key : String) (s : KeychainStore) :
    s.Confined key (Store.remove key s) := by
  rcases remove_cases key s with ⟨fault, hremove⟩ | hremove
  · rw [hremove]
    exact s.confined_refuse key fault
  · rw [hremove]
    exact ⟨Keychain.keeps_without .., fun h => Keychain.get?_without_of_ne h .., nofun⟩

/-- A key that was removed is gone, if the keychain does not take an entry for missing that is
there. -/
theorem get?_remove_self (hok : (Store.remove key s).result = .ok ())
    (hmissing : s.keychain.opened = .ok () →
      s.keychain.delete (s.account key) = .error (.error .noEntry) →
        s.keychain.secrets.get? (s.account key) = none) :
    (Store.remove key s).store.keychain.secrets.get? (s.account key) = none := by
  rw [remove_of_ok hok]
  change (s.keychain.without (s.account key)).secrets.get? (s.account key) = none
  rw [Keychain.get?_without_self]
  split
  next => rfl
  next hdeleting =>
    rw [remove_eq] at hok
    split at hok
    next => cases hok
    next => contradiction
    next hopening hnoEntry =>
      refine hmissing ?_ ?_
      · rw [Keychain.opened, hopening]
        rfl
      · rw [Keychain.delete, hnoEntry]
        rfl
    next => cases hok

/-- What is found by looking an entry up, if the keychain says that one is missing only if it is. -/
theorem found_none_iff {s : KeychainStore} {key : String}
    (htruthful : s.keychain.opened = .ok () →
      s.keychain.password (s.account key) = .error (.error .noEntry) →
        s.keychain.secrets.get? (s.account key) = none) :
    Store.get key s = .ok none ↔ s.keychain.opened = .ok () ∧
      (∀ fault, s.keychain.password (s.account key) = .error fault → fault = .error .noEntry) ∧
      s.keychain.secrets.get? (s.account key) = none := by
  rw [KeychainStore.get_eq_ok_none_iff]
  constructor
  · rintro ⟨hopened, hmissing⟩
    refine ⟨hopened, fun fault hfault => ?_, htruthful hopened hmissing⟩
    exact Except.error.inj (hfault.symm.trans hmissing)
  · rintro ⟨hopened, hfaults, habsent⟩
    obtain ⟨fault, hfault⟩ := Keychain.exists_password_of_absent habsent
    exact ⟨hopened, hfaults fault hfault ▸ hfault⟩

end KeychainStore

/-! ## Uses of a keychain -/

/-- The key that a call is about. -/
def StoreCall.key? : StoreCall → Option String
  | .get key => some key
  | .set key _ => some key
  | .remove key => some key
  | .reopen => none

/-- Whether a call failed. -/
def StoreReply.isFailed : StoreReply → Bool
  | .found (.error _) => true
  | .changed (.error _) => true
  | _ => false

theorem StoreReply.exists_error_of_failed {result : Except StoreError Unit}
    (h : (StoreReply.changed result).isFailed = true) : ∃ e, result = .error e := by
  cases result with
  | ok => cases h
  | error e => exact ⟨e, rfl⟩

/-- A call of a store with this service, and the faults that it meets. -/
structure KeychainUse where
  service : String
  call : StoreCall
  faults : KeychainFaults

/-- A use that was made of a keychain: what it found, what it gave, and what it left. -/
structure KeychainTurn where
  use : KeychainUse
  before : Keychain
  reply : StoreReply
  after : Keychain

namespace KeychainUse

/-- The store that makes the call. -/
def store (u : KeychainUse) (k : Keychain) : KeychainStore :=
  ⟨u.service, { k with faults := u.faults }⟩

/-- Makes the call. -/
def turn (u : KeychainUse) (k : Keychain) : KeychainTurn :=
  ⟨u, k, (u.call.run (u.store k)).1, (u.call.run (u.store k)).2.keychain⟩

/-- Makes uses of a keychain one after another. -/
def turns : List KeychainUse → Keychain → List KeychainTurn
  | [], _ => []
  | u :: us, k => u.turn k :: turns us (u.turn k).after

end KeychainUse

namespace KeychainTurn

/-- The store that made the call. -/
def store (t : KeychainTurn) : KeychainStore :=
  t.use.store t.before

/-- Where an entry is looked up or deleted, the keychain says that it is missing only if it is. -/
structure Truthful (t : KeychainTurn) : Prop where
  lookup {key : String} (hcall : t.use.call = .get key) (hopened : t.store.keychain.opened = .ok ())
    (hmissing : t.store.keychain.password ⟨t.use.service, key⟩ = .error (.error .noEntry)) :
    t.before.secrets.get? ⟨t.use.service, key⟩ = none
  deletion {key : String} (hcall : t.use.call = .remove key)
    (hopened : t.store.keychain.opened = .ok ())
    (hmissing : t.store.keychain.delete ⟨t.use.service, key⟩ = .error (.error .noEntry)) :
    t.before.secrets.get? ⟨t.use.service, key⟩ = none

/-- What goes wrong in a call stays with it. A call that fails leaves every entry as it was, and no
call changes the entry of another service or key. Nothing is found exactly if the entry was opened,
its lookup failed in no other way than that it is missing, and it is not there. What was removed is
gone. -/
structure Contained (t : KeychainTurn) : Prop where
  kept_of_failed (hfailed : t.reply.isFailed = true) : t.after.secrets = t.before.secrets
  others_kept {a : Account} (hother : a.service ≠ t.use.service ∨ t.use.call.key? ≠ some a.key) :
    t.after.secrets.get? a = t.before.secrets.get? a
  found_none_iff {key : String} (hcall : t.use.call = .get key) :
    t.reply = .found (.ok none) ↔ t.store.keychain.opened = .ok () ∧
      (∀ fault, t.store.keychain.password ⟨t.use.service, key⟩ = .error fault →
        fault = .error .noEntry) ∧
      t.before.secrets.get? ⟨t.use.service, key⟩ = none
  gone_of_removed {key : String} (hcall : t.use.call = .remove key)
    (hok : t.reply = .changed (.ok ())) : t.after.secrets.get? ⟨t.use.service, key⟩ = none

end KeychainTurn

namespace KeychainUse

theorem account_ne_of_other {a : Account} {service key : String}
    (h : a.service ≠ service ∨ some key ≠ some a.key) : a ≠ ⟨service, key⟩ := by
  rintro rfl
  simp at h

/-- A use is truthful if no fault that it meets says that an entry is missing. -/
theorem truthful_turn {u : KeychainUse} (hreading : u.faults.reading ≠ some (.error .noEntry))
    (hdeleting : u.faults.deleting ≠ some (.error .noEntry)) (k : Keychain) :
    (u.turn k).Truthful where
  lookup _ _ hmissing :=
    Keychain.absent_of_password (k := { k with faults := u.faults }) hreading hmissing
  deletion _ _ hmissing :=
    Keychain.absent_of_delete (k := { k with faults := u.faults }) hdeleting hmissing

/-- A call does not change whether written entries are kept. -/
theorem keeps_turn (u : KeychainUse) (k : Keychain) : (u.turn k).after.keeps = k.keeps := by
  obtain ⟨service, call, faults⟩ := u
  cases call with
  | get => rfl
  | set key value => exact (KeychainStore.confined_set ..).keeps
  | remove key => exact (KeychainStore.confined_remove ..).keeps
  | reopen => rfl

theorem get?_turn_of_other {u : KeychainUse} {a : Account}
    (hother : a.service ≠ u.service ∨ u.call.key? ≠ some a.key) (k : Keychain) :
    (u.turn k).after.secrets.get? a = k.secrets.get? a := by
  obtain ⟨service, call, faults⟩ := u
  cases call with
  | get => rfl
  | set key value => exact (KeychainStore.confined_set ..).get?_of_ne (account_ne_of_other hother)
  | remove key => exact (KeychainStore.confined_remove ..).get?_of_ne (account_ne_of_other hother)
  | reopen => rfl

theorem contained_turn {u : KeychainUse} {k : Keychain} (h : (u.turn k).Truthful) :
    (u.turn k).Contained where
  kept_of_failed hfailed := by
    obtain ⟨service, call, faults⟩ := u
    cases call with
    | get => rfl
    | set key value =>
        obtain ⟨e, he⟩ := StoreReply.exists_error_of_failed hfailed
        exact (KeychainStore.confined_set ..).secrets_of_error he
    | remove key =>
        obtain ⟨e, he⟩ := StoreReply.exists_error_of_failed hfailed
        exact (KeychainStore.confined_remove ..).secrets_of_error he
    | reopen => rfl
  others_kept hother := get?_turn_of_other hother k
  found_none_iff {key} hcall := by
    obtain ⟨service, call, faults⟩ := u
    obtain rfl : call = .get key := hcall
    have hfound := KeychainStore.found_none_iff
      (s := store ⟨service, .get key, faults⟩ k) (h.lookup rfl)
    exact ⟨fun hreply => hfound.mp (StoreReply.found.inj hreply),
      fun hmissing => congrArg StoreReply.found (hfound.mpr hmissing)⟩
  gone_of_removed {key} hcall hok := by
    obtain ⟨service, call, faults⟩ := u
    obtain rfl : call = .remove key := hcall
    exact KeychainStore.get?_remove_self (StoreReply.changed.inj hok) (h.deletion rfl)

end KeychainUse

/-! ## What a service can tell -/

/-- Keychains that are the same to the stores of a service: they hold the same entries of it, and
both keep what is written or neither does. -/
structure Keychain.Shared (service : String) (k l : Keychain) : Prop where
  keeps : k.keeps = l.keeps
  secrets (key : String) : k.secrets.get? ⟨service, key⟩ = l.secrets.get? ⟨service, key⟩

namespace Keychain.Shared

variable {service key : String} {k l : Keychain}

/-- Where one entry is the same afterwards and no other has changed, the service can tell no
difference. -/
theorem of_entry (h : k.Shared service l) {k' l' : Keychain} (key : String)
    (hkeeps : k'.keeps = l'.keeps)
    (hentry : k'.secrets.get? ⟨service, key⟩ = l'.secrets.get? ⟨service, key⟩)
    (hk : ∀ a, a ≠ ⟨service, key⟩ → k'.secrets.get? a = k.secrets.get? a)
    (hl : ∀ a, a ≠ ⟨service, key⟩ → l'.secrets.get? a = l.secrets.get? a) :
    k'.Shared service l' := by
  refine ⟨hkeeps, fun other => ?_⟩
  by_cases hkey : other = key
  · rw [hkey, hentry]
  · have hne : (⟨service, other⟩ : Account) ≠ ⟨service, key⟩ := fun he =>
      hkey (congrArg Account.key he)
    rw [hk _ hne, hl _ hne, h.secrets]

theorem plant (h : k.Shared service l) (key : String) (bytes : ByteArray) :
    (k.plant ⟨service, key⟩ bytes).Shared service (l.plant ⟨service, key⟩ bytes) := by
  refine h.of_entry key (by simpa using h.keeps) ?_ (fun _ hne => get?_plant_of_ne hne ..)
    fun _ hne => get?_plant_of_ne hne ..
  rw [get?_plant_self, get?_plant_self, h.keeps, h.secrets]

theorem without (h : k.Shared service l) (hfaults : k.faults = l.faults) (key : String) :
    (k.without ⟨service, key⟩).Shared service (l.without ⟨service, key⟩) := by
  refine h.of_entry key (by simpa using h.keeps) ?_ (fun _ hne => get?_without_of_ne hne ..)
    fun _ hne => get?_without_of_ne hne ..
  rw [get?_without_self, get?_without_self, hfaults, h.secrets]

/-- Changes of a key that both fail leave both keychains the same to the service. -/
theorem of_error (h : k.Shared service l) {c d : Change KeychainStore} {e : StoreError}
    (hc : (KeychainStore.mk service k).Confined key c) (hcresult : c.result = .error e)
    (hd : (KeychainStore.mk service l).Confined key d) (hdresult : d.result = .error e) :
    c.store.keychain.Shared service d.store.keychain where
  keeps := hc.keeps.trans (h.keeps.trans hd.keeps.symm)
  secrets other := by
    rw [hc.secrets_of_error hcresult, hd.secrets_of_error hdresult]
    exact h.secrets other

theorem set (h : k.Shared service l) (hfaults : k.faults = l.faults) (key value : String) :
    (Store.set key value (KeychainStore.mk service k)).store.keychain.Shared service
      (Store.set key value (KeychainStore.mk service l)).store.keychain := by
  have hresult : (Store.set key value (KeychainStore.mk service k)).result =
      (Store.set key value (KeychainStore.mk service l)).result :=
    KeychainStore.set_result_eq hfaults
  cases hset : (Store.set key value (KeychainStore.mk service l)).result with
  | ok _ =>
      rw [KeychainStore.set_of_ok hset, KeychainStore.set_of_ok (hresult.trans hset)]
      exact h.plant key value.toUTF8
  | error e =>
      exact h.of_error (KeychainStore.confined_set ..) (hresult.trans hset)
        (KeychainStore.confined_set ..) hset

theorem remove (h : k.Shared service l) (hfaults : k.faults = l.faults) (key : String) :
    (Store.remove key (KeychainStore.mk service k)).store.keychain.Shared service
      (Store.remove key (KeychainStore.mk service l)).store.keychain := by
  have hresult : (Store.remove key (KeychainStore.mk service k)).result =
      (Store.remove key (KeychainStore.mk service l)).result :=
    KeychainStore.remove_result_eq hfaults
  cases hremove : (Store.remove key (KeychainStore.mk service l)).result with
  | ok _ =>
      rw [KeychainStore.remove_of_ok hremove, KeychainStore.remove_of_ok (hresult.trans hremove)]
      exact h.without hfaults key
  | error e =>
      exact h.of_error (KeychainStore.confined_remove ..) (hresult.trans hremove)
        (KeychainStore.confined_remove ..) hremove

end Keychain.Shared

namespace KeychainUse

variable {u : KeychainUse} {service : String} {k l : Keychain}

/-- A call of the service gets the same from both keychains, and leaves both the same to it. -/
theorem turn_of_own (h : k.Shared u.service l) :
    (u.turn k).reply = (u.turn l).reply ∧
      (u.turn k).after.Shared u.service (u.turn l).after := by
  obtain ⟨service, call, faults⟩ := u
  have hmet : Keychain.Shared service { k with faults := faults } { l with faults := faults } :=
    ⟨h.keeps, h.secrets⟩
  cases call with
  | get key =>
      have hsame : KeychainStore.Same key (store ⟨service, .get key, faults⟩ k)
          (store ⟨service, .get key, faults⟩ l) :=
        ⟨rfl, rfl, h.keeps, h.secrets key⟩
      exact ⟨congrArg StoreReply.found (SeparateStore.get hsame), hmet⟩
  | set key value =>
      exact ⟨congrArg StoreReply.changed (KeychainStore.set_result_eq rfl), hmet.set rfl key value⟩
  | remove key =>
      exact ⟨congrArg StoreReply.changed (KeychainStore.remove_result_eq rfl), hmet.remove rfl key⟩
  | reopen => exact ⟨rfl, hmet⟩

/-- A call of another service changes nothing that the service can tell. -/
theorem shared_of_other (hother : u.service ≠ service) (h : k.Shared service l) :
    (u.turn k).after.Shared service l where
  keeps := (keeps_turn u k).trans h.keeps
  secrets key := (get?_turn_of_other (.inl hother.symm) k).trans (h.secrets key)

/-- The replies to the calls of a service are those that it gets when there is no other service. -/
theorem replies_of_shared (us : List KeychainUse) (h : k.Shared service l) :
    ((turns us k).filter fun t => t.use.service = service).map (·.reply) =
      (turns (us.filter fun u => u.service = service) l).map (·.reply) := by
  induction us generalizing k l with
  | nil => rfl
  | cons u us ih =>
      rw [turns]
      by_cases hown : u.service = service
      · subst hown
        obtain ⟨hreply, hafter⟩ := turn_of_own h
        rw [List.filter_cons_of_pos (by simp [turn]), List.filter_cons_of_pos (by simp), turns,
          List.map_cons, List.map_cons, hreply, ih hafter]
      · rw [List.filter_cons_of_neg (by simp [turn, hown]),
          List.filter_cons_of_neg (by simp [hown]), ih (shared_of_other hown h)]

theorem exists_turn_of_mem {us : List KeychainUse} {t : KeychainTurn} (h : t ∈ turns us k) :
    ∃ u ∈ us, ∃ l, t = turn u l := by
  induction us generalizing k with
  | nil => cases h
  | cons u us ih =>
      rcases List.mem_cons.mp h with rfl | hlater
      · exact ⟨u, List.mem_cons_self, k, rfl⟩
      · obtain ⟨v, hv, hturn⟩ := ih hlater
        exact ⟨v, List.mem_cons_of_mem _ hv, hturn⟩

/-- Failures of the keychain stay where they are, and services stay apart. Let stores of any services
use a keychain, each time with any faults, as long as it never says that an entry is missing that is
looked up or deleted and is there. Then what goes wrong in a call is contained. And each service gets
the replies that it would get by itself, from any keychain that holds the same entries of it. -/
theorem failures_contained (us : List KeychainUse) (k : Keychain)
    (htruthful : ∀ t ∈ turns us k, t.Truthful) :
    (∀ t ∈ turns us k, t.Contained) ∧
      ∀ (service : String) (l : Keychain), k.Shared service l →
        ((turns us k).filter fun t => t.use.service = service).map (·.reply) =
          (turns (us.filter fun u => u.service = service) l).map (·.reply) := by
  refine ⟨fun t ht => ?_, fun service l h => replies_of_shared us h⟩
  obtain ⟨u, -, before, rfl⟩ := exists_turn_of_mem ht
  exact contained_turn (htruthful _ ht)

/-- Two services with the same keys. One meets trouble of every kind. -/
def troubled : List KeychainUse :=
  let panicking := some KeychainFault.panic
  [⟨"mine", .set "k" "v", .none⟩, ⟨"other", .get "k", .none⟩, ⟨"other", .get "bytes", .none⟩,
    ⟨"other", .remove "k", ⟨some (.error .noEntry), none, none, none⟩⟩,
    ⟨"other", .set "k" "w", ⟨none, none, some (.error (.tooLong "k" 1)), none⟩⟩,
    ⟨"other", .remove "bytes", ⟨none, none, none, panicking⟩⟩,
    ⟨"other", .get "bytes", ⟨none, panicking, none, none⟩⟩, ⟨"mine", .reopen, .none⟩,
    ⟨"mine", .get "k", .none⟩, ⟨"mine", .remove "k", .none⟩, ⟨"mine", .get "k", .none⟩]

/-- A keychain with one entry, which is no text. -/
def undecodable : Keychain :=
  Keychain.empty.plant ⟨"other", "bytes"⟩ ⟨#[0xFF]⟩

/-- The trouble of the one service is contained, and the other gets the replies that it would get
from an empty keychain by itself. -/
theorem failures_contained_of_troubled :
    (∀ t ∈ turns troubled undecodable, t.Contained) ∧
      ((turns troubled undecodable).filter fun t => t.use.service = "mine").map (·.reply) =
        (turns (troubled.filter fun u => u.service = "mine") .empty).map (·.reply) := by
  have hfaults : ∀ u ∈ troubled, u.faults.reading ≠ some (.error .noEntry) ∧
      u.faults.deleting ≠ some (.error .noEntry) := by
    decide
  have htruthful : ∀ t ∈ turns troubled undecodable, t.Truthful := by
    intro t ht
    obtain ⟨u, hu, k, rfl⟩ := exists_turn_of_mem ht
    exact truthful_turn (hfaults u hu).1 (hfaults u hu).2 k
  have hshared : undecodable.Shared "mine" .empty :=
    ⟨rfl, fun key => Keychain.get?_plant_of_ne (by simp) _ _⟩
  obtain ⟨hcontained, hreplies⟩ := failures_contained troubled undecodable htruthful
  exact ⟨hcontained, hreplies "mine" .empty hshared⟩

end KeychainUse

end SessionKeeper
