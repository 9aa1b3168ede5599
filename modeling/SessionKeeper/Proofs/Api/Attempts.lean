import SessionKeeper.Proofs.Manager.Work
import SessionKeeper.Proofs.Store.Separate
import SessionKeeper.Proofs.Store.Turns
import SessionKeeper.Storage

/-!
# Requests that are attempted

The client announces every request before it does anything else for it, so what was attempted can be
read off the log, and what was sent off the exchanges. Signing in and registering attempt one
request each. Whatever else they do has to do with no request.
-/

namespace SessionKeeper

open Program

/-- The URLs of the requests that were announced. -/
def World.attempts {σ : Type} (w : World σ) : List String :=
  w.events.filterMap Event.attempt?

/-! ## What stores report -/

theorem Event.attempt?_eq_none {e : Event} (hget : e.message ≠ Http.Method.get.name)
    (hpost : e.message ≠ Http.Method.post.name) : e.attempt? = none := by
  obtain ⟨level, message, fields⟩ := e
  cases level with
  | debug => exact if_neg (not_or.mpr ⟨hget, hpost⟩)
  | _ => rfl

/-- A step that reports nothing but that the storage file was written. -/
def FileStep.ReportsWriting : FileStep → Prop
  | .report event => event.message = "Storage file written"
  | _ => True

/-- All that was reported is that the storage file was written. -/
def Disk.OnlyWritten (d : Disk) : Prop :=
  ∀ e ∈ d.events, e.message = "Storage file written"

theorem FileStep.ReportsWriting.keeps (step : FileStep) (d : Disk) (hstep : step.ReportsWriting)
    (hd : d.OnlyWritten) : (diskHandler.answer step d).2.OnlyWritten := by
  have happly (changed : Except IoError FileTree) : (d.apply changed).2.OnlyWritten := by
    cases changed <;> exact hd
  cases step with
  | report event => exact List.forall_mem_cons.mpr ⟨hstep, hd⟩
  | truncate => exact happly _
  | append => exact happly _
  | moveFile => exact happly _
  | _ => exact hd

theorem StorageFile.Edit.message_of_mem {s : FileStore} {edit : Edit} {e : Event}
    (he : e ∈ (s.change (edit.program (.opened s.path))).events) :
    e.message = "Storage file written" := by
  have hprogram : (edit.program (.opened s.path)).Within FileStep.ReportsWriting := by
    rw [program_eq, guarded]
    refine .ask trivial fun _ => .bind ?_ fun _ => .ask trivial fun _ => .done _
    refine (edit.within_body _).mono fun step hstep => ?_
    cases step <;> first | exact hstep.elim | exact hstep
  have hstart : (Disk.idle s.tree).OnlyWritten := fun e he => absurd he List.not_mem_nil
  -- a disk has its latest event first, and a change has it last
  exact hprogram.run_of_invariant Disk.OnlyWritten FileStep.ReportsWriting.keeps hstart e
    (List.mem_reverse.mp he)

namespace Storage

variable {s : Storage} {key value : String}

theorem events_setKeychain (s : KeychainStore) (key value : String) :
    (Store.set key value s).events = [] := by
  change (KeychainStore.set key value s).events = []
  rw [KeychainStore.set]
  split
  next => rfl
  next => split <;> rfl

theorem events_removeKeychain (s : KeychainStore) (key : String) :
    (Store.remove key s).events = [] := by
  rw [KeychainStore.remove_eq]
  split <;> rfl

/-- No change of the storage announces a request. -/
theorem attempts_change (s : FileStore) (edit : StorageFile.Edit) :
    (s.change (edit.program (.opened s.path))).events.filterMap Event.attempt? = [] := by
  refine List.filterMap_eq_nil_iff.mpr fun e he => ?_
  refine Event.attempt?_eq_none ?_ ?_ <;> rw [StorageFile.Edit.message_of_mem he] <;> decide

theorem attempts_set (key value : String) (s : Storage) :
    (Store.set key value s).events.filterMap Event.attempt? = [] := by
  change (Storage.set key value s).events.filterMap Event.attempt? = []
  rw [Storage.set]
  split
  next => exact attempts_change _ (.put key value)
  next => simp only [ofKeychain, events_setKeychain, List.filterMap_nil]
  next => rfl

theorem attempts_remove (key : String) (s : Storage) :
    (Store.remove key s).events.filterMap Event.attempt? = [] := by
  change (Storage.remove key s).events.filterMap Event.attempt? = []
  rw [Storage.remove]
  split
  next => exact attempts_change _ (.erase key)
  next => simp only [ofKeychain, events_removeKeychain, List.filterMap_nil]
  next => rfl

theorem get_of_file {path : Path} (hmedium : s.medium = .file path) :
    Store.get key s = Store.get key (FileStore.mk path s.tree) := by
  change Storage.get key s = _
  rw [Storage.get, hmedium]

/-- What was put into a storage file is found there. -/
theorem get_set_of_file {path : Path} (hmedium : s.medium = .file path)
    (hok : (Store.set key value s).result = .ok ()) :
    Store.get key (Store.set key value s).store = .ok (some value) := by
  change (Storage.set key value s).result = .ok () at hok
  change Storage.get key (Storage.set key value s).store = .ok (some value)
  simp only [Storage.set, hmedium, ofFile] at hok ⊢
  exact FaithfulStore.get_set (s := FileStore.mk path s.tree) trivial hok

/-- Which store is in use does not change. -/
theorem medium_answer (step : ClientStep) (w : World Storage) :
    (step.answer w).2.store.medium = w.store.medium := by
  cases step with
  | set key value =>
      change (Storage.set key value w.store).store.medium = _
      rw [Storage.set]
      split <;> rfl
  | remove key =>
      change (Storage.remove key w.store).store.medium = _
      rw [Storage.remove]
      split <;> rfl
  | _ => rfl

theorem medium_run {α : Type} (op : Operation α) (w : World Storage) :
    (op.run w).2.store.medium = w.store.medium := by
  induction op generalizing w with
  | done a => rfl
  | ask step resume ih => exact (ih _ _).trans (medium_answer step w)

end Storage

/-! ## Steps aside from requests -/

/-- The same requests were attempted in both worlds, and the same were sent. -/
structure World.SameTraffic {σ : Type} (v w : World σ) : Prop where
  attempts : w.attempts = v.attempts
  exchanges : w.exchanges = v.exchanges

namespace World.SameTraffic

variable {σ : Type} {u v w : World σ}

theorem refl (w : World σ) : w.SameTraffic w :=
  ⟨rfl, rfl⟩

theorem trans (h : u.SameTraffic v) (h' : v.SameTraffic w) : u.SameTraffic w :=
  ⟨h'.attempts.trans h.attempts, h'.exchanges.trans h.exchanges⟩

theorem of_events (events : List Event) (hevents : events.filterMap Event.attempt? = [])
    (hw : w.events = v.events ++ events) (hexchanges : w.exchanges = v.exchanges) :
    v.SameTraffic w := by
  refine ⟨?_, hexchanges⟩
  rw [World.attempts, hw, List.filterMap_append, hevents, List.append_nil, World.attempts]

end World.SameTraffic

/-- A step that is about no request leaves the traffic as it is. -/
theorem ClientStep.Aside.sameTraffic {step : ClientStep} (h : step.Aside) (w : World Storage) :
    w.SameTraffic (step.answer w).2 := by
  cases step with
  | set key value => exact .of_events _ (Storage.attempts_set key value w.store) rfl rfl
  | remove key => exact .of_events _ (Storage.attempts_remove key w.store) rfl rfl
  | report event =>
      refine .of_events [event] ?_ rfl rfl
      exact List.filterMap_cons_none h
  | readSession => exact .refl w
  | writeSession => exact ⟨rfl, rfl⟩
  | get => exact .refl w
  | _ => exact h.elim

/-- Between two worlds nothing became of the store and the network, and nothing was attempted. -/
structure World.Unaffected {σ : Type} (v w : World σ) : Prop where
  store : w.store = v.store
  network : w.network = v.network
  traffic : v.SameTraffic w

theorem World.Unaffected.trans {σ : Type} {u v w : World σ} (h : u.Unaffected v)
    (h' : v.Unaffected w) : u.Unaffected w :=
  ⟨h'.store.trans h.store, h'.network.trans h.network, h.traffic.trans h'.traffic⟩

/-- A step that only looks at what is stored affects nothing. -/
theorem ClientStep.Looks.unaffected {step : ClientStep} (h : step.Looks) (w : World Storage) :
    w.Unaffected (step.answer w).2 := by
  have htraffic := h.aside.sameTraffic w
  cases step <;> first | exact h.elim | exact ⟨rfl, rfl, htraffic⟩

namespace Program.Within

variable {α : Type} {op : Operation α}

theorem sameTraffic (h : op.Within ClientStep.Aside) (w : World Storage) :
    w.SameTraffic (op.run w).2 :=
  h.run_of_invariant w.SameTraffic (fun _ v hstep hv => hv.trans (hstep.sameTraffic v)) (.refl w)

theorem unaffected (h : op.Within ClientStep.Looks) (w : World Storage) :
    w.Unaffected (op.run w).2 :=
  h.run_of_invariant w.Unaffected (fun _ v hstep hv => hv.trans (hstep.unaffected v))
    ⟨rfl, rfl, .refl w⟩

end Program.Within

/-! ## Posting -/

theorem Operation.run_bind {σ α β : Type} [Store σ] (op : Operation α) (rest : α → Operation β)
    (w : World σ) : (op >>= rest).run w = (rest (op.run w).1).run (op.run w).2 :=
  Program.run_bind _ op rest w

namespace ApiClient

/-- A request with a body was posted to a path between two worlds: one request was attempted, to the
URL of the path. It was sent with this body, unless there is nowhere to send a request for this
URL. -/
structure Posted (c : ApiClient) (path body : String) (v w : World Storage) : Prop where
  attempts : w.attempts = v.attempts ++ [c.urlText path]
  exchanges :
    (∃ target token answer, Url.parse (c.urlText path) = .ok target ∧
      w.exchanges = v.exchanges ++ [⟨c.request .post target token (some body), answer⟩]) ∨
    w.exchanges = v.exchanges ∧ ∀ target token, Url.parse (c.urlText path) = .ok target →
      (c.request .post target token (some body)).url.isSendable = false

variable {c : ApiClient} {path body : String} {u v w : World Storage}

theorem Posted.behind (h : c.Posted path body v w) (hfirst : u.SameTraffic v) :
    c.Posted path body u w where
  attempts := by rw [h.attempts, hfirst.attempts]
  exchanges := by simpa only [hfirst.exchanges] using h.exchanges

theorem Posted.before (h : c.Posted path body u v) (hlast : v.SameTraffic w) :
    c.Posted path body u w where
  attempts := by rw [hlast.attempts, h.attempts]
  exchanges := by simpa only [hlast.exchanges] using h.exchanges

/-- Only the target makes a difference to where a request goes. -/
theorem url_request_congr (c : ApiClient) (method method' : Http.Method) (target : Url.HttpUrl)
    (token token' body body' : Option String) :
    (c.request method target token body).url = (c.request method' target token' body').url := by
  rw [request, request]
  split <;> rfl

/-- A request that is sent is one more exchange, and was announced before. -/
theorem exists_traffic_send (request : Http.Request) (w : World Storage) :
    ∃ answer, ((Operation.send request).run w).2.exchanges = w.exchanges ++ [⟨request, answer⟩] ∧
      ((Operation.send request).run w).2.attempts = w.attempts :=
  ⟨_, rfl, rfl⟩

/-- A call with a body posts it. -/
theorem posted_call {α : Type} (c : ApiClient) (path body : String)
    (parse : String → Except Json.Error α) (w : World Storage) :
    c.Posted path body w ((c.call .post path (some body) parse).run w).2 := by
  rw [call, Operation.run_bind, Operation.run_bind]
  obtain ⟨v, hv, hannounced, hunsent⟩ : ∃ v, v = (Operation.run (Operation.report .debug
      Http.Method.post.name [("url", c.urlText path)]) w).2 ∧
        v.attempts = w.attempts ++ [c.urlText path] ∧ v.exchanges = w.exchanges :=
    ⟨_, rfl, List.filterMap_append, rfl⟩
  rw [← hv]
  -- which token is found, if any, makes no difference to where the request goes
  have hlooked := (looks_authorization.mono fun _ h => h.aside).sameTraffic v
  generalize (authorization.run v).1 = token
  generalize (authorization.run v).2 = u at hlooked ⊢
  have hattempts := hlooked.attempts.trans hannounced
  have hexchanges := hlooked.exchanges.trans hunsent
  split
  next e he =>
    refine ⟨hattempts, .inr ⟨hexchanges, fun target token' htarget => ?_⟩⟩
    rw [he] at htarget
    cases htarget
  next target htarget =>
    dsimp only
    split
    next hsendable =>
      rw [Operation.run_bind, Operation.run_bind]
      obtain ⟨answer, hsent, hsame⟩ :=
        exists_traffic_send (c.request .post target token (some body)) u
      refine Posted.before ⟨hsame.trans hattempts, .inl ⟨target, token, answer, htarget, ?_⟩⟩
        ((aside_handle ..).sameTraffic _)
      exact hsent.trans (by rw [hexchanges])
    next hunsendable =>
      refine ⟨hattempts, .inr ⟨hexchanges, fun target' token' htarget' => ?_⟩⟩
      obtain rfl : target = target' := Except.ok.inj (htarget.symm.trans htarget')
      rw [c.url_request_congr _ .post _ token' token _ (some body)]
      simpa using hunsendable

end ApiClient

namespace Manager

variable {c : ApiClient} {path body : String}

/-- What is done while holding the guard is done in a world that shows so. -/
theorem run_exclusive {σ α : Type} [Store σ] (op : Operation α) (w : World σ) :
    (exclusive op).run w =
      ((op.run { w with held := true, loading := true }).1,
        { (op.run { w with held := true, loading := true }).2 with
          held := false, loading := false }) := by
  rw [exclusive, guarded]
  simp only [Operation.run_bind]
  rfl

/-- Taking the stored session into memory affects nothing else. -/
theorem unaffected_bootstrap (w : World Storage) : w.Unaffected (bootstrap.run w).2 := by
  rw [bootstrap, run_exclusive]
  obtain ⟨hstore, hnetwork, hattempts, hexchanges⟩ :=
    looks_restore.unaffected { w with held := true, loading := true }
  exact ⟨hstore, hnetwork, hattempts, hexchanges⟩

/-- Signing in and registering post what they call the server with. -/
theorem posted_entry {α : Type} {call : Operation (Except ApiError α)}
    {rest : Except ApiError α → Operation (Except Error Session)} {granted : α → Session}
    {message email : String} (hcall : ∀ w, c.Posted path body w (call.run w).2)
    (hok : ∀ response, rest (.ok response) = establish (granted response))
    (herror : ∀ e, rest (.error e) = rejected message email e) (w : World Storage) :
    c.Posted path body w ((exclusive (call >>= rest)).run w).2 := by
  obtain ⟨v, hv⟩ : ∃ v : World Storage, v = { w with held := true, loading := true } := ⟨_, rfl⟩
  have hbusy : w.SameTraffic v := by
    subst hv
    exact ⟨rfl, rfl⟩
  rw [run_exclusive, Operation.run_bind, ← hv]
  have hposted := (hcall v).before ((aside_behind hok herror (call.run v).1).sameTraffic _)
  exact (hposted.behind hbusy).before ⟨rfl, rfl⟩

theorem posted_signIn (c : ApiClient) (credentials : Credentials) (w : World Storage) :
    c.Posted "/login" credentials.toValue.compact w ((signIn c credentials).run w).2 := by
  refine posted_entry (fun v => ?_) (fun _ => rfl) (fun _ => rfl) w
  rw [Auth.login, Operation.run_bind]
  exact (c.posted_call ..).behind (.of_events [_] rfl rfl rfl)

theorem posted_registerUser (c : ApiClient) (credentials : Credentials) (name : Option String)
    (w : World Storage) :
    c.Posted "/register" credentials.toValue.compact w
      ((registerUser c credentials name).run w).2 := by
  refine posted_entry (fun v => ?_) (fun _ => rfl) (fun _ => rfl) w
  rw [Auth.register, Operation.run_bind]
  exact (c.posted_call ..).behind (.of_events [_] rfl rfl rfl)

/-- A session that was established is stored. -/
theorem stored_of_establish {path : Path} {s s' : Session} {w : World Storage}
    (hmedium : w.store.medium = .file path) (h : ((establish s).run w).1 = .ok s') :
    s' = s ∧ Store.get Session.key ((establish s).run w).2.store = .ok (some s.render) := by
  have hset : (Operation.set Session.key s.render).run w =
      w.change (Store.set Session.key s.render w.store) := rfl
  rw [establish, Operation.run_bind, hset, World.change] at h ⊢
  cases hresult : (Store.set Session.key s.render w.store).result with
  | error e =>
      rw [hresult] at h
      cases h
  | ok _ =>
      rw [hresult] at h
      cases h
      exact ⟨rfl, Storage.get_set_of_file hmedium hresult⟩

/-- Whoever is rejected gets an error. -/
theorem rejected_run_fst {α : Type} (message email : String) (e : ApiError) (w : World Storage) :
    ((rejected message email e : Operation (Except Error α)).run w).1 = .error (.api e) := by
  rw [rejected, Operation.run_bind]
  split
  next => rw [Operation.run_bind]; rfl
  next => rfl

/-- A session that was entered is what the server granted, and is stored. -/
theorem stored_of_entry {α : Type} {call : Operation (Except ApiError α)}
    {rest : Except ApiError α → Operation (Except Error Session)} {granted : α → Session}
    {message email : String} (hok : ∀ response, rest (.ok response) = establish (granted response))
    (herror : ∀ e, rest (.error e) = rejected message email e) {path : Path} {w : World Storage}
    (hmedium : w.store.medium = .file path) {s : Session}
    (h : ((exclusive (call >>= rest)).run w).1 = .ok s) :
    (∃ response, s = granted response) ∧
      Store.get Session.key ((exclusive (call >>= rest)).run w).2.store = .ok (some s.render) := by
  rw [run_exclusive, Operation.run_bind] at h ⊢
  have hcalled := Storage.medium_run call { w with held := true, loading := true }
  generalize call.run { w with held := true, loading := true } = answered at h hcalled ⊢
  obtain ⟨answer, v⟩ := answered
  cases answer with
  | error e =>
      rw [herror] at h
      cases (rejected_run_fst message email e v).symm.trans h
  | ok response =>
      rw [hok] at h ⊢
      obtain ⟨rfl, hstored⟩ := stored_of_establish (hcalled.trans hmedium) h
      exact ⟨⟨response, rfl⟩, hstored⟩

end Manager

end SessionKeeper
