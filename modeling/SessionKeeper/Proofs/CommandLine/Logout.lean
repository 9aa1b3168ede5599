import SessionKeeper.Proofs.CommandLine.Forms
import SessionKeeper.Proofs.CommandLine.Ledger
import SessionKeeper.Proofs.Store.Removal

/-!
# Logging out

A logout takes the stored session into memory, where one that is damaged or cannot be read counts as
none, and then removes it from the storage file. So what it tells depends on the stored text alone,
and what it does on the removal: either the file has lost its session and nothing else, and whoever
asks for the status next is told that nobody is signed in, or the logout fails and the file is as it
was.
-/

namespace SessionKeeper

/-- The session that a store has, by what it answers. An error counts as none, and so does a text
that is no session. -/
def Session.ofStored? : Except StoreError (Option String) → Option Session
  | .ok (some text) => (Session.parse text).toOption
  | .ok none => none
  | .error _ => none

/-! ## Removals -/

namespace Storage

variable {s : Storage}

/-- Removing a key where a storage file is in use. -/
theorem remove_of_file {path : Path} (hmedium : s.medium = .file path) (key : String) :
    (Store.remove key s).result = (Store.remove key (FileStore.mk path s.tree)).result ∧
      (Store.remove key s).store.tree =
        (Store.remove key (FileStore.mk path s.tree)).store.tree := by
  change (Storage.remove key s).result = _ ∧ (Storage.remove key s).store.tree = _
  rw [Storage.remove, hmedium]
  exact ⟨rfl, rfl⟩

/-- Other stores than a storage file are not in the file tree. -/
theorem tree_remove_of_other (hmedium : ∀ path, s.medium ≠ .file path) (key : String) :
    (Store.remove key s).store.tree = s.tree := by
  change (Storage.remove key s).store.tree = _
  rw [Storage.remove]
  split
  next path hpath => exact absurd hpath (hmedium path)
  next => rfl
  next => rfl

end Storage

/-! ## Operations -/

namespace Manager

variable {σ : Type} [Store σ]

/-- Whatever a store answers, a new client has the session that it has, in memory and as its own
answer. -/
theorem run_restore_of_new {w : World σ} (hnew : w.session = none) :
    (restore.run w).2.session = Session.ofStored? (Store.get Session.key w.store) ∧
      (restore.run w).1.toOption.join = Session.ofStored? (Store.get Session.key w.store) := by
  have hget : (Operation.get Session.key).run w = (Store.get Session.key w.store, w) := rfl
  rw [restore, Operation.run_bind, hget]
  cases hstored : Store.get Session.key w.store with
  | error e => exact ⟨hnew, rfl⟩
  | ok stored =>
      cases stored with
      | none => exact ⟨hnew, rfl⟩
      | some text =>
          dsimp only [Option.getD_some, Session.ofStored?]
          split
          next => exact ⟨hnew, rfl⟩
          next =>
            cases hparse : Session.parse text with
            | error e => exact ⟨hnew, rfl⟩
            | ok s => exact ⟨rfl, rfl⟩

theorem run_bootstrap_of_new {w : World σ} (hnew : w.session = none) :
    (bootstrap.run w).2.session = Session.ofStored? (Store.get Session.key w.store) ∧
      (bootstrap.run w).1.toOption.join = Session.ofStored? (Store.get Session.key w.store) := by
  rw [bootstrap, run_exclusive]
  exact run_restore_of_new (w := { w with held := true, loading := true }) hnew

/-- Signing out comes to what removing the stored session comes to. -/
theorem run_signOut (w : World σ) :
    (signOut.run w).1 = (Store.remove Session.key w.store).result.mapError Error.storage ∧
      (signOut.run w).2.store = (Store.remove Session.key w.store).store := by
  obtain ⟨v, hv⟩ : ∃ v : World σ, v = { w with held := true, loading := true } := ⟨_, rfl⟩
  have hstore : v.store = w.store := by rw [hv]
  have hremove : (Operation.remove Session.key).run v =
      v.change (Store.remove Session.key v.store) := rfl
  rw [signOut, run_exclusive, ← hv, Operation.run_bind, hremove, World.change, hstore]
  cases hresult : (Store.remove Session.key w.store).result with
  | error e => exact ⟨rfl, rfl⟩
  | ok _ =>
      have hread (u : World σ) : Operation.readSession.run u = (u.session, u) := rfl
      dsimp only
      rw [Operation.run_bind, hread]
      cases v.session with
      | none => exact ⟨rfl, rfl⟩
      | some s => exact ⟨rfl, rfl⟩

end Manager

namespace CommandLine

open SessionKeeper.CommandLine.Action

/-! ## Actions -/

/-- A new process takes the session that is stored into memory, and that affects nothing else. -/
theorem run_restore_of_new {p : Process} (hnew : p.world.session = none) :
    ∃ w, restore.run p =
        (.ok (Session.ofStored? (Store.get Session.key p.world.store)), { p with world := w }) ∧
      w.session = Session.ofStored? (Store.get Session.key p.world.store) ∧
      w.store = p.world.store := by
  obtain ⟨session, w, hrun, hunaffected, rfl, hsession⟩ := run_restore p
  obtain ⟨hmemory, hfound⟩ := Manager.run_bootstrap_of_new hnew
  rw [hfound] at hrun
  exact ⟨w, hrun, hsession.trans hmemory, hunaffected.store⟩

/-- What a logout prints when it has removed the session that a store had, if it had one. -/
def farewell (session : Option Session) : String :=
  if session.isSome then "Signed out\n" else "Not signed in\n"

/-- A logout comes to what removing the stored session comes to, whatever is stored, and its
farewell depends on whether a session was. -/
theorem run_logout {p : Process} (hnew : p.world.session = none) :
    ∃ w : World Storage, w.store = (Store.remove Session.key p.world.store).store ∧
      logout.run p = match (Store.remove Session.key p.world.store).result with
        | .ok () => (.ok (), ⟨p.console.print
            (farewell (Session.ofStored? (Store.get Session.key p.world.store))), w⟩)
        | .error e => (.error (Failure.ofManager (.storage e)), ⟨p.console, w⟩) := by
  obtain ⟨v, hrestore, hsession, hstore⟩ := run_restore_of_new hnew
  obtain ⟨hresult, hremoved⟩ := Manager.run_signOut v
  have hsigned : Manager.isSignedIn.run v = (v.session.isSome, v) := rfl
  rw [hstore] at hresult hremoved
  refine ⟨(Manager.signOut.run v).2, hremoved, ?_⟩
  rw [logout, Action.run_bind, hrestore]
  dsimp only
  rw [Action.run_bind, Action.run_perform, hsigned]
  dsimp only
  rw [Action.run_bind, Action.run_perform]
  dsimp only
  rw [Action.run_bind, Action.run_demand, hresult, hsession]
  cases (Store.remove Session.key p.world.store).result with
  | ok _ => rfl
  | error e => rfl

/-- What a status prints when nothing is stored as a session. -/
def nobody (asJson : Bool) : String :=
  if asJson then "null\n" else "Not signed in\n  stored session: no\n"

theorem run_status_of_absent {p : Process} (hnew : p.world.session = none)
    (habsent : Store.get Session.key p.world.store = .ok none) (asJson : Bool) :
    ∃ w, (status asJson).run p = (.ok (), ⟨p.console.print (nobody asJson), w⟩) := by
  obtain ⟨v, hrestore, -, hstore⟩ := run_restore_of_new hnew
  rw [habsent] at hrestore
  have hnone : Session.ofStored? (.ok none) = none := rfl
  rw [status, Action.run_bind, hrestore, hnone]
  cases asJson with
  | true => exact ⟨v, rfl⟩
  | false =>
      have hasked : Auth.isAuthenticated.run v = (false, v) := by
        have hget : (Operation.get Session.key).run v = (Store.get Session.key v.store, v) := rfl
        rw [Auth.isAuthenticated, Operation.run_bind, hget, hstore, habsent]
        rfl
      refine ⟨v, ?_⟩
      simp only [Bool.false_eq_true, ↓reduceIte]
      rw [say, Action.run_step_bind]
      dsimp only [ProcessStep.answer]
      rw [Action.run_bind, Action.run_perform, hasked]
      dsimp only
      exact congrArg (fun console => (Except.ok (), Process.mk console v))
        (Console.print_print (describeSession none) "  stored session: no\n" p.console)

/-! ## Which file is in use -/

/-- Settings that select a storage file select that of a directory. -/
theorem exists_within_of_medium {settings : Settings} {e : Environment} {path : Path}
    (h : settings.medium e = .file path) : ∃ directory, path = StorageFile.within directory := by
  rw [Settings.medium] at h
  split at h
  next => exact ⟨_, (Medium.file.inj h).symm⟩
  next => cases h
  next => cases h

namespace Machine

variable {m n : Machine} {e : Environment} {i j : Invocation} {c : ApiClient} {path : Path}

/-- What stands in the files of a store has no say in which store is used. -/
theorem Selects.of_sameBeside (h : m.Selects (EnvironmentFile.load e m.tree) i c path)
    (hsame : m.tree.SameBeside StorageFile.names n.tree) (hbackend : j.backend = i.backend) :
    n.Selects (EnvironmentFile.load e n.tree) j c path := by
  obtain ⟨settings, hsettings, hclient, hmedium⟩ := h
  have hvariables : EnvironmentFile.fileName ∉ StorageFile.names := by decide
  have hname : String.ofList "config.json".toList ∉ StorageFile.names := by decide
  rw [hsame.load_environment hvariables]
  obtain ⟨dir, hparts⟩ : ∃ dir,
      (EnvironmentFile.load e m.tree).settingsPath.Parts dir "config.json".toList :=
    Path.exists_parts_join _ ⟨"config.json"⟩ (by decide) (by decide) (by decide)
  have hfound : findSettings n.tree (EnvironmentFile.load e m.tree) i.backend =
      findSettings m.tree (EnvironmentFile.load e m.tree) i.backend := by
    have hload := hsame.load_settings hparts hname
    unfold findSettings
    rw [hload]
  exact ⟨settings, by rw [hbackend, hfound, hsettings], hclient, hmedium⟩

/-- A command that selects no storage file ends at once, or uses another store. -/
theorem prepare_of_not_selects (h : ∀ c path, ¬m.Selects e i c path) (console : Console) :
    (∃ code console', m.prepare e i console = .finished code console') ∨
      ∃ c medium settings, (∀ path, medium ≠ .file path) ∧ m.prepare e i console =
        .running (i.command.action c) (m.boot medium (Settings.opening settings) console) := by
  unfold prepare
  split
  next => exact .inl ⟨_, _, rfl⟩
  next settings hsettings =>
    split
    next => exact .inl ⟨_, _, rfl⟩
    next c hclient =>
      refine .inr ⟨c, _, settings, fun path hmedium => ?_, rfl⟩
      exact h c path ⟨settings, hsettings, hclient, hmedium⟩

end Machine

/-! ## Runs -/

/-- A logout went through: the storage file has its entries but the session, and what was printed
tells whether that text was a session. -/
structure LoggedOut (path : Path) (m : Machine) (console : Console) (done : Completion) :
    Prop where
  entries : ∃ entries, (FileStore.mk path m.tree).contents = .ok entries ∧
    (FileStore.mk path done.machine.tree).contents = .ok (entries.erase Session.key)
  console : done.console = console.print
    (farewell (Session.ofStored? (Store.get Session.key (FileStore.mk path m.tree))))

/-- A logout failed, and says so: the storage file is as it was. -/
structure LogoutFailed (path : Path) (m : Machine) (console : Console) (done : Completion) :
    Prop where
  exitCode : done.exitCode = 1
  console : ∃ e : StoreError,
    done.console = console.complain (Failure.ofManager (.storage e)).render
  file : done.machine.tree.read path = m.tree.read path

/-- Whoever asks for the status with settings that select this storage file is told that nobody is
signed in, and that no session is stored. -/
def Machine.TellsNobody (m : Machine) (path : Path) : Prop :=
  ∀ e arguments console i c asJson, Request.ofArguments arguments = .ok (.invoke i) →
    i.command = .status asJson → m.Selects (EnvironmentFile.load e m.tree) i c path →
    (m.run e arguments console).exitCode = 0 ∧
      (m.run e arguments console).console = console.print (nobody asJson)

namespace Machine

variable {m : Machine} {e : Environment} {arguments : List String} {console : Console}
  {i : Invocation} {c : ApiClient} {path : Path}

theorem tellsNobody_of_absent
    (habsent : Store.get Session.key (FileStore.mk path m.tree) = .ok none) :
    m.TellsNobody path := by
  intro e arguments console i c asJson hrequest hcommand hselects
  obtain ⟨settings, hprepare⟩ := prepare_of_selects hselects console
  have hlaunch := (launch_of_request hrequest).trans hprepare
  have hstored : Store.get Session.key (m.boot (.file path) settings.opening console).world.store =
      .ok none := (Storage.get_of_file rfl).trans habsent
  obtain ⟨w, hrun⟩ := run_status_of_absent rfl hstored asJson
  rw [run_of_running hlaunch, hcommand, Command.action, hrun]
  exact ⟨rfl, Console.complain_nothing _⟩

/-- How a logout ends: with the removal of what is stored as a session, or with its error. -/
theorem run_logout_cases (hrequest : Request.ofArguments arguments = .ok (.invoke i))
    (hcommand : i.command = .logout)
    (hselects : m.Selects (EnvironmentFile.load e m.tree) i c path) (console : Console) :
    (m.run e arguments console).machine.tree =
        (Store.remove Session.key (FileStore.mk path m.tree)).store.tree ∧
      (((Store.remove Session.key (FileStore.mk path m.tree)).result = .ok () ∧
          (m.run e arguments console).exitCode = 0 ∧
          (m.run e arguments console).console = console.print
            (farewell (Session.ofStored? (Store.get Session.key (FileStore.mk path m.tree))))) ∨
        ∃ error, (Store.remove Session.key (FileStore.mk path m.tree)).result = .error error ∧
          (m.run e arguments console).exitCode = 1 ∧
          (m.run e arguments console).console =
            console.complain (Failure.ofManager (.storage error)).render) := by
  obtain ⟨settings, hprepare⟩ := prepare_of_selects hselects console
  have hlaunch := (launch_of_request hrequest).trans hprepare
  obtain ⟨p, hp⟩ : ∃ p, p = m.boot (.file path) settings.opening console := ⟨_, rfl⟩
  have hnew : p.world.session = none := by rw [hp]; rfl
  have hmedium : p.world.store.medium = .file path := by rw [hp]; rfl
  have htree : p.world.store.tree = m.tree := by rw [hp]; rfl
  have hconsole : p.console = console := by rw [hp]; rfl
  obtain ⟨w, hw, hrun⟩ := run_logout hnew
  obtain ⟨hresult, hremoved⟩ := Storage.remove_of_file hmedium Session.key
  rw [htree] at hresult hremoved
  rw [hresult, hconsole, Storage.get_of_file hmedium, htree] at hrun
  rw [run_of_running hlaunch, hcommand, Command.action, ← hp, hrun]
  cases (Store.remove Session.key (FileStore.mk path m.tree)).result with
  | ok _ =>
      refine ⟨?_, .inl ⟨rfl, rfl, Console.complain_nothing _⟩⟩
      rw [← hremoved, ← hw]
      rfl
  | error error =>
      refine ⟨?_, .inr ⟨error, rfl, rfl, rfl⟩⟩
      rw [← hremoved, ← hw]
      rfl

/-- A logout without a storage file leaves the whole file tree as it is. -/
theorem tree_logout_of_not_selects (hrequest : Request.ofArguments arguments = .ok (.invoke i))
    (hcommand : i.command = .logout)
    (hnone : ∀ c path, ¬m.Selects (EnvironmentFile.load e m.tree) i c path) :
    (m.run e arguments console).machine.tree = m.tree := by
  rcases prepare_of_not_selects hnone console with
    ⟨code, console', hprepare⟩ | ⟨c, medium, settings, hother, hprepare⟩
  · rw [run, launch_of_request hrequest, hprepare]
  · have hlaunch := (launch_of_request hrequest).trans hprepare
    obtain ⟨p, hp⟩ : ∃ p, p = m.boot medium settings.opening console := ⟨_, rfl⟩
    have hnew : p.world.session = none := by rw [hp]; rfl
    have hmedium : ∀ path, p.world.store.medium ≠ .file path := by rw [hp]; exact hother
    have htree : p.world.store.tree = m.tree := by rw [hp]; rfl
    obtain ⟨w, hw, hrun⟩ := run_logout hnew
    have hkept : w.store.tree = m.tree := by
      rw [hw, Storage.tree_remove_of_other hmedium, htree]
    rw [run_of_running hlaunch, hcommand, Command.action, ← hp, hrun]
    split
    next => exact hkept
    next => exact hkept

/-- A logout repairs or reports, whatever is in the storage file and around it. If it succeeds then
the file has lost its session and nothing else, what was printed tells whether that was one, the
same settings select the same file, and a status says that nobody is signed in. If it fails then the
failure is printed and the file is as it was. A logout without a storage file changes no file. -/
theorem logout_repairs_or_reports (m : Machine) (e : Environment) (arguments : List String)
    (console : Console) {i : Invocation}
    (hrequest : Request.ofArguments arguments = .ok (.invoke i)) (hcommand : i.command = .logout)
    (htree : m.tree.IsTree) :
    (∀ c path, m.Selects (EnvironmentFile.load e m.tree) i c path →
      ((m.run e arguments console).exitCode = 0 →
        LoggedOut path m console (m.run e arguments console) ∧
        (m.run e arguments console).machine.TellsNobody path ∧
        ∀ j : Invocation, j.backend = i.backend → (m.run e arguments console).machine.Selects
          (EnvironmentFile.load e (m.run e arguments console).machine.tree) j c path) ∧
      ((m.run e arguments console).exitCode ≠ 0 →
        LogoutFailed path m console (m.run e arguments console))) ∧
    ((∀ c path, ¬m.Selects (EnvironmentFile.load e m.tree) i c path) →
      (m.run e arguments console).machine.tree = m.tree) := by
  refine ⟨fun c path hselects => ?_, tree_logout_of_not_selects hrequest hcommand⟩
  obtain ⟨directory, rfl⟩ : ∃ directory, path = StorageFile.within directory := by
    obtain ⟨settings, -, -, hmedium⟩ := hselects
    exact exists_within_of_medium hmedium
  obtain ⟨hremoved, hends⟩ := run_logout_cases hrequest hcommand hselects console
  have hremoval := FileStore.removed_remove
    (s := ⟨StorageFile.within directory, m.tree⟩) Session.key htree
  rw [← hremoved] at hremoval
  rcases hends with ⟨hok, hcode, hprinted⟩ | ⟨error, herror, hcode, hprinted⟩
  · refine ⟨fun _ => ?_, fun hfail => absurd hcode hfail⟩
    obtain ⟨entries, hbefore, hafter⟩ := hremoval.contents hok
    have habsent := FileStore.get_of_contents hafter Session.key
    rw [SortedMap.get?_erase_self] at habsent
    refine ⟨⟨⟨entries, hbefore, hafter⟩, hprinted⟩, tellsNobody_of_absent habsent, ?_⟩
    intro j hbackend
    exact hselects.of_sameBeside (hremoval.sameBeside htree) hbackend
  · refine ⟨fun hsuccess => absurd (hsuccess.symm.trans hcode) (by decide), fun _ => ?_⟩
    refine ⟨hcode, ⟨error, hprinted⟩, hremoval.unchanged ?_⟩
    rw [herror]
    nofun

/-- Two logouts: one where the text that is stored as a session is damaged, which repairs the file,
and one where the file is, which reports that. -/
theorem logout_repairs_or_reports_of_damage :
    let path : Path := ⟨"/storage.json"⟩
    let holding (document : String) : Machine :=
      ⟨FileTree.empty.put ["storage.json"] (.file document.toUTF8), .empty, .peer []⟩
    let e := Environment.set ⟨.empty, ⟨"/"⟩⟩ "ALLEASY_DATA_DIR" "/".toUTF8
    let console := Console.start .empty none
    let torn := "\x7b"
    let damaged := "\x7b\"@AuthData:user\":\"\x7b\",\"a\":\"1\"\x7d"
    Request.ofArguments ["logout"] = .ok (.invoke ⟨none, .logout⟩) ∧
      (∀ document, (holding document).tree.IsTree) ∧
      ((holding damaged).run e ["logout"] console).exitCode = 0 ∧
      LoggedOut path (holding damaged) console ((holding damaged).run e ["logout"] console) ∧
      ((holding damaged).run e ["logout"] console).machine.TellsNobody path ∧
      LogoutFailed path (holding torn) console ((holding torn).run e ["logout"] console) := by
  intro path holding e console torn damaged
  have hrequest : Request.ofArguments ["logout"] = .ok (.invoke ⟨none, .logout⟩) := by
    decide +kernel
  have htree (document : String) : (holding document).tree.IsTree :=
    FileTree.isTree_empty.put (by decide) rfl
  have hends (document : String) :=
    (logout_repairs_or_reports (holding document) e ["logout"] console hrequest rfl
      (htree document)).1 ⟨"https://reqres.in/api", "reqres-free-v1", .proxy⟩ path
  have hdamaged : (holding damaged).Selects (EnvironmentFile.load e (holding damaged).tree)
      ⟨none, .logout⟩ ⟨"https://reqres.in/api", "reqres-free-v1", .proxy⟩ path :=
    ⟨{ Settings.initial with dataDirectory := some ⟨"/"⟩ }, by decide +kernel, by decide +kernel,
      by decide +kernel⟩
  have htorn : (holding torn).Selects (EnvironmentFile.load e (holding torn).tree)
      ⟨none, .logout⟩ ⟨"https://reqres.in/api", "reqres-free-v1", .proxy⟩ path :=
    ⟨{ Settings.initial with dataDirectory := some ⟨"/"⟩ }, by decide +kernel, by decide +kernel,
      by decide +kernel⟩
  have hcode : ((holding damaged).run e ["logout"] console).exitCode = 0 := by
    decide +kernel
  obtain ⟨hdone, hnobody, -⟩ := (hends damaged hdamaged).1 hcode
  refine ⟨hrequest, htree, hcode, hdone, hnobody, ?_⟩
  exact (hends torn htorn).2 (by decide +kernel)

end Machine

end CommandLine

end SessionKeeper
