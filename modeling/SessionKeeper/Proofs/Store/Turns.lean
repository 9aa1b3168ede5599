import SessionKeeper.Proofs.Program.Apart
import SessionKeeper.Proofs.Store.Crash

/-!
# Changes of the storage file at the same time

A change reads the whole document and writes it back, so two of them that overlap would undo each
other. Those made through one open store take turns by its guard: whatever the order of their
accesses to the file tree, the file ends up with all of them, made one after another. Stores that
were opened apart have guards of their own, which keeps nothing of this.
-/

namespace SessionKeeper

open Program

/-! ## Which steps a change takes -/

/-- A step that is about no guard. -/
def FileStep.IsAccess : FileStep → Prop
  | .acquire _ => False
  | .release _ => False
  | _ => True

/-- A step that is about one guard, if it is about any. -/
def FileStep.UsesOnly (guard : Nat) : FileStep → Prop
  | .acquire g => g = guard
  | .release g => g = guard
  | _ => True

theorem FileStep.IsAccess.usesOnly {step : FileStep} (h : step.IsAccess) (guard : Nat) :
    step.UsesOnly guard := by
  cases step with
  | acquire => exact h.elim
  | release => exact h.elim
  | _ => trivial

/-- A step of a change while it has the guard. It reports nothing but that the file was written. -/
def FileStep.OfChange : FileStep → Prop
  | .acquire _ => False
  | .release _ => False
  | .report event => event.message = "Storage file written"
  | _ => True

theorem FileStep.OfChange.isAccess {step : FileStep} (h : step.OfChange) : step.IsAccess := by
  cases step <;> first | exact h.elim | trivial

namespace StorageFile

theorem within_andThen {rest : Program fileSteps (Except StoreError Unit)}
    (h : rest.Within FileStep.OfChange) (answer : Except IoError Unit) :
    (andThen rest answer).Within FileStep.OfChange := by
  cases answer with
  | ok => exact h
  | error => exact .done _

theorem within_writePieces (path : Path) {rest : Program fileSteps (Except StoreError Unit)}
    (h : rest.Within FileStep.OfChange) (pieces : List ByteArray) :
    (writePieces path rest pieces).Within FileStep.OfChange := by
  induction pieces with
  | nil => exact h
  | cons piece pieces ih => exact .ask trivial (within_andThen ih)

theorem within_save (f : StorageFile) (entries : Entries) :
    (f.save entries).Within FileStep.OfChange := by
  have hpublish : (publish f.path entries.size).Within FileStep.OfChange :=
    .ask trivial (within_andThen (.ask rfl fun _ => .done _))
  have hwrite : Within (I := fileSteps) FileStep.OfChange
      (.ask (.truncate (sibling f.path)) <| andThen <|
        writePieces (sibling f.path) (publish f.path entries.size)
          (f.cut entries.render.toUTF8)) :=
    .ask trivial (within_andThen (within_writePieces _ hpublish _))
  rw [save, saveIn, makeRoom]
  split
  next => exact hwrite
  next => exact .ask trivial (within_andThen hwrite)

/-- The change made to the storage file by a task that has the guard. -/
def Edit.body (f : StorageFile) : Edit → Program fileSteps (Except StoreError Unit)
  | .put key value => f.put key value
  | .erase key => f.erase key

theorem Edit.program_eq (f : StorageFile) (edit : Edit) :
    edit.program f = f.guarded (edit.body f) := by
  cases edit <;> rfl

theorem Edit.within_body (f : StorageFile) (edit : Edit) :
    (edit.body f).Within FileStep.OfChange := by
  cases edit with
  | put key value =>
      refine .ask trivial fun answer => ?_
      rw [bind_done]
      split
      next => exact within_save ..
      next => exact .done _
  | erase key =>
      refine .ask trivial fun answer => ?_
      rw [bind_done]
      split
      next =>
        split
        next => exact within_save ..
        next => exact .done _
      next => exact .done _

/-! ## What a change does -/

/-- A change succeeds and is found in the file afterwards, or an access to the file tree fails. -/
theorem Edit.run_body (edit : Edit) {f : StorageFile} {d : Disk} {entries : Entries}
    (hcontents : (FileStore.mk f.path d.tree).contents = .ok entries)
    (hcut : ∀ document, (f.cut document).foldl (fun bytes piece => bytes ++ piece) .empty =
      document) :
    (∃ e, ((edit.body f).run diskHandler d).1 = .error (.io e)) ∨
      ((edit.body f).run diskHandler d).1 = .ok () ∧
        (FileStore.mk f.path ((edit.body f).run diskHandler d).2.tree).contents =
          .ok (edit.apply entries) := by
  have hsave (changed : Entries) :
      (∃ e, ((f.save changed).run diskHandler d).1 = .error (.io e)) ∨
        ((f.save changed).run diskHandler d).1 = .ok () ∧
          (FileStore.mk f.path ((f.save changed).run diskHandler d).2.tree).contents =
            .ok changed := by
    rcases doneOrIo_save f changed d with hok | hio
    · refine .inr ⟨hok, ?_⟩
      rw [FileStore.contents, readText_of_run_save hcut hok]
      exact decode_render changed
    · exact .inl hio
  change ofContent (d.tree.readText f.path) = _ at hcontents
  cases edit with
  | put key value =>
      rw [body, StorageFile.put, run_load, hcontents]
      exact hsave _
  | erase key =>
      rw [body, StorageFile.erase, run_load, hcontents]
      dsimp only
      split
      next => exact hsave _
      next habsent =>
        have hnone : entries.get? key = none := by
          simpa [SortedMap.contains] using habsent
        refine .inr ⟨rfl, ?_⟩
        rw [apply, SortedMap.erase_of_get?_eq_none hnone]
        exact hcontents

end StorageFile

/-! ## One guard for all -/

/-- The disk as it is used through one open store: the guard is free or not, and to give it back is
to have it free. -/
def soloHandler : Handler fileSteps Disk where
  answer
    | .release _, d => ((), { d with held := [] })
    | step, d => step.answer d
  isBlocked
    | .acquire _, d => !d.held.isEmpty
    | _, _ => false

/-- What was taken is the guard of a single store, at most once. -/
def Disk.Solo (guard : Nat) (d : Disk) : Prop :=
  d.held = [] ∨ d.held = [guard]

theorem FileStep.held_answer {step : FileStep} (h : step.IsAccess) (d : Disk) :
    (step.answer d).2.held = d.held := by
  have happly (r : Except IoError FileTree) : (d.apply r).2.held = d.held := by
    cases r <;> rfl
  cases step with
  | acquire => exact h.elim
  | release => exact h.elim
  | readText => rfl
  | ensureDirectories => rfl
  | truncate => exact happly _
  | append => exact happly _
  | moveFile => exact happly _
  | report => rfl

theorem soloHandler_answer {step : FileStep} (h : step.IsAccess) (d : Disk) :
    soloHandler.answer step d = step.answer d := by
  cases step with
  | release => exact h.elim
  | _ => rfl

theorem Disk.Solo.answer {guard : Nat} {d : Disk} (hd : d.Solo guard) {step : FileStep}
    (h : step.IsAccess) : (step.answer d).2.Solo guard := by
  rw [Solo, FileStep.held_answer h]
  exact hd

/-- Steps about one guard only cannot tell that there are others. -/
theorem agrees_solo (guard : Nat) :
    diskHandler.Agrees soloHandler (FileStep.UsesOnly guard) (Disk.Solo guard) where
  blocked step d hstep hd := by
    cases step with
    | acquire g =>
        obtain rfl : g = guard := hstep
        change d.held.contains g = !d.held.isEmpty
        rcases hd with hd | hd <;> simp [hd]
    | _ => rfl
  answer step d hstep hd := by
    cases step with
    | release g =>
        obtain rfl : g = guard := hstep
        change ((), { d with held := d.held.erase g }) = ((), { d with held := [] })
        rcases hd with hd | hd <;> simp [hd]
    | _ => rfl
  keeps step d hstep hd hopen := by
    change Disk.Solo guard (step.answer d).2
    cases step with
    | acquire g =>
        obtain rfl : g = guard := hstep
        change d.held.contains g = false at hopen
        rcases hd with hd | hd
        · exact .inr (congrArg (g :: ·) hd)
        · simp [hd] at hopen
    | release g =>
        obtain rfl : g = guard := hstep
        change Disk.Solo g { d with held := d.held.erase g }
        rcases hd with hd | hd <;> exact .inl (by simp [hd])
    | _ => exact hd.answer trivial

/-- The guard of a single open store. -/
def soloGuard : Guard soloHandler where
  takes
    | .acquire _ => true
    | _ => false
  gives
    | .release _ => true
    | _ => false
  isHeld d := !d.held.isEmpty
  isBlocked_eq step d := by
    cases step <;> rfl
  isHeld_answer step d := by
    by_cases haccess : step.IsAccess
    · rw [soloHandler_answer haccess, FileStep.held_answer haccess]
      cases step with
      | acquire => exact haccess.elim
      | release => exact haccess.elim
      | _ => rfl
    · cases step with
      | acquire => rfl
      | release => rfl
      | _ => exact absurd trivial haccess

namespace StorageFile

theorem quiet_of_within {α : Type} {p : Program fileSteps α} (hp : p.Within FileStep.IsAccess) :
    soloGuard.Quiet p := by
  induction hp with
  | done a => exact .done a
  | @ask step resume hstep _ ih =>
      refine .ask ?_ ?_ ih
      · cases step with
        | acquire => exact hstep.elim
        | _ => rfl
      · cases step with
        | release => exact hstep.elim
        | _ => rfl

/-- A change has the guard from its first step to its last. -/
theorem Edit.outside_program (f : StorageFile) (edit : Edit) :
    soloGuard.Outside (edit.program f) := by
  rw [program_eq, guarded]
  have hbody := quiet_of_within ((edit.within_body f).mono fun _ h => h.isAccess)
  refine .ask rfl fun _ => hbody.inside fun result => ?_
  exact .last rfl rfl fun _ => ⟨result, rfl⟩

theorem Edit.usesOnly_program (f : StorageFile) (edit : Edit) :
    (edit.program f).Within (FileStep.UsesOnly f.guard) := by
  rw [program_eq, guarded]
  refine .ask rfl fun _ => .bind ?_ fun _ => .ask rfl fun _ => .done _
  exact (edit.within_body f).mono fun _ hstep => hstep.isAccess.usesOnly f.guard

/-- Behind its guard a change does what it does to the file. -/
theorem Edit.run_program (f : StorageFile) (edit : Edit) (d : Disk) :
    ∃ e : Disk, e.tree = d.tree ∧
      ((edit.program f).run soloHandler d).1 = ((edit.body f).run diskHandler e).1 ∧
      ((edit.program f).run soloHandler d).2.tree = ((edit.body f).run diskHandler e).2.tree := by
  have hbody (e : Disk) : (edit.body f).run soloHandler e = (edit.body f).run diskHandler e :=
    (edit.within_body f).run_eq (fun _ d hstep => soloHandler_answer hstep.isAccess d) e
  refine ⟨{ d with held := f.guard :: d.held }, rfl, ?_⟩
  rw [program_eq, guarded, run_ask, run_bind, ← hbody]
  exact ⟨rfl, rfl⟩

/-- Changes made one after another succeed and are found in the file in their order, if no access to
the file tree fails. -/
theorem Edit.runAll_programs {f : StorageFile}
    (hcut : ∀ document, (f.cut document).foldl (fun bytes piece => bytes ++ piece) .empty =
      document) (edits : List Edit) {d : Disk} {entries : Entries}
    (hcontents : (FileStore.mk f.path d.tree).contents = .ok entries)
    (hio : ∀ e, .error (.io e) ∉ (Program.runAll soloHandler (edits.map (program f)) d).1) :
    (∀ result ∈ (Program.runAll soloHandler (edits.map (program f)) d).1, result = .ok ()) ∧
      (FileStore.mk f.path
          (Program.runAll soloHandler (edits.map (program f)) d).2.tree).contents =
        .ok (edits.foldl (fun entries edit => edit.apply entries) entries) := by
  induction edits generalizing d entries with
  | nil => exact ⟨nofun, hcontents⟩
  | cons edit edits ih =>
      obtain ⟨e, htree, hresult, hlast⟩ := edit.run_program f d
      simp only [List.map_cons, runAll, List.mem_cons, not_or, forall_eq_or_imp] at hio ⊢
      rcases edit.run_body (d := e) (htree ▸ hcontents) hcut with ⟨error, herror⟩ | ⟨hok, hnext⟩
      · exact absurd (hresult.trans herror).symm (hio error).1
      · rw [← hlast] at hnext
        obtain ⟨hrest, hcontents'⟩ := ih hnext fun error => (hio error).2
        exact ⟨⟨hresult.trans hok, hrest⟩, hcontents'⟩

/-- No change is lost. Changes go on at the same time through one open store, and none of them ends
with an access to the file tree that failed. Whatever the order of their accesses, if all of them
have finished then all of them have succeeded, and the file holds what it held before with all of
them made one after another, in some order. -/
theorem Edit.take_turns {f : StorageFile}
    (hcut : ∀ document, (f.cut document).foldl (fun bytes piece => bytes ++ piece) .empty =
      document) (edits : List Edit) {tree : FileTree} {entries : Entries}
    (hcontents : (FileStore.mk f.path tree).contents = .ok entries) (schedule : List Nat)
    {results : List (Except StoreError Unit)} {p : Pool fileSteps Disk (Except StoreError Unit)}
    (hp : (Pool.start (edits.map (program f)) (.idle tree)).run diskHandler schedule = p)
    (hresults : Pool.results? p.tasks = some results) (hio : ∀ e, .error (.io e) ∉ results) :
    (∀ result ∈ results, result = .ok ()) ∧
      ∃ order : List Nat, order.Perm (List.range edits.length) ∧
        (FileStore.mk f.path p.world.tree).contents =
          .ok ((order.filterMap (edits[·]?)).foldl (fun entries edit => edit.apply entries)
            entries) := by
  have houtside : ∀ op ∈ edits.map (program f), soloGuard.Outside op := by
    intro op hop
    obtain ⟨edit, -, rfl⟩ := List.mem_map.mp hop
    exact edit.outside_program f
  have hsolo : ∀ op ∈ edits.map (program f), op.Within (FileStep.UsesOnly f.guard) := by
    intro op hop
    obtain ⟨edit, -, rfl⟩ := List.mem_map.mp hop
    exact edit.usesOnly_program f
  rw [(agrees_solo f.guard).pool_run_eq hsolo (.inl rfl)] at hp
  subst hp
  have hfree : soloGuard.isHeld (.idle tree) = false := rfl
  obtain ⟨order, hperm, -, hruns⟩ := soloGuard.serializable houtside hfree schedule hresults
  rw [List.length_map] at hperm
  have hprograms : order.filterMap ((edits.map (program f))[·]?) =
      (order.filterMap (edits[·]?)).map (program f) := by
    rw [List.map_filterMap]
    simp only [List.getElem?_map]
  rw [hprograms] at hruns
  have hordered : ∀ e, .error (.io e) ∉ order.filterMap (results[·]?) := by
    intro e he
    obtain ⟨i, -, hi⟩ := List.mem_filterMap.mp he
    exact hio e (List.mem_of_getElem? hi)
  obtain ⟨hok, hlast⟩ := runAll_programs (d := .idle tree) hcut (order.filterMap (edits[·]?))
    hcontents (by rw [hruns]; exact hordered)
  rw [hruns] at hok hlast
  refine ⟨fun result hresult => ?_, order, hperm, hlast⟩
  have hlength : results.length = edits.length := by
    have htasks := congrArg List.length (Guard.tasks_of_results hresults)
    rwa [List.length_map, Pool.length_run, Pool.start, List.length_map, List.length_map,
      eq_comm] at htasks
  obtain ⟨i, hi⟩ := List.mem_iff_getElem?.mp hresult
  have hrange : i ∈ List.range edits.length :=
    List.mem_range.mpr (hlength ▸ (List.getElem?_eq_some_iff.mp hi).1)
  exact hok result (List.mem_filterMap.mpr ⟨i, hperm.mem_iff.mpr hrange, hi⟩)

namespace Sample

/-- Changes of two keys. -/
def edits : List Edit :=
  [.put "a" "1", .put "b" "2"]

/-- The two changes of a file that is written in two pieces, its directory missing, move by move in
turn. -/
def race : Pool fileSteps Disk (Except StoreError Unit) :=
  (Pool.start (edits.map (Edit.program halved)) (.idle .empty)).run diskHandler
    (List.replicate 24 [0, 1]).flatten

/-- A store on a path. -/
def first : StorageFile :=
  opened ⟨"storage.json"⟩

/-- A store on the same path that was opened apart. -/
def second : StorageFile :=
  { first with guard := 1 }

/-- The two changes, each through one of the stores. The second is made while the first has read the
file and not yet written it. -/
def overlap : Pool fileSteps Disk (Except StoreError Unit) :=
  (Pool.start [(Edit.put "a" "1").program first, (Edit.put "b" "2").program second]
    (.idle .empty)).run diskHandler
    (List.replicate 3 0 ++ List.replicate 12 1 ++ List.replicate 12 0)

end Sample

/-- Both changes succeed, and the file holds both. -/
theorem Edit.take_turns_of_race :
    ∃ order : List Nat, order.Perm (List.range 2) ∧
      (FileStore.mk halved.path Sample.race.world.tree).contents =
        .ok ((order.filterMap (Sample.edits[·]?)).foldl
          (fun entries edit => edit.apply entries) .empty) := by
  have hcut (document : ByteArray) :
      (halved.cut document).foldl (fun bytes piece => bytes ++ piece) .empty = document := by
    simp [halved]
  have hcontents : (FileStore.mk halved.path .empty).contents = .ok .empty := by decide +kernel
  have hresults : Pool.results? Sample.race.tasks = some [.ok (), .ok ()] := by decide +kernel
  have hturns := take_turns (p := Sample.race) hcut Sample.edits hcontents
    (List.replicate 24 [0, 1]).flatten rfl hresults (by simp)
  exact hturns.2

/-- Through stores that were opened apart both changes succeed, and one of them is lost: what the
file holds in the end is the result of both in no order. -/
theorem Edit.lost_of_overlap :
    (FileStore.mk Sample.first.path .empty).contents = .ok .empty ∧
      Pool.results? Sample.overlap.tasks = some [.ok (), .ok ()] ∧
      ∀ order : List Edit, order.Perm Sample.edits →
        (FileStore.mk Sample.first.path Sample.overlap.world.tree).contents ≠
          .ok (order.foldl (fun entries edit => edit.apply entries) .empty) := by
  refine ⟨by decide +kernel, by decide +kernel, fun order horder => ?_⟩
  have hlast : (FileStore.mk Sample.first.path Sample.overlap.world.tree).contents =
      .ok (.ofList [("a", "1")]) := by
    decide +kernel
  rw [hlast]
  -- a list of both is one of two
  obtain ⟨x, y, rfl⟩ := List.length_eq_two.mp horder.length_eq
  rcases List.mem_pair.mp (horder.mem_iff.mp List.mem_cons_self) with rfl | rfl
  · obtain rfl : y = .put "b" "2" := by simpa [Sample.edits] using horder
    decide +kernel
  · obtain rfl : y = .put "a" "1" := by
      simpa [Sample.edits] using horder.trans (.swap ..)
    decide +kernel

end StorageFile

end SessionKeeper
