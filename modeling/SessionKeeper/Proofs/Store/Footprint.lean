import SessionKeeper.Proofs.FileTree.Above
import SessionKeeper.Proofs.Store.Turns

/-!
# What an operation on the storage file leaves alone

Reading touches nothing. A change writes to the sibling of the file and, at its very end, moves the
sibling over the file; before that it may have made missing directories above it. So a change that
fails, at whatever point, leaves the file and every other as they were, and one that succeeds leaves
every other. This is for any tree, also for paths that lead up again or have no file name.
-/

namespace SessionKeeper

open Program

namespace StorageFile

/-- What stands at a location is what stood there before, unless it is a directory that was missing
above the storage file. -/
def Spared (path : Path) (t u : FileTree) (l : Location) : Prop :=
  u.node? l = t.node? l ∨
    t.node? l = none ∧ u.node? l = some .directory ∧ ∃ q : Path, q.Above path ∧ u.resolve q = .ok l

/-- Where a change may leave its traces: at the sibling of the storage file, which is not the file
itself, and if it succeeded at the file. -/
def Footprint (path : Path) (t u : FileTree) : Except StoreError Unit → Prop
  | .ok () => ∀ l, Spared path t u l ∨ u.resolve (sibling path) = .ok l ∨ u.resolve path = .ok l
  | .error _ => ∀ l, Spared path t u l ∨
      u.resolve (sibling path) = .ok l ∧ u.resolve path ≠ .ok l

variable {path : Path} {t u v : FileTree} {l m : Location}

theorem spared_of_sprouted (h : FileTree.Sprouted (·.Above path) t u) (l : Location) :
    Spared path t u l :=
  h.node l

theorem Spared.of_sameDirectories (h : Spared path t u m) (hsame : u.SameDirectories v)
    (hm : v.node? m = u.node? m) : Spared path t v m := by
  rw [Spared, hm]
  exact h.imp_right fun ⟨hnone, hdir, q, hq, hlead⟩ => ⟨hnone, hdir, q, hq, hsame.resolve hlead⟩

/-- A change that has written nothing but the sibling has left its traces only there. -/
theorem footprint_of_apart (hsprouted : FileTree.Sprouted (·.Above path) t u)
    (hl : SiblingAt path u l) (h : FileTree.Apart l u v) (e : StoreError) :
    Footprint path t v (.error e) := by
  intro m
  by_cases hm : m = l
  · subst hm
    refine .inr ⟨h.sameDirectories.resolve hl.resolve, fun hpath => ?_⟩
    exact hl.ne_of_resolve (h.sameDirectories.symm.resolve hpath) rfl
  · exact .inl ((spared_of_sprouted hsprouted m).of_sameDirectories h.sameDirectories (h.node m hm))

/-! ## The steps of saving -/

/-- Moving a file changes what stands at its two places, and no directory. -/
theorem of_moveFile_ok {source target : Path} (hl : t.resolve source = .ok l)
    (h : t.moveFile source target = .ok u) :
    ∃ m, t.resolve target = .ok m ∧ t.SameDirectories u ∧
      ∀ k, k ≠ l → k ≠ m → u.node? k = t.node? k := by
  obtain ⟨-, k, m, content, hk, hnode, hm, hplace, rfl⟩ := FileTree.of_moveFile h
  obtain rfl := Except.ok.inj (hk.symm.trans hl)
  refine ⟨m, hm, ?_, fun n hnk hnm => ?_⟩
  · split
    next => exact .refl t
    next => exact t.sameDirectories_move (by simp [hnode]) hplace content
  · split
    next => rfl
    next => rw [FileTree.node?_put_of_ne _ hnm, FileTree.node?_erase_of_ne _ hnk]

theorem footprint_publish {d : Disk} (hsprouted : FileTree.Sprouted (·.Above path) t u)
    (hl : SiblingAt path u l) (h : FileTree.Apart l u d.tree) (count : Nat) :
    Footprint path t ((publish path count).run diskHandler d).2.tree
      ((publish path count).run diskHandler d).1 := by
  rw [publish, Program.run_ask]
  simp only [diskHandler, FileStep.answer]
  have hsibling := h.sameDirectories.resolve hl.resolve
  cases hmove : d.tree.moveFile (sibling path) path with
  | error e => exact footprint_of_apart hsprouted hl h _
  | ok v =>
      obtain ⟨m, hm, hsame, hothers⟩ := of_moveFile_ok hsibling hmove
      intro k
      by_cases hkl : k = l
      · exact .inr (.inl (hkl ▸ hsame.resolve hsibling))
      · by_cases hkm : k = m
        · exact .inr (.inr (hkm ▸ hsame.resolve hm))
        · refine .inl ((spared_of_sprouted hsprouted k).of_sameDirectories
            (h.sameDirectories.trans hsame) ?_)
          exact (hothers k hkl hkm).trans (h.node k hkl)

theorem footprint_write {d : Disk} (hsprouted : FileTree.Sprouted (·.Above path) t d.tree)
    (htree : d.tree.IsTree) (count : Nat) (pieces : List ByteArray)
    {result : Except StoreError Unit} {e : Disk}
    (h : Program.run diskHandler (.ask (.truncate (sibling path)) <| andThen <|
      writePieces (sibling path) (publish path count) pieces) d = (result, e)) :
    Footprint path t e.tree result := by
  rw [run_ask] at h
  simp only [diskHandler, FileStep.answer] at h
  cases htruncate : d.tree.truncate (sibling path) with
  | error failure =>
      rw [htruncate] at h
      obtain ⟨rfl, rfl⟩ := Prod.mk.inj h
      exact fun m => .inl (spared_of_sprouted hsprouted m)
  | ok u =>
      obtain ⟨l, hl, rfl⟩ := siblingAt_of_truncate htree htruncate
      rw [htruncate] at h
      have hempty := FileTree.apart_put_file hl.file .empty
      obtain ⟨v, hrun, hpieces, -⟩ := run_writePieces (publish path count) pieces
        { d with tree := d.tree.put l (.file .empty) } (hempty.sameDirectories.resolve hl.resolve)
        (d.tree.node?_put_self (FileTree.ne_root_of_node? hl.file) _)
      have hpublish := footprint_publish (d := { d with tree := v }) hsprouted hl
        (hempty.trans hpieces) count
      rw [← hrun] at hpublish
      obtain ⟨rfl, rfl⟩ := Prod.mk.inj h
      exact hpublish

theorem footprint_save {f : StorageFile} {entries : Entries} {d e : Disk} (htree : d.tree.IsTree)
    {result : Except StoreError Unit} (h : (f.save entries).run diskHandler d = (result, e)) :
    Footprint f.path d.tree e.tree result := by
  rw [save, saveIn, makeRoom] at h
  split at h
  next => exact footprint_write (.refl _ d.tree) htree _ _ h
  next directory hparent =>
    have hsprouted := d.tree.sprouted_ensureDirectories hparent
    have hmade := htree.ensureDirectories directory
    rw [run_ask] at h
    simp only [diskHandler, FileStep.answer] at h
    rcases hensure : d.tree.ensureDirectories directory with ⟨answer, u⟩
    rw [hensure] at h hsprouted hmade
    cases answer with
    | error failure =>
        obtain ⟨rfl, rfl⟩ := Prod.mk.inj h
        exact fun m => .inl (spared_of_sprouted hsprouted m)
    | ok _ => exact footprint_write (d := { d with tree := u }) hsprouted hmade _ _ h

/-! ## Whole operations -/

theorem footprint_refl (path : Path) (t : FileTree) (result : Except StoreError Unit) :
    Footprint path t t result := by
  cases result with
  | ok => exact fun _ => .inl (.inl rfl)
  | error => exact fun _ => .inl (.inl rfl)

/-- A change that loads the entries and then saves others leaves no other traces. -/
theorem Edit.footprint_body (edit : Edit) {f : StorageFile} {d e : Disk} (htree : d.tree.IsTree)
    {result : Except StoreError Unit} (h : (edit.body f).run diskHandler d = (result, e)) :
    Footprint f.path d.tree e.tree result := by
  cases edit with
  | put key value =>
      rw [body, StorageFile.put, run_load] at h
      split at h
      next => exact footprint_save htree h
      next =>
        obtain ⟨rfl, rfl⟩ := Prod.mk.inj h
        exact footprint_refl ..
  | erase key =>
      rw [body, StorageFile.erase, run_load] at h
      split at h
      next =>
        split at h
        next => exact footprint_save htree h
        next =>
          obtain ⟨rfl, rfl⟩ := Prod.mk.inj h
          exact footprint_refl ..
      next =>
        obtain ⟨rfl, rfl⟩ := Prod.mk.inj h
        exact footprint_refl ..

/-- A body that touches nothing leaves nothing behind when it has given back the guard. -/
theorem run_guarded_of_run {α : Type} {f : StorageFile} {body : Program fileSteps α} {t : FileTree}
    {a : α} (h : body.run diskHandler ⟨t, [f.guard], []⟩ = (a, ⟨t, [f.guard], []⟩)) :
    (f.guarded body).run diskHandler (.idle t) = (a, .idle t) := by
  rw [run_guarded, h]
  simp [Disk.idle]

theorem run_get (f : StorageFile) (key : String) (t : FileTree) :
    ((f.get key).run diskHandler (.idle t)).2 = .idle t := by
  have hbody : (f.lookUp key).run diskHandler ⟨t, [f.guard], []⟩ =
      (((f.lookUp key).run diskHandler ⟨t, [f.guard], []⟩).1, ⟨t, [f.guard], []⟩) := by
    rw [lookUp, run_load]
    dsimp only
    split <;> rfl
  rw [get, run_guarded_of_run hbody]

theorem run_remove_of_absent {f : StorageFile} {key : String} {t : FileTree}
    (h : Store.get key (FileStore.mk f.path t) = .ok none) :
    (f.remove key).run diskHandler (.idle t) = (.ok (), .idle t) := by
  rw [FileStore.get_eq] at h
  cases hcontents : (FileStore.mk f.path t).contents with
  | error e =>
      rw [hcontents] at h
      cases h
  | ok entries =>
      rw [hcontents] at h
      have habsent : entries.contains key = false := by
        have hnone : entries.get? key = none := Except.ok.inj h
        simp [SortedMap.contains, hnone]
      change ofContent (t.readText f.path) = .ok entries at hcontents
      refine run_guarded_of_run ?_
      rw [StorageFile.erase, run_load, hcontents]
      simp only [habsent, Bool.false_eq_true, ↓reduceIte, run_done]

/-- A change that succeeded is what the next reader finds. -/
theorem Edit.contents_of_run (edit : Edit) {f : StorageFile} {t : FileTree} {d : Disk}
    (hcut : ∀ document, (f.cut document).foldl (fun bytes piece => bytes ++ piece) .empty =
      document)
    (h : (edit.program f).run diskHandler (.idle t) = (.ok (), d)) :
    ∃ entries, (FileStore.mk f.path t).contents = .ok entries ∧
      (FileStore.mk f.path d.tree).contents = .ok (edit.apply entries) := by
  rw [program_eq, run_guarded] at h
  obtain ⟨hok, rfl⟩ := Prod.mk.inj h
  cases hcontents : (FileStore.mk f.path t).contents with
  | error e =>
      change ofContent (t.readText f.path) = .error e at hcontents
      cases edit with
      | put key value =>
          rw [body, StorageFile.put, run_load, hcontents] at hok
          cases hok
      | erase key =>
          rw [body, StorageFile.erase, run_load, hcontents] at hok
          cases hok
  | ok entries =>
      refine ⟨entries, rfl, ?_⟩
      rcases edit.run_body (d := ⟨t, [f.guard], []⟩) hcontents hcut with ⟨e, he⟩ | ⟨-, hchanged⟩
      · rw [hok] at he
        cases he
      · exact hchanged

/-- What the operations on the storage file leave alone, in any tree and at any path. Reading
touches nothing, nor does removing a key that is not there. A change that fails leaves everything
as it was but the sibling of the file, and directories above the file that were missing. One that
succeeds leaves everything but the sibling, such directories and the file, and the next reader finds
the entries from before with this one change. -/
theorem operations_leave (f : StorageFile) {t : FileTree} (htree : t.IsTree)
    (hcut : ∀ document, (f.cut document).foldl (fun bytes piece => bytes ++ piece) .empty =
      document) :
    (∀ key, ((f.get key).run diskHandler (.idle t)).2 = .idle t) ∧
    (∀ key, Store.get key (FileStore.mk f.path t) = .ok none →
      (f.remove key).run diskHandler (.idle t) = (.ok (), .idle t)) ∧
    ∀ (edit : Edit) result d, (edit.program f).run diskHandler (.idle t) = (result, d) →
      Footprint f.path t d.tree result ∧
      (result = .ok () → ∃ entries,
        (∀ key, Store.get key (FileStore.mk f.path t) = .ok (entries.get? key)) ∧
        ∀ key, Store.get key (FileStore.mk f.path d.tree) =
          .ok ((edit.apply entries).get? key)) := by
  refine ⟨fun key => run_get f key t, fun key => run_remove_of_absent, fun edit result d h => ?_⟩
  constructor
  · rw [Edit.program_eq, run_guarded] at h
    obtain ⟨rfl, rfl⟩ := Prod.mk.inj h
    have hbody := edit.footprint_body (f := f) (d := ⟨t, [f.guard], []⟩) htree (Prod.eta _).symm
    exact hbody
  · rintro rfl
    obtain ⟨entries, hbefore, hafter⟩ := edit.contents_of_run hcut h
    exact ⟨entries, FileStore.get_of_contents hbefore, FileStore.get_of_contents hafter⟩

/-- A new storage file is written piece by piece, in a directory that was missing. The other file
of the tree stays, and the next reader finds the new text. -/
theorem operations_leave_of_missing_directory :
    ∃ d, ((Edit.put "a" "1").program halved).run diskHandler (.idle (lone "notes" .empty)) =
        (.ok (), d) ∧
      d.tree.node? ["notes"] = (lone "notes" .empty).node? ["notes"] ∧
      Store.get "a" (FileStore.mk halved.path d.tree) = .ok (some "1") := by
  obtain ⟨d, hd⟩ : ∃ d, (((Edit.put "a" "1").program halved).run diskHandler
      (.idle (lone "notes" .empty))).2 = d := ⟨_, rfl⟩
  have hok : (((Edit.put "a" "1").program halved).run diskHandler
      (.idle (lone "notes" .empty))).1 = .ok () := by
    decide +kernel
  have hrun : ((Edit.put "a" "1").program halved).run diskHandler (.idle (lone "notes" .empty)) =
      (.ok (), d) := Prod.ext hok hd
  have hcut : ∀ document, (halved.cut document).foldl (fun bytes piece => bytes ++ piece) .empty =
      document := by
    simp [halved]
  obtain ⟨hfootprint, hchanged⟩ := (operations_leave halved (isTree_lone "notes" .empty) hcut).2.2
    _ _ _ hrun
  refine ⟨d, hrun, ?_, ?_⟩
  · have hthere : (lone "notes" .empty).node? ["notes"] ≠ none := by decide +kernel
    have hsibling : d.tree.resolve (sibling halved.path) ≠ .ok ["notes"] := by
      rw [← hd]
      decide +kernel
    have hplace : d.tree.resolve halved.path ≠ .ok ["notes"] := by
      rw [← hd]
      decide +kernel
    rcases hfootprint ["notes"] with (hsame | ⟨hnone, -⟩) | hl | hl
    · exact hsame
    · exact absurd hnone hthere
    · exact absurd hl hsibling
    · exact absurd hl hplace
  · obtain ⟨entries, -, hafter⟩ := hchanged rfl
    rw [hafter, Edit.apply, SortedMap.get?_insert_self]

end StorageFile

end SessionKeeper
