import SessionKeeper.Proofs.FileTree.Walk
import SessionKeeper.Proofs.Store.Document
import SessionKeeper.Store.File

/-!
# Reading and replacing the storage file

A place is ready for a storage file if its directory is there and neither the file nor its sibling
is a directory. Saving never fails in such a place, leaves it ready, and what it saved is what the
next reader finds.
-/

namespace SessionKeeper

namespace StorageFile

/-- The file can be written where it is: its directory is there, and neither the file nor its
sibling is a directory or has to be one. -/
structure Ready (path : Path) (t : FileTree) : Prop where
  room : ∀ directory, path.parent? = some directory →
    directory.text = "" ∨ t.isDirectory directory = true
  siblingPlace : ∃ l, t.resolve (sibling path) = .ok l ∧ t.node? l ≠ some .directory
  siblingName : (sibling path).wantsDirectory = false
  place : ∃ l, t.resolve path = .ok l ∧ t.node? l ≠ some .directory
  name : path.wantsDirectory = false

theorem Ready.of_sameDirectories {path : Path} {t u : FileTree} (h : Ready path t)
    (hsame : t.SameDirectories u) : Ready path u where
  room := fun directory hparent => (h.room directory hparent).imp_right hsame.isDirectory
  siblingPlace := by
    obtain ⟨l, hl, hnode⟩ := h.siblingPlace
    exact ⟨l, hsame.resolve hl, fun he => hnode ((hsame.directory l).mp he)⟩
  siblingName := h.siblingName
  place := by
    obtain ⟨l, hl, hnode⟩ := h.place
    exact ⟨l, hsame.resolve hl, fun he => hnode ((hsame.directory l).mp he)⟩
  name := h.name

/-! ## The steps of saving -/

theorem run_makeRoom {path : Path} {d : Disk}
    (h : ∀ directory, path.parent? = some directory →
      directory.text = "" ∨ d.tree.isDirectory directory = true)
    (rest : Program fileSteps (Except StoreError Unit)) :
    (makeRoom path rest).run diskHandler d = rest.run diskHandler d := by
  unfold makeRoom
  split
  next => rfl
  next directory hparent =>
    have hroom := FileTree.ensureDirectories_of_isDirectory (h directory hparent)
    simp only [Program.run_ask, diskHandler, FileStep.answer, hroom, andThen]

/-- The pieces of a document end up behind what the file held before, and nothing else changes. -/
theorem run_writePieces {path : Path} {l : Location}
    (rest : Program fileSteps (Except StoreError Unit)) (pieces : List ByteArray) (d : Disk)
    {content : ByteArray} (hl : d.tree.resolve path = .ok l)
    (hnode : d.tree.node? l = some (.file content)) :
    ∃ u, (writePieces path rest pieces).run diskHandler d =
        rest.run diskHandler { d with tree := u } ∧
      FileTree.Apart l d.tree u ∧
      u.node? l = some (.file (pieces.foldl (fun bytes piece => bytes ++ piece) content)) := by
  have hfile : d.tree.node? l ≠ some .directory := by simp [hnode]
  induction pieces generalizing d content with
  | nil => exact ⟨d.tree, rfl, .refl hfile, hnode⟩
  | cons piece pieces ih =>
      have happend : d.tree.append path piece =
          .ok (d.tree.put l (.file (content ++ piece))) := by
        simp [FileTree.append, hl, hnode]
      have hapart := FileTree.apart_put_file hfile (content ++ piece)
      have hnext : (d.tree.put l (.file (content ++ piece))).node? l =
          some (.file (content ++ piece)) :=
        d.tree.node?_put_self (FileTree.ne_root_of_node? hfile) _
      obtain ⟨u, hrun, hapart', hu⟩ :=
        ih { d with tree := d.tree.put l (.file (content ++ piece)) }
          (hapart.sameDirectories.resolve hl) hnext hapart.right
      refine ⟨u, ?_, hapart.trans hapart', hu⟩
      rw [writePieces, Program.run_ask]
      simp only [diskHandler, FileStep.answer, happend, Disk.apply, andThen]
      exact hrun

theorem run_publish {path : Path} {d : Disk} {l : Location} {content : ByteArray} (count : Nat)
    (h : Ready path d.tree) (hl : d.tree.resolve (sibling path) = .ok l)
    (hnode : d.tree.node? l = some (.file content)) :
    ∃ e, (publish path count).run diskHandler d = (.ok (), e) ∧
      d.tree.SameDirectories e.tree ∧
      ∃ m, e.tree.resolve path = .ok m ∧ e.tree.node? m = some (.file content) := by
  obtain ⟨m, hm, hplace⟩ := h.place
  have hfile : d.tree.node? l ≠ some .directory := by simp [hnode]
  obtain ⟨u, hmove, hsame, hu⟩ : ∃ u, d.tree.moveFile (sibling path) path = .ok u ∧
      d.tree.SameDirectories u ∧ u.node? m = some (.file content) := by
    -- a sibling that is the file itself is moved nowhere
    by_cases heq : l = m
    · subst heq
      exact ⟨d.tree, by simp [FileTree.moveFile, hl, hnode, hm, h.name], .refl _, hnode⟩
    · exact ⟨_, by simp [FileTree.moveFile, hl, hnode, hm, h.name, hplace, heq],
        d.tree.sameDirectories_move hfile hplace content,
        FileTree.node?_put_self _ (FileTree.ne_root_of_node? hplace) _⟩
  let event : Event :=
    ⟨.debug, "Storage file written", [("path", path.text), ("keys", toString count)]⟩
  refine ⟨⟨u, d.held, event :: d.events⟩, ?_, hsame, m, hsame.resolve hm, hu⟩
  simp only [publish, Program.run_ask, diskHandler, FileStep.answer, hmove, Disk.apply, andThen,
    Program.run_done, event]

/-- Saving in a place that is ready succeeds, and the file then holds the document. -/
theorem run_save {f : StorageFile} {d : Disk} (entries : Entries) (h : Ready f.path d.tree)
    (hcut : (f.cut entries.render.toUTF8).foldl (fun bytes piece => bytes ++ piece) .empty =
      entries.render.toUTF8) :
    ∃ e, (f.save entries).run diskHandler d = (.ok (), e) ∧
      Ready f.path e.tree ∧ e.tree.readText f.path = .ok entries.render := by
  obtain ⟨l, hl, hnode⟩ := h.siblingPlace
  have htruncate := FileTree.truncate_of_resolve hl hnode h.siblingName
  have hsame := d.tree.sameDirectories_put_file hnode .empty
  have hempty := d.tree.node?_put_self (FileTree.ne_root_of_node? hnode) (.file .empty)
  -- the sibling is there and empty now, and the pieces go into it
  obtain ⟨u, hpieces, hapart, hu⟩ := run_writePieces
    (publish f.path entries.size) (f.cut entries.render.toUTF8)
    { d with tree := d.tree.put l (.file .empty) } (hsame.resolve hl) hempty
  have hsame' := hapart.sameDirectories
  have hready := h.of_sameDirectories (hsame.trans hsame')
  obtain ⟨e, hpublish, hsame'', m, hm, hfile⟩ := run_publish entries.size
    (d := { d with tree := u }) hready (hsame'.resolve (hsame.resolve hl)) hu
  refine ⟨e, ?_, hready.of_sameDirectories hsame'', ?_⟩
  · rw [save, saveIn, run_makeRoom h.room, Program.run_ask]
    simp only [diskHandler, FileStep.answer, htruncate, Disk.apply, andThen]
    exact hpieces.trans hpublish
  · rw [hcut] at hfile
    exact FileTree.readText_of_node hm hfile h.name

/-! ## Places that can be made ready -/

/-- The directories that are missing can be made, and the place is ready then. -/
def Writable (path : Path) (t : FileTree) : Prop :=
  ∃ u, Ready path u ∧ ∀ rest held events,
    (makeRoom path rest).run diskHandler ⟨t, held, events⟩ =
      Program.run diskHandler rest ⟨u, held, events⟩

theorem Ready.writable {path : Path} {t : FileTree} (h : Ready path t) : Writable path t :=
  ⟨t, h, fun rest _ _ => run_makeRoom h.room rest⟩

theorem run_save_of_writable {f : StorageFile} {t : FileTree} (entries : Entries)
    (h : Writable f.path t)
    (hcut : (f.cut entries.render.toUTF8).foldl (fun bytes piece => bytes ++ piece) .empty =
      entries.render.toUTF8) (held : List Nat) (events : List Event) :
    ∃ e, (f.save entries).run diskHandler ⟨t, held, events⟩ = (.ok (), e) ∧
      Ready f.path e.tree ∧ e.tree.readText f.path = .ok entries.render := by
  obtain ⟨u, hready, hroom⟩ := h
  have hsave : (f.save entries).run diskHandler ⟨t, held, events⟩ =
      (f.save entries).run diskHandler ⟨u, held, events⟩ := by
    rw [save, saveIn, hroom, run_makeRoom hready.room]
  rw [hsave]
  exact run_save entries hready hcut

/-- Where a document was written once, the place was ready after its directories were made. -/
theorem ready_of_run_saveIn {path : Path} {u : FileTree} {held : List Nat} {events : List Event}
    (count : Nat) (pieces : List ByteArray)
    (hroom : ∀ directory, path.parent? = some directory →
      directory.text = "" ∨ u.isDirectory directory = true)
    (h : (Program.run diskHandler (.ask (.truncate (sibling path)) <| andThen <|
      writePieces (sibling path) (publish path count) pieces) ⟨u, held, events⟩).1 = .ok ()) :
    Ready path u := by
  rw [Program.run_ask] at h
  simp only [diskHandler, FileStep.answer] at h
  cases htruncate : u.truncate (sibling path) with
  | error e => simp [htruncate, Disk.apply, andThen] at h
  | ok v =>
      obtain ⟨hsibling, l, hl, hnode, rfl⟩ := FileTree.of_truncate htruncate
      have hsame := u.sameDirectories_put_file hnode .empty
      have hempty := u.node?_put_self (FileTree.ne_root_of_node? hnode) (.file .empty)
      obtain ⟨w, hpieces, hapart, -⟩ := run_writePieces (publish path count) pieces
        ⟨u.put l (.file .empty), held, events⟩ (hsame.resolve hl) hempty
      simp only [htruncate, Disk.apply, andThen] at h
      have hpublish := congrArg Prod.fst hpieces
      rw [diskHandler] at hpublish
      rw [hpublish, publish, Program.run_ask] at h
      simp only [FileStep.answer] at h
      cases hmove : w.moveFile (sibling path) path with
      | error e => simp [hmove, Disk.apply, andThen] at h
      | ok x =>
          obtain ⟨hname, -, m, -, -, -, hm, hplace, -⟩ := FileTree.of_moveFile hmove
          -- writing changed no directory, so what the move tells holds before the writing too
          have hback := (hsame.trans hapart.sameDirectories).symm
          exact ⟨hroom, ⟨l, hl, hnode⟩, hsibling,
            ⟨m, hback.resolve hm, fun he => hplace ((hback.directory m).mp he)⟩, hname⟩

/-- A place where a document can be saved at all is one where any can be. -/
theorem writable_of_run_save {f : StorageFile} {t : FileTree} {entries : Entries}
    {held : List Nat} {events : List Event}
    (h : ((f.save entries).run diskHandler ⟨t, held, events⟩).1 = .ok ()) : Writable f.path t := by
  rw [save, saveIn, makeRoom] at h
  cases hparent : f.path.parent? with
  | none =>
      rw [hparent] at h
      have hready := ready_of_run_saveIn entries.size (f.cut entries.render.toUTF8)
        (by simp [hparent]) h
      refine ⟨t, hready, fun rest held events => ?_⟩
      simp only [makeRoom, hparent]
  | some directory =>
      rcases hmake : t.ensureDirectories directory with ⟨result, u⟩
      rw [hparent] at h
      simp only [Program.run_ask, diskHandler, FileStep.answer, hmake] at h
      cases result with
      | error e => simp [andThen] at h
      | ok _ =>
          have hroom : ∀ d, f.path.parent? = some d → d.text = "" ∨ u.isDirectory d = true := by
            intro d hd
            rw [hparent, Option.some.injEq] at hd
            subst hd
            exact FileTree.isDirectory_of_ensureDirectories hmake
          have hready := ready_of_run_saveIn entries.size (f.cut entries.render.toUTF8) hroom h
          refine ⟨u, hready, fun rest held events => ?_⟩
          simp only [makeRoom, hparent, Program.run_ask, diskHandler, FileStep.answer, hmake,
            andThen]

/-- Entries that were saved are in the file as their document. -/
theorem readText_of_run_save {f : StorageFile} {entries : Entries} {d : Disk}
    (hcut : ∀ document, (f.cut document).foldl (fun bytes piece => bytes ++ piece) .empty =
      document)
    (h : ((f.save entries).run diskHandler d).1 = .ok ()) :
    ((f.save entries).run diskHandler d).2.tree.readText f.path = .ok entries.render := by
  obtain ⟨e, hrun, -, htext⟩ :=
    run_save_of_writable entries (writable_of_run_save h) (hcut _) d.held d.events
  rw [hrun]
  exact htext

/-! ## How saving fails -/

/-- The result of a change that went through, or in which an access to the tree failed. -/
def DoneOrIo (result : Except StoreError Unit) : Prop :=
  result = .ok () ∨ ∃ e, result = .error (.io e)

theorem doneOrIo_andThen {rest : Program fileSteps (Except StoreError Unit)} {d : Disk}
    (h : DoneOrIo (rest.run diskHandler d).1) (answer : Except IoError Unit) :
    DoneOrIo ((andThen rest answer).run diskHandler d).1 := by
  cases answer with
  | ok _ => exact h
  | error e => exact .inr ⟨e, rfl⟩

theorem doneOrIo_writePieces {path : Path} {rest : Program fileSteps (Except StoreError Unit)}
    (h : ∀ d, DoneOrIo (rest.run diskHandler d).1) (pieces : List ByteArray) (d : Disk) :
    DoneOrIo ((writePieces path rest pieces).run diskHandler d).1 := by
  induction pieces generalizing d with
  | nil => exact h d
  | cons piece pieces ih => exact doneOrIo_andThen (ih _) _

/-- Saving goes through unless an access to the tree fails. -/
theorem doneOrIo_save (f : StorageFile) (entries : Entries) (d : Disk) :
    DoneOrIo ((f.save entries).run diskHandler d).1 := by
  have hpublish (d : Disk) : DoneOrIo ((publish f.path entries.size).run diskHandler d).1 := by
    rw [publish, Program.run_ask]
    exact doneOrIo_andThen (.inl rfl) _
  have hwrite (d : Disk) : DoneOrIo ((writePieces (sibling f.path) (publish f.path entries.size)
      (f.cut entries.render.toUTF8)).run diskHandler d).1 :=
    doneOrIo_writePieces hpublish _ d
  rw [save, saveIn, makeRoom]
  split
  next =>
    rw [Program.run_ask]
    exact doneOrIo_andThen (hwrite _) _
  next =>
    rw [Program.run_ask]
    refine doneOrIo_andThen ?_ _
    rw [Program.run_ask]
    exact doneOrIo_andThen (hwrite _) _

/-! ## Whole documents -/

/-- A document that was written holds the entries it was made from. -/
theorem decode_render (entries : Entries) : decode entries.render = .ok entries := by
  simp [decode, Entries.not_allBlank_render, Entries.parse_render]

theorem run_load {path : Path} {α : Type} (d : Disk)
    (rest : Except StoreError Entries → Program fileSteps α) :
    ((load path).bind rest).run diskHandler d =
      (rest (ofContent (d.tree.readText path))).run diskHandler d := rfl

theorem run_guarded {α : Type} (f : StorageFile) (body : Program fileSteps α) (t : FileTree) :
    (f.guarded body).run diskHandler (.idle t) =
      ((body.run diskHandler ⟨t, [f.guard], []⟩).1,
        { (body.run diskHandler ⟨t, [f.guard], []⟩).2 with
          held := (body.run diskHandler ⟨t, [f.guard], []⟩).2.held.erase f.guard }) := by
  rw [guarded, Program.run_ask]
  exact Program.run_bind diskHandler body _ _

end StorageFile

namespace FileStore

open StorageFile

/-- What the store finds in its file. -/
def contents (s : FileStore) : Except StoreError Entries :=
  ofContent (s.tree.readText s.path)

/-- Reading gives the text that the file has under the key. -/
theorem get_of_contents {s : FileStore} {entries : Entries} (h : s.contents = .ok entries)
    (key : String) : Store.get key s = .ok (entries.get? key) := by
  change (((opened s.path).guarded ((load s.path).bind _)).run diskHandler _).1 = _
  rw [run_guarded, run_load]
  change ofContent (s.tree.readText s.path) = _ at h
  rw [h]
  rfl

theorem get_eq (s : FileStore) (key : String) :
    Store.get key s = s.contents.map fun entries => entries.get? key := by
  cases h : s.contents with
  | ok entries => exact get_of_contents h key
  | error e =>
      change (((opened s.path).guarded ((load s.path).bind _)).run diskHandler _).1 = _
      rw [run_guarded, run_load]
      change ofContent (s.tree.readText s.path) = _ at h
      rw [h]
      rfl

/-- Running a change is running its steps behind the loading of the file. -/
theorem change_guarded (s : FileStore)
    (rest : Except StoreError Entries → Program fileSteps (Except StoreError Unit)) :
    s.change ((opened s.path).guarded ((load s.path).bind rest)) =
      ⟨((rest s.contents).run diskHandler ⟨s.tree, [0], []⟩).1,
        ⟨s.path, ((rest s.contents).run diskHandler ⟨s.tree, [0], []⟩).2.tree⟩,
        ((rest s.contents).run diskHandler ⟨s.tree, [0], []⟩).2.events.reverse⟩ := by
  rw [change, run_guarded, run_load]
  rfl

/-- A change that ends in saving leaves the new entries in the file. -/
theorem change_of_save {s : FileStore} {entries : Entries}
    {rest : Except StoreError Entries → Program fileSteps (Except StoreError Unit)}
    (hrest : rest s.contents = (opened s.path).save entries) (hplace : Writable s.path s.tree) :
    ∃ t events, s.change ((opened s.path).guarded ((load s.path).bind rest)) =
        ⟨.ok (), ⟨s.path, t⟩, events⟩ ∧
      Writable s.path t ∧ contents ⟨s.path, t⟩ = .ok entries := by
  obtain ⟨e, hsave, hready, htext⟩ := run_save_of_writable (f := opened s.path) entries hplace
    (by simp [opened]) [0] []
  refine ⟨e.tree, e.events.reverse, ?_, hready.writable, ?_⟩
  · rw [change_guarded, hrest, hsave]
  · change e.tree.readText s.path = .ok entries.render at htext
    rw [contents, htext]
    exact decode_render entries

/-- Where a key was set without an access to the tree failing, documents can be saved. -/
theorem writable_of_set {s : FileStore} {entries : Entries} (h : s.contents = .ok entries)
    {key value : String} (hio : ∀ e, (Store.set key value s).result ≠ .error (.io e)) :
    Writable s.path s.tree := by
  have hresult : (Store.set key value s).result =
      (((opened s.path).save (entries.insert key value)).run diskHandler
        ⟨s.tree, [0], []⟩).1 := by
    change (s.change ((opened s.path).guarded ((load s.path).bind _))).result = _
    rw [change_guarded, h]
  rcases doneOrIo_save (opened s.path) (entries.insert key value) ⟨s.tree, [0], []⟩ with
    hok | ⟨e, he⟩
  · exact writable_of_run_save hok
  · exact absurd (hresult.trans he) (hio e)

/-- A change that passes on the error of loading succeeds only where the file can be read. -/
theorem exists_contents_of_change {s : FileStore}
    {rest : Except StoreError Entries → Program fileSteps (Except StoreError Unit)}
    (hrest : ∀ e, rest (.error e) = .done (.error e))
    (h : (s.change ((opened s.path).guarded ((load s.path).bind rest))).result = .ok ()) :
    ∃ entries, s.contents = .ok entries := by
  cases hcontents : s.contents with
  | ok entries => exact ⟨entries, rfl⟩
  | error e =>
      rw [change_guarded, hcontents, hrest] at h
      cases h

theorem exists_contents_of_set {s : FileStore} {key value : String}
    (h : (Store.set key value s).result = .ok ()) : ∃ entries, s.contents = .ok entries :=
  exists_contents_of_change (fun _ => rfl) h

theorem exists_contents_of_remove {s : FileStore} {key : String}
    (h : (Store.remove key s).result = .ok ()) : ∃ entries, s.contents = .ok entries :=
  exists_contents_of_change (fun _ => rfl) h

/-- Setting a key puts the text over an earlier one. -/
theorem set_of_contents {s : FileStore} {entries : Entries} (h : s.contents = .ok entries)
    (hplace : Writable s.path s.tree) (key value : String) :
    ∃ t events, Store.set key value s = ⟨.ok (), ⟨s.path, t⟩, events⟩ ∧
      Writable s.path t ∧ contents ⟨s.path, t⟩ = .ok (entries.insert key value) :=
  change_of_save (by rw [h]) hplace

/-- Removing a key leaves the other entries. -/
theorem remove_of_contains {s : FileStore} {entries : Entries} (h : s.contents = .ok entries)
    (hplace : Writable s.path s.tree) {key : String} (hkey : entries.contains key = true) :
    ∃ t events, Store.remove key s = ⟨.ok (), ⟨s.path, t⟩, events⟩ ∧
      Writable s.path t ∧ contents ⟨s.path, t⟩ = .ok (entries.erase key) :=
  change_of_save (by simp only [h, hkey, ↓reduceIte]) hplace

/-- Where a key was removed without an access to the tree failing, documents can be saved. -/
theorem writable_of_remove {s : FileStore} {entries : Entries} (h : s.contents = .ok entries)
    {key : String} (hkey : entries.contains key = true)
    (hio : ∀ e, (Store.remove key s).result ≠ .error (.io e)) : Writable s.path s.tree := by
  have hresult : (Store.remove key s).result =
      (((opened s.path).save (entries.erase key)).run diskHandler ⟨s.tree, [0], []⟩).1 := by
    change (s.change ((opened s.path).guarded ((load s.path).bind _))).result = _
    rw [change_guarded, h]
    simp only [hkey, ↓reduceIte]
  rcases doneOrIo_save (opened s.path) (entries.erase key) ⟨s.tree, [0], []⟩ with hok | ⟨e, he⟩
  · exact writable_of_run_save hok
  · exact absurd (hresult.trans he) (hio e)

/-- Removing a key that is not there touches nothing. -/
theorem remove_of_not_contains {s : FileStore} {entries : Entries} (h : s.contents = .ok entries)
    {key : String} (hkey : entries.contains key = false) :
    Store.remove key s = ⟨.ok (), s, []⟩ := by
  change s.change ((opened s.path).guarded ((load s.path).bind _)) = _
  rw [change_guarded, h]
  simp only [hkey, Bool.false_eq_true, ↓reduceIte]
  rfl

end FileStore

end SessionKeeper
