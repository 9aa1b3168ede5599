import SessionKeeper.Proofs.FileTree.Directories
import SessionKeeper.Proofs.Program.Runs
import SessionKeeper.Proofs.Store.Backends

/-!
# Changes of the storage file that are cut off

A change goes through several states of the file tree. In each of them a reader finds the entries
that were there before, or those that are to be there afterwards, because all writing goes to the
sibling of the file, and the sibling is another file in the same directory. What is left of the
sibling when a change is cut off makes no difference to later calls, because the next change empties
it first.
-/

namespace SessionKeeper

open SessionKeeper.Path Program

namespace StorageFile

/-! ## The sibling -/

/-- A location beside the storage file at which its sibling is or can be written. -/
structure SiblingAt (path : Path) (t : FileTree) (l : Location) : Prop where
  tree : t.IsTree
  resolve : t.resolve (sibling path) = .ok l
  file : t.node? l ≠ some .directory

/-- The storage file and its sibling have different names in one directory. -/
theorem SiblingAt.exists_parts {path : Path} {t : FileTree} {l : Location}
    (h : SiblingAt path t l) :
    ∃ dir name d other, path.Parts dir name ∧ (sibling path).Parts dir other ∧
      (sibling path).wantsDirectory = false ∧ String.ofList name ≠ String.ofList other ∧
      t.walk (t.origin path) (componentsOf dir) = .ok d ∧ l = d ++ [String.ofList other] := by
  have hnamed : (sibling path).fileName? ≠ none := fun hnone =>
    h.file (h.tree.node?_of_nameless hnone h.resolve)
  cases hname : path.fileName? with
  | none =>
      refine absurd ?_ hnamed
      rw [sibling, withExtension, hname]
      exact hname
  | some name =>
      obtain ⟨dir, hparts⟩ := Path.exists_parts hname
      obtain ⟨hother, hwants⟩ := (hparts.withExtension siblingExtension (by decide)
        (by decide)).resolve_right hnamed
      obtain ⟨d, hdir, -, -, hl⟩ := FileTree.resolve_of_parts hother h.resolve
      refine ⟨dir, _, d, _, hparts, hother, hwants, ?_, ?_, hl⟩
      · intro heq
        exact stem_append_ne name.toList "json".toList "tmp".toList
          (String.ofList_injective heq).symm
      · rwa [FileTree.origin, hparts.isAbsolute_eq, ← hother.isAbsolute_eq]

variable {path : Path} {t u : FileTree} {l : Location}

theorem SiblingAt.wantsDirectory_eq (h : SiblingAt path t l) :
    (sibling path).wantsDirectory = false := by
  obtain ⟨dir, name, d, other, -, -, hwants, -⟩ := h.exists_parts
  exact hwants

theorem SiblingAt.ne_of_resolve (h : SiblingAt path t l) {m : Location}
    (hm : t.resolve path = .ok m) : m ≠ l := by
  obtain ⟨dir, name, d, other, hparts, -, -, hne, hdir, rfl⟩ := h.exists_parts
  obtain ⟨d', hdir', -, -, rfl⟩ := FileTree.resolve_of_parts hparts hm
  rw [hdir] at hdir'
  obtain rfl := Except.ok.inj hdir'
  simpa using hne

/-- What stands at the sibling makes no difference to a reader of the file. -/
theorem SiblingAt.readText_eq (h : SiblingAt path t l) (hu : FileTree.Apart l t u) :
    u.readText path = t.readText path := by
  obtain ⟨dir, name, d, other, hparts, -, -, hne, hdir, rfl⟩ := h.exists_parts
  exact hu.readText_eq hparts hne hdir

/-- Where the sibling can be written, the directory of the file is there. -/
theorem SiblingAt.room (h : SiblingAt path t l) {directory : Path}
    (hparent : path.parent? = some directory) :
    directory.text = "" ∨ t.isDirectory directory = true := by
  obtain ⟨dir, name, d, other, hparts, hother, -⟩ := h.exists_parts
  refine FileTree.isDirectory_of_parts hother h.resolve ?_
  rw [hparts.parent?_eq] at hparent
  exact (Option.some.inj hparent).symm

theorem SiblingAt.put_file (h : SiblingAt path t l) (content : ByteArray) :
    SiblingAt path (t.put l (.file content)) l where
  tree := h.tree.put h.file (h.tree.dropLast_of_resolve h.resolve h.file)
  resolve := (t.sameDirectories_put_file h.file content).resolve h.resolve
  file := by simp [t.node?_put_self (FileTree.ne_root_of_node? h.file)]

/-- A file that was emptied is the sibling at its location. -/
theorem siblingAt_of_truncate (ht : t.IsTree) (h : t.truncate (sibling path) = .ok u) :
    ∃ l, SiblingAt path t l ∧ u = t.put l (.file .empty) := by
  obtain ⟨-, l, hl, hfile, hu⟩ := FileTree.of_truncate h
  exact ⟨l, ⟨ht, hl, hfile⟩, hu⟩

/-! ## What readers find -/

/-- A reader of the file finds these entries. -/
structure Shows (path : Path) (entries : Entries) (t : FileTree) : Prop where
  tree : t.IsTree
  contents : ofContent (t.readText path) = .ok entries

theorem Shows.put_file {entries : Entries} (h : Shows path entries t) (hl : SiblingAt path t l)
    (content : ByteArray) : Shows path entries (t.put l (.file content)) where
  tree := (hl.put_file content).tree
  contents := by rw [hl.readText_eq (FileTree.apart_put_file hl.file content), h.contents]

/-- A document that was moved over the file is what readers find. -/
theorem shows_of_moveFile {entries : Entries} (hl : SiblingAt path t l)
    (hnode : t.node? l = some (.file entries.render.toUTF8))
    (h : t.moveFile (sibling path) path = .ok u) : Shows path entries u := by
  obtain ⟨hwants, k, m, content, hk, hcontent, hm, hplace, rfl⟩ := FileTree.of_moveFile h
  obtain rfl := Except.ok.inj (hk.symm.trans hl.resolve)
  obtain rfl := Node.file.inj (Option.some.inj (hcontent.symm.trans hnode))
  rw [if_neg (hl.ne_of_resolve hm).symm]
  have herase := t.sameDirectories_erase hl.file
  have hplace' : FileTree.node? { t with nodes := t.nodes.erase k } m ≠ some .directory :=
    fun he => hplace ((herase.directory m).mp he)
  have htree := hl.tree.erase hl.file
  have hsame := t.sameDirectories_move hl.file hplace entries.render.toUTF8
  refine ⟨htree.put hplace' (htree.dropLast_of_resolve (herase.resolve hm) hplace'), ?_⟩
  rw [FileTree.readText_of_node (hsame.resolve hm)
    (FileTree.node?_put_self _ (FileTree.ne_root_of_node? hplace) _) hwants]
  exact decode_render entries

/-! ## What readers find on the way -/

/-- A reader finds the entries from before a change, or those from after it. -/
def ShowsEither (path : Path) (before after : Entries) (d : Disk) : Prop :=
  Shows path before d.tree ∨ Shows path after d.tree

variable {before after : Entries} {d : Disk}

theorem throughout_andThen {P : Disk → Prop} {rest : Program fileSteps (Except StoreError Unit)}
    {answer : Except IoError Unit} (hd : P d)
    (hrest : answer = .ok () → Throughout diskHandler P rest d) :
    Throughout diskHandler P (andThen rest answer) d := by
  cases answer with
  | ok _ => exact hrest rfl
  | error e => exact .done _ hd

theorem throughout_publish (hl : SiblingAt path d.tree l)
    (hnode : d.tree.node? l = some (.file after.render.toUTF8)) (hd : Shows path before d.tree)
    (count : Nat) :
    Throughout diskHandler (ShowsEither path before after) (publish path count) d := by
  refine .ask (.inl hd) ?_
  simp only [diskHandler, FileStep.answer]
  cases hmove : d.tree.moveFile (sibling path) path with
  | error e => exact throughout_andThen (.inl hd) fun h => by cases h
  | ok u =>
      have hu : ShowsEither path before after { d with tree := u } :=
        .inr (shows_of_moveFile hl hnode hmove)
      exact throughout_andThen hu fun _ => .ask hu (.done _ hu)

theorem throughout_writePieces {document : ByteArray}
    {rest : Program fileSteps (Except StoreError Unit)}
    (hrest : ∀ d : Disk, SiblingAt path d.tree l → d.tree.node? l = some (.file document) →
      Shows path before d.tree → Throughout diskHandler (ShowsEither path before after) rest d)
    (pieces : List ByteArray) {content : ByteArray} (hl : SiblingAt path d.tree l)
    (hnode : d.tree.node? l = some (.file content)) (hd : Shows path before d.tree)
    (hcut : pieces.foldl (fun bytes piece => bytes ++ piece) content = document) :
    Throughout diskHandler (ShowsEither path before after)
      (writePieces (sibling path) rest pieces) d := by
  -- by induction on the pieces: the sibling grows, and readers of the file do not look at it
  induction pieces generalizing content d with
  | nil => exact hrest d hl (hcut ▸ hnode) hd
  | cons piece pieces ih =>
      have happend : d.tree.append (sibling path) piece =
          .ok (d.tree.put l (.file (content ++ piece))) := by
        simp [FileTree.append, hl.resolve, hnode]
      have hshows := hd.put_file hl (content ++ piece)
      refine .ask (.inl hd) ?_
      simp only [diskHandler, FileStep.answer, happend]
      refine throughout_andThen (.inl hshows) fun _ => ?_
      exact ih (hl.put_file _) (d.tree.node?_put_self (FileTree.ne_root_of_node? hl.file) _)
        hshows hcut

/-- Making the directory of a file makes no difference to its readers. It may make one where the
path of the directory leads up again from a directory that was missing. -/
def Steady (path : Path) (t : FileTree) : Prop :=
  ∀ directory, path.parent? = some directory →
    ofContent ((t.ensureDirectories directory).2.readText path) = ofContent (t.readText path)

/-- Readers of a plain path do not notice that its directory is made. -/
theorem steady_of_plain {name : String} {entries : Entries} (hname : path.fileName? = some name)
    (hplain : FileTree.IsPlain path.components) (ht : Shows path entries t) : Steady path t := by
  intro directory hparent
  obtain ⟨dir, hparts⟩ := Path.exists_parts hname
  obtain ⟨habsolute, hcomponents⟩ := of_parent? hparent
  have hgrown : FileTree.Grown (t.origin path ++ FileTree.names path.components).length t
      (t.ensureDirectories directory).2 := by
    refine FileTree.grown_ensureDirectoriesWithin _ (habsolute.imp_right fun habsolute => ?_)
    refine ⟨fun c hc => hplain c (hcomponents.subset hc), ?_⟩
    have hlength := FileTree.length_names_lt_of_parent? hparts hparent
    rw [FileTree.origin, habsolute, ← FileTree.origin, List.length_append, List.length_append]
    omega
  have hcontents := ht.contents
  cases htext : t.readText path with
  | ok text => rw [hgrown.readText_of_ok htext]
  | error e =>
      rw [htext] at hcontents
      cases e with
      | notFound => rw [hgrown.readText_of_notFound ht.tree hplain (Nat.le_refl _) htext]
      | _ => cases hcontents

theorem throughout_makeRoom {rest : Program fileSteps (Except StoreError Unit)}
    (hrest : ∀ d : Disk, Shows path before d.tree →
      Throughout diskHandler (ShowsEither path before after) rest d)
    (hd : Shows path before d.tree) (hsteady : Steady path d.tree) :
    Throughout diskHandler (ShowsEither path before after) (makeRoom path rest) d := by
  rw [makeRoom]
  split
  next => exact hrest d hd
  next directory hparent =>
    have hmade : Shows path before (d.tree.ensureDirectories directory).2 :=
      ⟨hd.tree.ensureDirectories directory, (hsteady directory hparent).trans hd.contents⟩
    exact .ask (.inl hd) (throughout_andThen (.inl hmade) fun _ => hrest _ hmade)

theorem throughout_save {f : StorageFile}
    (hcut : (f.cut after.render.toUTF8).foldl (fun bytes piece => bytes ++ piece) .empty =
      after.render.toUTF8)
    (hd : Shows f.path before d.tree) (hsteady : Steady f.path d.tree) :
    Throughout diskHandler (ShowsEither f.path before after) (f.save after) d := by
  refine throughout_makeRoom (fun d hd => .ask (.inl hd) ?_) hd hsteady
  simp only [diskHandler, FileStep.answer]
  cases htruncate : d.tree.truncate (sibling f.path) with
  | error e => exact throughout_andThen (.inl hd) fun h => by cases h
  | ok u =>
      obtain ⟨l, hl, rfl⟩ := siblingAt_of_truncate hd.tree htruncate
      have hshows := hd.put_file hl .empty
      refine throughout_andThen (.inl hshows) fun _ => ?_
      exact throughout_writePieces (fun d hl hnode hd => throughout_publish hl hnode hd _) _
        (hl.put_file _) (d.tree.node?_put_self (FileTree.ne_root_of_node? hl.file) _) hshows hcut

/-! ## Changes -/

/-- A change of the entries. -/
inductive Edit
  | put (key value : String)
  | erase (key : String)

/-- The change made to the storage file. -/
def Edit.program (f : StorageFile) : Edit → Program fileSteps (Except StoreError Unit)
  | .put key value => f.set key value
  | .erase key => f.remove key

/-- The change made to the entries. -/
def Edit.apply : Edit → Entries → Entries
  | .put key value, entries => entries.insert key value
  | .erase key, entries => entries.erase key

theorem throughout_guarded {P : FileTree → Prop} {f : StorageFile} (ht : P t)
    (body : Program fileSteps (Except StoreError Unit))
    (hbody : Throughout diskHandler (fun d => P d.tree) body ⟨t, [f.guard], []⟩) :
    Throughout diskHandler (fun d => P d.tree) (f.guarded body) (.idle t) := by
  have hend := hbody.run
  exact .ask ht (hbody.bind (.ask hend (.done _ hend)))

/-- At every point of a change a reader finds the entries from before it or from after it. -/
theorem Edit.throughout (edit : Edit) {f : StorageFile} (ht : Shows f.path before t)
    (hsteady : Steady f.path t)
    (hcut : ∀ document, (f.cut document).foldl (fun bytes piece => bytes ++ piece) .empty =
      document) :
    Throughout diskHandler (ShowsEither f.path before (edit.apply before)) (edit.program f)
      (.idle t) := by
  have hguard (body : Program fileSteps (Except StoreError Unit)) :=
    throughout_guarded (P := fun t => Shows f.path before t ∨ Shows f.path (edit.apply before) t)
      (f := f) (.inl ht) body
  cases edit with
  | put key value =>
      refine hguard _ (.ask (.inl ht) ?_)
      simp only [diskHandler, FileStep.answer, ht.contents, bind_done]
      exact throughout_save (hcut _) ht hsteady
  | erase key =>
      refine hguard _ (.ask (.inl ht) ?_)
      simp only [diskHandler, FileStep.answer, ht.contents, bind_done]
      split
      next => exact throughout_save (hcut _) ht hsteady
      next => exact .done _ (.inl ht)

/-! ## Siblings that were left behind -/

/-- The second tree is the first, or the first without the sibling that was left there. -/
def Swept (path : Path) (t u : FileTree) : Prop :=
  u = t ∨ ∃ l, SiblingAt path t l ∧ u = { t with nodes := t.nodes.erase l }

/-- The sibling is emptied before it is written, so it does not matter whether it was there. -/
theorem SiblingAt.run_save {f : StorageFile} (h : SiblingAt f.path t l) (entries : Entries)
    (held : List Nat) (events : List Event) :
    (f.save entries).run diskHandler ⟨{ t with nodes := t.nodes.erase l }, held, events⟩ =
      (f.save entries).run diskHandler ⟨t, held, events⟩ := by
  have hsame := t.sameDirectories_erase h.file
  have hroom : ∀ directory, f.path.parent? = some directory → directory.text = "" ∨
      FileTree.isDirectory { t with nodes := t.nodes.erase l } directory = true :=
    fun directory hparent => (h.room hparent).imp_right hsame.isDirectory
  have htruncate := FileTree.truncate_of_resolve h.resolve h.file h.wantsDirectory_eq
  have htruncate' := FileTree.truncate_of_resolve (hsame.resolve h.resolve)
    (t.node?_erase_ne_directory (FileTree.ne_root_of_node? h.file)) h.wantsDirectory_eq
  have hput : FileTree.put { t with nodes := t.nodes.erase l } l (.file .empty) =
      t.put l (.file .empty) := by
    rw [FileTree.put, FileTree.put, SortedMap.insert_erase]
  rw [save, saveIn, run_makeRoom hroom, run_makeRoom fun _ => h.room, run_ask, run_ask]
  simp only [diskHandler, FileStep.answer, htruncate, htruncate', hput, Disk.apply]

end StorageFile

namespace FileStore

open StorageFile

theorem get_congr {s r : FileStore} (h : s.contents = r.contents) (key : String) :
    Store.get key s = Store.get key r := by
  change (((opened s.path).guarded ((load s.path).bind _)).run diskHandler _).1 =
    (((opened r.path).guarded ((load r.path).bind _)).run diskHandler _).1
  change ofContent (s.tree.readText s.path) = ofContent (r.tree.readText r.path) at h
  rw [run_guarded, run_load, run_guarded, run_load]
  rw [h]
  cases ofContent (r.tree.readText r.path) <;> rfl

variable {path : Path} {t u : FileTree}

theorem contents_of_swept (h : Swept path t u) :
    (FileStore.mk path u).contents = (FileStore.mk path t).contents := by
  rcases h with rfl | ⟨l, hl, rfl⟩
  · rfl
  · rw [contents, contents, hl.readText_eq (FileTree.apart_erase hl.file)]

/-- A change that saves what it makes of the contents, or ends at once. -/
def Saves (path : Path)
    (rest : Except StoreError Entries → Program fileSteps (Except StoreError Unit)) : Prop :=
  ∀ found, (∃ entries, rest found = (opened path).save entries) ∨
    ∃ result, rest found = .done result

theorem change_of_swept
    {rest : Except StoreError Entries → Program fileSteps (Except StoreError Unit)}
    (hrest : Saves path rest) (h : Swept path t u) :
    ∃ result v w events,
      (FileStore.mk path t).change ((opened path).guarded ((load path).bind rest)) =
        ⟨result, ⟨path, v⟩, events⟩ ∧
      (FileStore.mk path u).change ((opened path).guarded ((load path).bind rest)) =
        ⟨result, ⟨path, w⟩, events⟩ ∧ Swept path v w := by
  have hcontents := contents_of_swept h
  rcases hrest (FileStore.mk path t).contents with ⟨entries, hsave⟩ | ⟨result, hdone⟩
  · have hrun : ((opened path).save entries).run diskHandler ⟨u, [0], []⟩ =
        ((opened path).save entries).run diskHandler ⟨t, [0], []⟩ := by
      rcases h with rfl | ⟨l, hl, rfl⟩
      · rfl
      · exact SiblingAt.run_save (f := opened path) hl entries [0] []
    refine ⟨_, _, _, _, change_guarded ⟨path, t⟩ rest, (change_guarded ⟨path, u⟩ rest).trans ?_,
      .inl rfl⟩
    simp only [hcontents, hsave, hrun]
  · refine ⟨result, t, u, [], ?_, ?_, h⟩
    · rw [change_guarded ⟨path, t⟩ rest, hdone]
      rfl
    · rw [change_guarded ⟨path, u⟩ rest, hcontents, hdone]
      rfl

theorem saves_set (path : Path) (key value : String) : Saves path fun
    | .ok entries => (opened path).save (entries.insert key value)
    | .error e => .done (.error e)
  | .ok _ => .inl ⟨_, rfl⟩
  | .error _ => .inr ⟨_, rfl⟩

theorem saves_remove (path : Path) (key : String) : Saves path fun
    | .ok entries =>
      if entries.contains key then (opened path).save (entries.erase key) else .done (.ok ())
    | .error e => .done (.error e) := by
  rintro (e | entries)
  · exact .inr ⟨_, rfl⟩
  · cases h : entries.contains key with
    | true => exact .inl ⟨entries.erase key, by simp only [h, ↓reduceIte]⟩
    | false => exact .inr ⟨.ok (), by simp only [h, Bool.false_eq_true, ↓reduceIte]⟩

/-- A call gets the same reply with and without a sibling that was left behind. -/
theorem run_of_swept (h : Swept path t u) (call : StoreCall) :
    ∃ reply v w, call.run (FileStore.mk path t) = (reply, ⟨path, v⟩) ∧
      call.run (FileStore.mk path u) = (reply, ⟨path, w⟩) ∧ Swept path v w := by
  cases call with
  | get key =>
      refine ⟨_, t, u, rfl, ?_, h⟩
      rw [StoreCall.run, get_congr (contents_of_swept h)]
  | set key value =>
      obtain ⟨result, v, w, events, hv, hw, hswept⟩ := change_of_swept (saves_set path key value) h
      exact ⟨.changed result, v, w, congrArg (fun c => (StoreReply.changed c.result, c.store)) hv,
        congrArg (fun c => (StoreReply.changed c.result, c.store)) hw, hswept⟩
  | remove key =>
      obtain ⟨result, v, w, events, hv, hw, hswept⟩ := change_of_swept (saves_remove path key) h
      exact ⟨.changed result, v, w, congrArg (fun c => (StoreReply.changed c.result, c.store)) hv,
        congrArg (fun c => (StoreReply.changed c.result, c.store)) hw, hswept⟩
  | reopen => exact ⟨_, t, u, rfl, rfl, h⟩

theorem replies_of_swept (calls : List StoreCall) (h : Swept path t u) :
    StoreCall.replies calls (FileStore.mk path t) =
      StoreCall.replies calls (FileStore.mk path u) := by
  induction calls generalizing t u with
  | nil => rfl
  | cons call calls ih =>
      obtain ⟨reply, v, w, hv, hw, hswept⟩ := run_of_swept h call
      rw [StoreCall.replies, StoreCall.replies, hv, hw, ih hswept]

end FileStore

/-- The tree without the file that a path names. -/
def FileTree.dropFile (t : FileTree) (p : Path) : FileTree :=
  match t.resolve p with
  | .error _ => t
  | .ok l => if t.node? l = some .directory then t else { t with nodes := t.nodes.erase l }

namespace StorageFile

theorem swept_dropFile {t : FileTree} (ht : t.IsTree) (path : Path) :
    Swept path t (t.dropFile (sibling path)) := by
  rw [FileTree.dropFile]
  split
  next => exact .inl rfl
  next l hl =>
    split
    next => exact .inl rfl
    next hfile => exact .inr ⟨l, ⟨ht, hl, hfile⟩, rfl⟩

/-- Wherever a change of the storage file is cut off, a reader finds the entries from before it or
from after it, and later calls make nothing of a sibling that was left behind. The file may be
missing and an old sibling may be there, but making the directory of the file must not change what
its path reads. -/
theorem Edit.atomic (edit : Edit) {f : StorageFile} {t : FileTree} {entries : Entries}
    (htree : t.IsTree) (hcontents : (FileStore.mk f.path t).contents = .ok entries)
    (hsteady : Steady f.path t)
    (hcut : ∀ document, (f.cut document).foldl (fun bytes piece => bytes ++ piece) .empty =
      document) :
    Throughout diskHandler (fun d =>
      ((∀ key, Store.get key (FileStore.mk f.path d.tree) = .ok (entries.get? key)) ∨
        ∀ key, Store.get key (FileStore.mk f.path d.tree) =
          .ok ((edit.apply entries).get? key)) ∧
      ∀ calls, StoreCall.replies calls (FileStore.mk f.path d.tree) =
        StoreCall.replies calls (FileStore.mk f.path (d.tree.dropFile (sibling f.path))))
      (edit.program f) (.idle t) := by
  intro d hd
  have hshows := edit.throughout ⟨htree, hcontents⟩ hsteady hcut d hd
  refine ⟨?_, fun calls => ?_⟩
  · exact hshows.imp
      (fun hbefore => FileStore.get_of_contents (s := ⟨f.path, d.tree⟩) hbefore.contents)
      (fun hafter => FileStore.get_of_contents (s := ⟨f.path, d.tree⟩) hafter.contents)
  · have htree' : d.tree.IsTree := hshows.elim Shows.tree Shows.tree
    exact FileStore.replies_of_swept calls (swept_dropFile htree' f.path)

/-- A tree with one file in its root. -/
def lone (name : String) (entries : Entries) : FileTree :=
  FileTree.empty.put [name] (.file entries.render.toUTF8)

/-- A file that is written in two pieces, its directory missing. -/
def halved : StorageFile :=
  ⟨⟨"data/storage.json"⟩, 0, fun document =>
    [document.extract 0 1, document.extract 1 document.size]⟩

theorem isTree_lone (name : String) (entries : Entries) : (lone name entries).IsTree :=
  FileTree.isTree_empty.put nofun rfl

/-- A new file in a directory that is missing is written piece by piece. -/
theorem Edit.atomic_of_missing_directory :
    (FileStore.mk halved.path .empty).contents = .ok .empty ∧
      Throughout diskHandler (fun d =>
        ((∀ key, Store.get key (FileStore.mk halved.path d.tree) =
            .ok (SortedMap.empty.get? key)) ∨
          ∀ key, Store.get key (FileStore.mk halved.path d.tree) =
            .ok (((Edit.put "a" "1").apply .empty).get? key)) ∧
        ∀ calls, StoreCall.replies calls (FileStore.mk halved.path d.tree) =
          StoreCall.replies calls
            (FileStore.mk halved.path (d.tree.dropFile (sibling halved.path))))
        ((Edit.put "a" "1").program halved) (.idle .empty) := by
  have hcontents : (FileStore.mk halved.path .empty).contents = .ok .empty := by decide +kernel
  have hplain : FileTree.IsPlain halved.path.components := by decide +kernel
  have hname : halved.path.fileName? = some "storage.json" := by decide +kernel
  refine ⟨hcontents, Edit.atomic (.put "a" "1") FileTree.isTree_empty hcontents
    (steady_of_plain hname hplain ⟨FileTree.isTree_empty, hcontents⟩) fun document => ?_⟩
  simp [halved]

/-- On a path that leads up again from a missing directory, making the directory uncovers a file
that is neither what was there before the change nor what is to be there after it. -/
theorem Edit.not_atomic_of_detour :
    (lone "storage.json" (.ofList [("a", "1")])).IsTree ∧
      (FileStore.mk ⟨"x/../storage.json"⟩ (lone "storage.json" (.ofList [("a", "1")]))).contents =
        .ok .empty ∧
      ((Edit.put "b" "2").apply .empty).get? "a" = none ∧
      ∃ d ∈ ((Edit.put "b" "2").program (opened ⟨"x/../storage.json"⟩)).worlds diskHandler
          (.idle (lone "storage.json" (.ofList [("a", "1")]))),
        Store.get "a" (FileStore.mk ⟨"x/../storage.json"⟩ d.tree) = .ok (some "1") :=
  ⟨isTree_lone _ _, by decide +kernel⟩

end StorageFile

end SessionKeeper
