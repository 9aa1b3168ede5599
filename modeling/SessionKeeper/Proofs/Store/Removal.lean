import SessionKeeper.EnvironmentFile.Basic
import SessionKeeper.Proofs.Store.Footprint

/-!
# Removing a key from the storage file

A removal writes only if it has found the key, and then the directories above the storage file are
there, so that it makes none. What it can change is the file and its sibling. If it succeeds the
file has lost the key and nothing else; if it fails, at whatever point, the file is as it was.
Settings and variables are in files of other names, so they are read as before either way.
-/

namespace SessionKeeper

open SessionKeeper.Path

namespace FileTree

variable {t u : FileTree} {p : Path} {l : Location}

/-! ## Files that can be read -/

/-- A file that is read is there. -/
theorem of_readText_ok {text : String} (h : t.readText p = .ok text) :
    ∃ l content, t.resolve p = .ok l ∧ t.node? l = some (.file content) := by
  rw [readText, read] at h
  cases hl : t.resolve p with
  | error e => simp [hl] at h
  | ok l =>
      rw [hl] at h
      dsimp only at h
      cases hnode : t.node? l with
      | none => simp [hnode] at h
      | some n =>
          cases n with
          | directory => simp [hnode] at h
          | file content => exact ⟨l, content, rfl, hnode⟩

/-- The directory of a file that is read is there. -/
theorem IsTree.room_of_readText (ht : t.IsTree) {text : String} (h : t.readText p = .ok text)
    {directory : Path} (hparent : p.parent? = some directory) :
    directory.text = "" ∨ t.isDirectory directory = true := by
  obtain ⟨l, content, hl, hnode⟩ := of_readText_ok h
  cases hname : p.fileName? with
  | none =>
      have hdirectory := ht.node?_of_nameless hname hl
      rw [hnode] at hdirectory
      cases hdirectory
  | some name =>
      obtain ⟨dir, hparts⟩ := exists_parts hname
      rw [hparts.parent?_eq] at hparent
      exact isDirectory_of_parts hparts hl (Option.some.inj hparent).symm

theorem sameDirectories_of_moveFile {source target : Path}
    (h : t.moveFile source target = .ok u) : t.SameDirectories u := by
  obtain ⟨-, l, -, -, hl, -⟩ := of_moveFile h
  obtain ⟨-, -, hsame, -⟩ := StorageFile.of_moveFile_ok hl h
  exact hsame

end FileTree

/-! ## Saving where the directories are there -/

namespace StorageFile

variable {path : Path} {t u : FileTree} {l : Location}

theorem sameDirectories_publish (path : Path) (count : Nat) (d : Disk) :
    d.tree.SameDirectories ((publish path count).run diskHandler d).2.tree := by
  rw [publish, Program.run_ask]
  simp only [diskHandler, FileStep.answer]
  cases hmove : d.tree.moveFile (sibling path) path with
  | error e => exact .refl d.tree
  | ok u => exact FileTree.sameDirectories_of_moveFile hmove

/-- Saving makes no directory where none is missing, whether it succeeds or not. -/
theorem sameDirectories_save (f : StorageFile) (entries : Entries) {d : Disk}
    (hroom : ∀ directory, f.path.parent? = some directory →
      directory.text = "" ∨ d.tree.isDirectory directory = true) :
    d.tree.SameDirectories ((f.save entries).run diskHandler d).2.tree := by
  rw [save, saveIn, run_makeRoom hroom, Program.run_ask]
  simp only [diskHandler, FileStep.answer]
  cases htruncate : d.tree.truncate (sibling f.path) with
  | error e => exact .refl d.tree
  | ok u =>
      obtain ⟨-, l, hl, hfile, rfl⟩ := FileTree.of_truncate htruncate
      have hempty := d.tree.sameDirectories_put_file hfile .empty
      obtain ⟨v, hrun, hpieces, -⟩ := run_writePieces (publish f.path entries.size)
        (f.cut entries.render.toUTF8) { d with tree := d.tree.put l (.file .empty) }
        (hempty.resolve hl) (d.tree.node?_put_self (FileTree.ne_root_of_node? hfile) _)
      have hpublish := sameDirectories_publish f.path entries.size { d with tree := v }
      rw [← hrun] at hpublish
      exact hempty.trans (hpieces.sameDirectories.trans hpublish)

/-- Where no directory is new, what was spared is what was there. -/
theorem Spared.node?_eq (h : Spared path t u l) (hsame : t.SameDirectories u) :
    u.node? l = t.node? l := by
  rcases h with heq | ⟨hnone, hdirectory, -⟩
  · exact heq
  · rw [(hsame.directory l).mp hdirectory] at hnone
    cases hnone

/-- The traces that a change leaves where the directories are the same. -/
theorem Footprint.node?_eq {result : Except StoreError Unit} (h : Footprint path t u result)
    (hsame : t.SameDirectories u) (hsibling : t.resolve (sibling path) ≠ .ok l)
    (hplace : t.resolve path ≠ .ok l) : u.node? l = t.node? l := by
  have hsibling' : u.resolve (sibling path) ≠ .ok l := fun hl => hsibling (hsame.symm.resolve hl)
  have hplace' : u.resolve path ≠ .ok l := fun hl => hplace (hsame.symm.resolve hl)
  cases result with
  | ok _ =>
      rcases h l with hspared | hl | hl
      · exact hspared.node?_eq hsame
      · exact absurd hl hsibling'
      · exact absurd hl hplace'
  | error e =>
      rcases h l with hspared | ⟨hl, -⟩
      · exact hspared.node?_eq hsame
      · exact absurd hl hsibling'

/-- A change that failed where the directories are the same has left the file as it was. -/
theorem Footprint.read_eq {e : StoreError} (h : Footprint path t u (.error e))
    (hsame : t.SameDirectories u) (hl : t.resolve path = .ok l) : u.read path = t.read path := by
  have hl' := hsame.resolve hl
  have hnode : u.node? l = t.node? l := by
    rcases h l with hspared | ⟨-, hother⟩
    · exact hspared.node?_eq hsame
    · exact absurd hl' hother
  simp only [FileTree.read, hl, hl', hnode]

end StorageFile

/-! ## Removals -/

namespace FileStore

open StorageFile

/-- What a removal makes of a store: the directories are the same, and so is what stands anywhere
but at the file and its sibling. If the removal succeeded then the file has its entries but this
one, and if it failed then the file has not changed. -/
structure Removed (key : String) (s : FileStore) (result : Except StoreError Unit)
    (t : FileTree) : Prop where
  directories : s.tree.SameDirectories t
  others : ∀ l, s.tree.resolve (sibling s.path) ≠ .ok l → s.tree.resolve s.path ≠ .ok l →
    t.node? l = s.tree.node? l
  contents : result = .ok () → ∃ entries, s.contents = .ok entries ∧
    contents ⟨s.path, t⟩ = .ok (entries.erase key)
  unchanged : result ≠ .ok () → t.read s.path = s.tree.read s.path

variable {key : String} {s : FileStore} {entries : Entries}

/-- A file with entries has a text. -/
theorem readText_of_contains (h : s.contents = .ok entries) (hkey : entries.contains key = true) :
    ∃ text, s.tree.readText s.path = .ok text := by
  rw [FileStore.contents] at h
  cases htext : s.tree.readText s.path with
  | ok text => exact ⟨text, rfl⟩
  | error e =>
      -- a file that is missing has no entries, and no other error is taken for entries
      rw [htext] at h
      unfold ofContent at h
      split at h
      next => contradiction
      next =>
        rw [← Except.ok.inj h] at hkey
        cases hkey
      next => cases h

/-- A removal that finds the key comes to saving the other entries. -/
theorem exists_save_of_contains (h : s.contents = .ok entries)
    (hkey : entries.contains key = true) :
    ∃ result e, ((opened s.path).save (entries.erase key)).run diskHandler ⟨s.tree, [0], []⟩ =
        (result, e) ∧
      (Store.remove key s).result = result ∧ (Store.remove key s).store.tree = e.tree := by
  refine ⟨_, _, rfl, ?_⟩
  change (s.change ((opened s.path).guarded ((load s.path).bind _))).result = _ ∧
    (s.change ((opened s.path).guarded ((load s.path).bind _))).store.tree = _
  rw [change_guarded, h]
  simp only [hkey, ↓reduceIte, and_self]

/-- A removal that found the key in the file. -/
theorem removed_of_contains (htree : s.tree.IsTree) (h : s.contents = .ok entries)
    (hkey : entries.contains key = true) :
    s.Removed key (Store.remove key s).result (Store.remove key s).store.tree := by
  obtain ⟨text, htext⟩ := readText_of_contains h hkey
  obtain ⟨l, content, hl, -⟩ := FileTree.of_readText_ok htext
  obtain ⟨result, e, hrun, hresult, hlast⟩ := exists_save_of_contains h hkey
  have hsame : s.tree.SameDirectories e.tree := by
    have hsaved := sameDirectories_save (opened s.path) (entries.erase key)
      (d := ⟨s.tree, [0], []⟩) fun directory => htree.room_of_readText htext
    rwa [hrun] at hsaved
  have hfootprint : Footprint s.path s.tree e.tree result := footprint_save htree hrun
  have hcontents (hok : result = .ok ()) :
      contents ⟨s.path, e.tree⟩ = .ok (entries.erase key) := by
    have hplace : Writable s.path s.tree := by
      refine writable_of_remove h hkey fun error herror => ?_
      cases (hresult.trans hok).symm.trans herror
    obtain ⟨t, events, heq, -, hfound⟩ := remove_of_contains h hplace hkey
    rw [heq] at hlast
    rwa [← hlast]
  rw [hresult, hlast]
  refine ⟨hsame, fun l => hfootprint.node?_eq hsame, fun hok => ⟨entries, h, hcontents hok⟩, ?_⟩
  intro hfail
  cases result with
  | ok _ => exact absurd rfl hfail
  | error error => exact hfootprint.read_eq hsame hl

/-- Whatever is in the storage file and around it, a removal succeeds and takes away the key and
nothing else, or it fails and leaves the file alone. -/
theorem removed_remove (key : String) (htree : s.tree.IsTree) :
    s.Removed key (Store.remove key s).result (Store.remove key s).store.tree := by
  cases h : s.contents with
  | error e =>
      have hremove : Store.remove key s = ⟨.error e, s, []⟩ := by
        change s.change ((opened s.path).guarded ((load s.path).bind _)) = _
        rw [change_guarded, h]
        rfl
      rw [hremove]
      exact ⟨.refl s.tree, fun _ _ _ => rfl, nofun, fun _ => rfl⟩
  | ok entries =>
      cases hkey : entries.contains key with
      | true => exact removed_of_contains htree h hkey
      | false =>
          rw [remove_of_not_contains h hkey]
          have hnone : entries.get? key = none := by
            simpa [SortedMap.contains] using hkey
          refine ⟨.refl s.tree, fun _ _ _ => rfl, fun _ => ⟨entries, h, ?_⟩, fun _ => rfl⟩
          rw [SortedMap.erase_of_get?_eq_none hnone, h]

end FileStore

/-! ## Files of other names -/

namespace FileTree

/-- The same directories, and the same files but for those of certain names. -/
structure SameBeside (names : List String) (t u : FileTree) : Prop where
  directories : t.SameDirectories u
  others : ∀ l, (∀ name ∈ names, l.getLast? ≠ some name) → u.node? l = t.node? l

namespace SameBeside

variable {names : List String} {t u : FileTree}

theorem node?_concat (h : t.SameBeside names u) {name : String} (hname : name ∉ names)
    (l : Location) : u.node? (l ++ [name]) = t.node? (l ++ [name]) := by
  apply h.others
  intro other hother hlast
  rw [List.getLast?_concat, Option.some.injEq] at hlast
  exact hname (hlast ▸ hother)

/-- An environment file of another name is found as before. -/
theorem load_environment (h : t.SameBeside names u) (hname : EnvironmentFile.fileName ∉ names)
    (e : Environment) : EnvironmentFile.load e u = EnvironmentFile.load e t := by
  have hfind : EnvironmentFile.find? u = EnvironmentFile.find? t := by
    rw [EnvironmentFile.find?, EnvironmentFile.find?, h.directories.working,
      EnvironmentFile.candidates, List.findSome?_map, List.findSome?_map]
    congr 1
    funext n
    simp only [Function.comp, h.node?_concat hname]
  rw [EnvironmentFile.load, EnvironmentFile.load, hfind]

/-- Settings at a path of another name are found as before. -/
theorem load_settings (h : t.SameBeside names u) {p : Path} {dir file : List Char}
    (hp : p.Parts dir file) (hname : String.ofList file ∉ names) :
    Settings.load u p = Settings.load t p := by
  cases hl : t.resolve p with
  | ok l =>
      have hl' := h.directories.resolve hl
      obtain ⟨d, -, -, -, rfl⟩ := resolve_of_parts hp hl
      simp only [Settings.load, pathExists, readText, read, hl, hl', h.node?_concat hname]
  | error e =>
      -- a path that led nowhere leads nowhere still, whatever the reason is now
      have hnowhere : t.pathExists p = false := by
        simp only [pathExists, hl]
      have hnowhere' : u.pathExists p = false := by
        cases hl' : u.resolve p with
        | ok l => cases hl.symm.trans (h.directories.symm.resolve hl')
        | error e' => simp only [pathExists, hl']
      simp only [Settings.load, hnowhere, hnowhere', Bool.false_eq_true, ↓reduceIte]

end SameBeside

end FileTree

namespace StorageFile

/-- The names of a storage file and of its sibling. -/
def names : List String :=
  [fileName.text, (sibling fileName).text]

variable {directory : Path} {t : FileTree} {l : Location}

theorem exists_parts_within (directory : Path) :
    ∃ dir, (within directory).Parts dir fileName.text.toList :=
  Path.exists_parts_join directory fileName (by decide) (by decide) (by decide)

theorem getLast?_of_resolve_within (hl : t.resolve (within directory) = .ok l) :
    l.getLast? = some fileName.text := by
  obtain ⟨dir, hparts⟩ := exists_parts_within directory
  obtain ⟨d, -, -, -, rfl⟩ := FileTree.resolve_of_parts hparts hl
  rw [List.getLast?_concat, String.ofList_toList]

/-- The sibling of a storage file has its name, or there is a directory where it should be. -/
theorem getLast?_of_resolve_sibling (htree : t.IsTree)
    (hl : t.resolve (sibling (within directory)) = .ok l) :
    l.getLast? = some (sibling fileName).text ∨ t.node? l = some .directory := by
  obtain ⟨dir, hparts⟩ := exists_parts_within directory
  have hname : String.ofList (stem fileName.text.toList ++ '.' :: siblingExtension.toList) =
      (sibling fileName).text := by
    decide
  rcases hparts.withExtension siblingExtension (by decide) (by decide) with
    ⟨hsibling, -⟩ | hnameless
  · obtain ⟨d, -, -, -, rfl⟩ := FileTree.resolve_of_parts hsibling hl
    rw [hname, List.getLast?_concat]
    exact .inl rfl
  · exact .inr (htree.node?_of_nameless hnameless hl)

end StorageFile

open StorageFile in
/-- A removal changes no file but those of the names of a storage file and its sibling. -/
theorem FileStore.Removed.sameBeside {key : String} {directory : Path} {t u : FileTree}
    {result : Except StoreError Unit} (htree : t.IsTree)
    (h : FileStore.Removed key ⟨within directory, t⟩ result u) : t.SameBeside names u := by
  refine ⟨h.directories, fun l hl => ?_⟩
  by_cases hsibling : t.resolve (sibling (within directory)) = .ok l
  · rcases getLast?_of_resolve_sibling htree hsibling with hlast | hdirectory
    · exact absurd hlast (hl _ (by simp [names]))
    · rw [hdirectory, (h.directories.directory l).mpr hdirectory]
  · refine h.others l hsibling fun hplace => ?_
    exact hl _ (by simp [names]) (getLast?_of_resolve_within hplace)

end SessionKeeper
