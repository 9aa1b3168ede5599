import SessionKeeper.FileTree.Basic
import SessionKeeper.Proofs.SortedMap

/-!
# What accesses to a file tree leave alone

A path is followed through directories, so where it leads depends on the directories of the tree
only. Writing and moving files changes no directory; hence a path that was followed once leads to
the same place afterwards, and what was written there is read back.
-/

namespace SessionKeeper

/-- A text comes back from its bytes. -/
@[simp] theorem Text.decode_toUTF8 (s : String) : Text.decode s.toUTF8 = some s := by
  have hvalid : s.toByteArray.IsValidUTF8 := s.isValidUTF8
  simp [Text.decode, String.fromUTF8?, hvalid, String.fromUTF8]

theorem Text.eq_toUTF8_of_decode {bytes : ByteArray} {s : String}
    (h : Text.decode bytes = some s) : bytes = s.toUTF8 := by
  rw [Text.decode, String.fromUTF8?] at h
  split at h
  next => exact congrArg String.toUTF8 (Option.some.inj h)
  next => cases h

namespace FileTree

/-! ## Nodes -/

theorem ne_root_of_node? {t : FileTree} {l : Location} (h : t.node? l ≠ some .directory) :
    l ≠ [] := by
  intro hl
  subst hl
  exact h rfl

theorem node?_put_self (t : FileTree) {l : Location} (h : l ≠ []) (n : Node) :
    (t.put l n).node? l = some n := by
  simp [node?, put, h]

theorem node?_put_of_ne (t : FileTree) {l m : Location} (h : m ≠ l) (n : Node) :
    (t.put l n).node? m = t.node? m := by
  simp [node?, put, SortedMap.get?_insert_of_ne h]

theorem put_put (t : FileTree) (l : Location) (m n : Node) : (t.put l m).put l n = t.put l n :=
  congrArg (FileTree.mk · t.working) (SortedMap.insert_insert t.nodes l m n)

/-- To put what stands there already changes nothing. -/
theorem put_of_node? {t : FileTree} {l : Location} {n : Node} (hl : l ≠ [])
    (h : t.node? l = some n) : t.put l n = t := by
  rw [node?, if_neg hl] at h
  exact congrArg (FileTree.mk · t.working) (SortedMap.insert_of_get?_eq_some h)

theorem node?_erase_of_ne (t : FileTree) {l m : Location} (h : m ≠ l) :
    node? { t with nodes := t.nodes.erase l } m = t.node? m := by
  simp [node?, SortedMap.get?_erase_of_ne h]

theorem node?_erase_ne_directory (t : FileTree) {l : Location} (h : l ≠ []) :
    node? { t with nodes := t.nodes.erase l } l ≠ some .directory := by
  simp [node?, h]

/-! ## Directories -/

/-- Two trees with the same directories, in which relative paths start from the same one. -/
structure SameDirectories (t u : FileTree) : Prop where
  working : u.working = t.working
  directory : ∀ l, u.node? l = some .directory ↔ t.node? l = some .directory

theorem SameDirectories.refl (t : FileTree) : t.SameDirectories t :=
  ⟨rfl, fun _ => Iff.rfl⟩

theorem SameDirectories.symm {t u : FileTree} (h : t.SameDirectories u) : u.SameDirectories t :=
  ⟨h.working.symm, fun l => (h.directory l).symm⟩

theorem SameDirectories.trans {t u v : FileTree} (h : t.SameDirectories u)
    (h' : u.SameDirectories v) : t.SameDirectories v :=
  ⟨h'.working.trans h.working, fun l => (h'.directory l).trans (h.directory l)⟩

theorem sameDirectories_put_file (t : FileTree) {l : Location}
    (h : t.node? l ≠ some .directory) (content : ByteArray) :
    t.SameDirectories (t.put l (.file content)) := by
  refine ⟨rfl, fun m => ?_⟩
  by_cases hm : m = l
  · subst hm
    rw [node?_put_self t (ne_root_of_node? h)]
    simpa using h
  · rw [node?_put_of_ne t hm]

theorem sameDirectories_erase (t : FileTree) {l : Location} (h : t.node? l ≠ some .directory) :
    t.SameDirectories { t with nodes := t.nodes.erase l } := by
  refine ⟨rfl, fun m => ?_⟩
  by_cases hm : m = l
  · subst hm
    exact ⟨fun he => absurd he (node?_erase_ne_directory t (ne_root_of_node? h)),
      fun he => absurd he h⟩
  · rw [node?_erase_of_ne t hm]

/-- Directories stay where a file is moved to another place. -/
theorem sameDirectories_move (t : FileTree) {l m : Location} (hl : t.node? l ≠ some .directory)
    (hm : t.node? m ≠ some .directory) (content : ByteArray) :
    t.SameDirectories (FileTree.put { t with nodes := t.nodes.erase l } m (.file content)) := by
  have herase := t.sameDirectories_erase hl
  have hplace : FileTree.node? { t with nodes := t.nodes.erase l } m ≠ some .directory :=
    fun he => hm ((herase.directory m).mp he)
  exact herase.trans (sameDirectories_put_file _ hplace content)

/-! ## Following paths -/

/-- A path leads to the same place as long as the directories on the way are there. -/
theorem walk_of_directories {t u : FileTree}
    (h : ∀ l, t.node? l = some .directory → u.node? l = some .directory) {here l : Location}
    {cs : List String} (hwalk : t.walk here cs = .ok l) : u.walk here cs = .ok l := by
  induction cs generalizing here with
  | nil => exact hwalk
  | cons c cs ih =>
      cases hnode : t.node? here with
      | none => simp [walk, hnode] at hwalk
      | some n =>
          cases n with
          | file content => simp [walk, hnode] at hwalk
          | directory =>
              simp only [walk, hnode] at hwalk
              simp only [walk, h here hnode]
              split at hwalk
              next hdot => rw [if_pos hdot]; exact ih hwalk
              next hdot =>
                rw [if_neg hdot]
                split at hwalk
                next hup => rw [if_pos hup]; exact ih hwalk
                next hup =>
                  rw [if_neg hup]
                  split at hwalk
                  next => cases hwalk
                  next hlimit => rw [if_neg hlimit]; exact ih hwalk

theorem resolve_of_directories {t u : FileTree} (hworking : u.working = t.working)
    (h : ∀ l, t.node? l = some .directory → u.node? l = some .directory) {p : Path} {l : Location}
    (hl : t.resolve p = .ok l) : u.resolve p = .ok l := by
  unfold resolve at hl ⊢
  rw [hworking]
  split at hl
  next => cases hl
  next hnul =>
    rw [if_neg hnul]
    split at hl
    next => cases hl
    next hempty =>
      rw [if_neg hempty]
      split at hl
      next => cases hl
      next hlimit =>
        rw [if_neg hlimit]
        exact walk_of_directories h hl

theorem SameDirectories.resolve {t u : FileTree} (h : t.SameDirectories u) {p : Path}
    {l : Location} (hl : t.resolve p = .ok l) : u.resolve p = .ok l :=
  resolve_of_directories h.working (fun m => (h.directory m).mpr) hl

theorem SameDirectories.isDirectory {t u : FileTree} (h : t.SameDirectories u) {p : Path}
    (hp : t.isDirectory p = true) : u.isDirectory p = true := by
  unfold FileTree.isDirectory at hp ⊢
  cases hl : t.resolve p with
  | error e => simp [hl] at hp
  | ok l =>
      simp only [hl, beq_iff_eq] at hp
      simp only [h.resolve hl, beq_iff_eq, (h.directory l).mpr hp]

/-! ## Making directories -/

theorem isDirectory_of_makeDirectory {t u : FileTree} {p : Path}
    (h : t.makeDirectory p = .ok u) : u.isDirectory p = true := by
  unfold makeDirectory at h
  cases hl : t.resolve p with
  | error e => simp [hl] at h
  | ok l =>
      cases hnode : t.node? l with
      | some n => simp [hl, hnode] at h
      | none =>
          simp only [hl, hnode, Except.ok.injEq] at h
          subst h
          have hfree : t.node? l ≠ some .directory := by simp [hnode]
          -- the new directory was no node before, so all that were directories still are
          have hstay : ∀ m, t.node? m = some .directory →
              (t.put l .directory).node? m = some .directory := by
            intro m hm
            rw [node?_put_of_ne t (by rintro rfl; simp [hnode] at hm), hm]
          have hsame : (t.put l .directory).resolve p = .ok l :=
            resolve_of_directories (t := t) (u := t.put l .directory) rfl hstay hl
          simp [isDirectory, hsame, node?_put_self t (ne_root_of_node? hfree)]

theorem isDirectory_of_ensureDirectory {t u : FileTree} {p : Path}
    (h : t.ensureDirectory p = (.ok (), u)) : u.isDirectory p = true := by
  unfold ensureDirectory at h
  split at h
  next v hv =>
    cases h
    exact isDirectory_of_makeDirectory hv
  next e he =>
    split at h
    next hdir => cases h; exact hdir
    next => cases h

/-- Directories that were made are there. -/
theorem isDirectory_of_ensureDirectories {t u : FileTree} {p : Path}
    (h : t.ensureDirectories p = (.ok (), u)) : p.text = "" ∨ u.isDirectory p = true := by
  rw [ensureDirectories, ensureDirectoriesWithin] at h
  split at h
  next hempty => exact .inl hempty
  next hempty =>
    refine .inr ?_
    split at h
    next v hv => cases h; exact isDirectory_of_makeDirectory hv
    next hmissing =>
      split at h
      next => cases h
      next parent hparent =>
        split at h
        next => cases h
        next v hv => exact isDirectory_of_ensureDirectory h
    next e he hmake =>
      split at h
      next hdir => cases h; exact hdir
      next => cases h

/-- Directories that are there need not be made. -/
theorem ensureDirectories_of_isDirectory {t : FileTree} {p : Path}
    (h : p.text = "" ∨ t.isDirectory p = true) : t.ensureDirectories p = (.ok (), t) := by
  rw [ensureDirectories, ensureDirectoriesWithin]
  by_cases hempty : p.text = ""
  · rw [if_pos hempty]
  · have hdir := h.resolve_left hempty
    have hmake : t.makeDirectory p = .error .alreadyExists := by
      unfold isDirectory at hdir
      cases hl : t.resolve p with
      | error e => simp [hl] at hdir
      | ok l =>
          simp only [hl, beq_iff_eq] at hdir
          simp [makeDirectory, hl, hdir]
    simp only [hempty, ↓reduceIte, hmake, hdir]

/-! ## What an access that succeeded tells -/

theorem of_truncate {t u : FileTree} {p : Path} (h : t.truncate p = .ok u) :
    p.wantsDirectory = false ∧ ∃ l, t.resolve p = .ok l ∧ t.node? l ≠ some .directory ∧
      u = t.put l (.file .empty) := by
  unfold truncate at h
  cases hl : t.resolve p with
  | error e => simp [hl] at h
  | ok l =>
      cases hname : p.wantsDirectory with
      | true =>
          cases hnode : t.node? l with
          | none => simp [hl, hnode, hname] at h
          | some n => cases n <;> simp [hl, hnode, hname] at h
      | false =>
          refine ⟨rfl, l, rfl, ?_⟩
          cases hnode : t.node? l with
          | none => exact ⟨by simp, by simpa [hl, hnode, hname, eq_comm] using h⟩
          | some n =>
              cases n with
              | directory => simp [hl, hnode] at h
              | file content => exact ⟨by simp, by simpa [hl, hnode, hname, eq_comm] using h⟩

theorem truncate_of_resolve {t : FileTree} {p : Path} {l : Location} (hl : t.resolve p = .ok l)
    (hfile : t.node? l ≠ some .directory) (hname : p.wantsDirectory = false) :
    t.truncate p = .ok (t.put l (.file .empty)) := by
  cases hnode : t.node? l with
  | none => simp [truncate, hl, hnode, hname]
  | some n =>
      cases n with
      | directory => exact absurd hnode hfile
      | file content => simp [truncate, hl, hnode, hname]

/-- What stood at one place stands at the other after a move, unless the two are one. -/
theorem of_moveFile {t u : FileTree} {source target : Path}
    (h : t.moveFile source target = .ok u) :
    target.wantsDirectory = false ∧ ∃ l m content, t.resolve source = .ok l ∧
      t.node? l = some (.file content) ∧ t.resolve target = .ok m ∧
      t.node? m ≠ some .directory ∧
      u = if l = m then t
        else FileTree.put { t with nodes := t.nodes.erase l } m (.file content) := by
  unfold moveFile at h
  split at h
  next => cases h
  next l hl =>
    split at h
    next => cases h
    next => cases h
    next content hnode =>
      split at h
      next => cases h
      next m hm =>
        split at h
        next => cases h
        next hname =>
          split at h
          next => cases h
          next hplace =>
            refine ⟨by simpa using hname, l, m, content, hl, hnode, hm, hplace, ?_⟩
            split at h
            next heq => rw [if_pos heq, Except.ok.inj h]
            next hne => rw [if_neg hne, Except.ok.inj h]

/-! ## Writing and reading whole files -/

/-- What is added to a file that was put there is all behind what was put. -/
theorem append_put_file {t : FileTree} {p : Path} {l : Location} (hl : t.resolve p = .ok l)
    (hfile : t.node? l ≠ some .directory) (content bytes : ByteArray) :
    (t.put l (.file content)).append p bytes =
      .ok ((t.put l (.file content)).put l (.file (content ++ bytes))) := by
  have hplace := (t.sameDirectories_put_file hfile content).resolve hl
  have hnode := t.node?_put_self (ne_root_of_node? hfile) (.file content)
  simp only [append, hplace, hnode]

theorem write_of_resolve {t : FileTree} {p : Path} {l : Location} (hl : t.resolve p = .ok l)
    (hfile : t.node? l ≠ some .directory) (hname : p.wantsDirectory = false) (bytes : ByteArray) :
    t.write p bytes = (.ok (), t.put l (.file bytes)) := by
  rw [write, truncate_of_resolve hl hfile hname]
  dsimp only
  rw [append_put_file hl hfile, put_put, ByteArray.empty_append]

/-- What was written stands where the path leads, and all else is as it was. -/
theorem of_write {t u : FileTree} {p : Path} {bytes : ByteArray}
    (h : t.write p bytes = (.ok (), u)) :
    p.wantsDirectory = false ∧ ∃ l, t.resolve p = .ok l ∧ t.node? l ≠ some .directory ∧
      u = t.put l (.file bytes) := by
  cases htruncate : t.truncate p with
  | error e => simp [write, htruncate] at h
  | ok v =>
      obtain ⟨hname, l, hl, hfile, -⟩ := of_truncate htruncate
      rw [write_of_resolve hl hfile hname] at h
      exact ⟨hname, l, hl, hfile, (Prod.mk.inj h).2.symm⟩

theorem read_of_node {t : FileTree} {p : Path} {l : Location} {bytes : ByteArray}
    (hl : t.resolve p = .ok l) (hnode : t.node? l = some (.file bytes))
    (hname : p.wantsDirectory = false) : t.read p = .ok bytes := by
  simp [read, hl, hnode, hname]

theorem readText_of_node {t : FileTree} {p : Path} {l : Location} {s : String}
    (hl : t.resolve p = .ok l) (hnode : t.node? l = some (.file s.toUTF8))
    (hname : p.wantsDirectory = false) : t.readText p = .ok s := by
  rw [readText, read_of_node hl hnode hname]
  simp only [Text.decode_toUTF8]

theorem read_of_readText {t : FileTree} {p : Path} {s : String} (h : t.readText p = .ok s) :
    t.read p = .ok s.toUTF8 := by
  rw [readText] at h
  split at h
  next => cases h
  next content hread =>
    split at h
    next => cases h
    next text hdecode =>
      cases h
      rw [hread, Text.eq_toUTF8_of_decode hdecode]

/-- What can be read is there. -/
theorem pathExists_of_readText {t : FileTree} {p : Path} {s : String} (h : t.readText p = .ok s) :
    t.pathExists p = true := by
  have hread := read_of_readText h
  rw [read] at hread
  split at hread
  next => cases hread
  next l hl =>
    split at hread
    next => cases hread
    next => cases hread
    next hnode =>
      split at hread
      next => cases hread
      next hname => simpa [pathExists, hl, hnode] using hname

end FileTree

end SessionKeeper
