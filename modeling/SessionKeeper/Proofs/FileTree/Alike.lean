import Mathlib.Tactic.SplitIfs
import SessionKeeper.Proofs.FileTree.Walk
import SessionKeeper.Proofs.Program.Coupled

/-!
# Trees that differ in the contents of files

Two trees with the same directories and with files in the same places, whose contents are related.
Every access leads to the same place in both, fails in the same way, and leaves two trees that are
again alike.
-/

namespace SessionKeeper

/-- Two directories, or two files with related contents. -/
inductive Node.Alike (C : ByteArray → ByteArray → Prop) : Node → Node → Prop
  | directory : Alike C .directory .directory
  | file {a b : ByteArray} (h : C a b) : Alike C (.file a) (.file b)

theorem Node.Alike.refl {C : ByteArray → ByteArray → Prop} (h : ∀ a, C a a) (n : Node) :
    n.Alike C n := by
  cases n with
  | directory => exact .directory
  | file content => exact .file (h content)

namespace FileTree

/-- Two trees that are the same but for related contents of files. -/
structure Alike (C : ByteArray → ByteArray → Prop) (t u : FileTree) : Prop where
  working : t.working = u.working
  nodes : t.nodes.Alike (fun _ => Node.Alike C) u.nodes

namespace Alike

variable {C : ByteArray → ByteArray → Prop} {t u : FileTree}

protected theorem refl (h : ∀ a, C a a) (t : FileTree) : t.Alike C t :=
  ⟨rfl, .refl (fun _ => .refl h) t.nodes⟩

theorem node? (h : t.Alike C u) (l : Location) :
    Option.Rel (Node.Alike C) (t.node? l) (u.node? l) := by
  rw [FileTree.node?, FileTree.node?]
  split
  next => exact .some .directory
  next => exact h.nodes.get? l

/-- Nothing, a directory or a file stands at a location, and the same in both trees. -/
theorem node?_cases (h : t.Alike C u) (l : Location) :
    t.node? l = none ∧ u.node? l = none ∨
      t.node? l = some .directory ∧ u.node? l = some .directory ∨
      ∃ a b, C a b ∧ t.node? l = some (.file a) ∧ u.node? l = some (.file b) := by
  have hnode := h.node? l
  generalize t.node? l = m at hnode ⊢
  generalize u.node? l = n at hnode ⊢
  cases hnode with
  | none => exact .inl ⟨rfl, rfl⟩
  | some hnode =>
      cases hnode with
      | directory => exact .inr (.inl ⟨rfl, rfl⟩)
      | file hab => exact .inr (.inr ⟨_, _, hab, rfl, rfl⟩)

theorem put (h : t.Alike C u) (l : Location) {m n : Node} (hmn : m.Alike C n) :
    (t.put l m).Alike C (u.put l n) :=
  ⟨h.working, h.nodes.insert hmn⟩

theorem erase (h : t.Alike C u) (l : Location) :
    Alike C { t with nodes := t.nodes.erase l } { u with nodes := u.nodes.erase l } :=
  ⟨h.working, h.nodes.erase l⟩

/-! ## Following paths -/

theorem walk_eq (h : t.Alike C u) (here : Location) (cs : List String) :
    t.walk here cs = u.walk here cs := by
  induction cs generalizing here with
  | nil => rfl
  | cons c cs ih =>
      rw [walk, walk]
      obtain ⟨ht, hu⟩ | ⟨ht, hu⟩ | ⟨a, b, -, ht, hu⟩ := h.node?_cases here
      · rw [ht, hu]
      · rw [ht, hu]
        simp only [ih]
      · rw [ht, hu]

theorem resolve_eq (h : t.Alike C u) (p : Path) : t.resolve p = u.resolve p := by
  rw [resolve, resolve, h.working]
  simp only [h.walk_eq]

theorem pathExists_eq (h : t.Alike C u) (p : Path) : t.pathExists p = u.pathExists p := by
  rw [pathExists, pathExists, h.resolve_eq]
  cases u.resolve p with
  | error e => rfl
  | ok l =>
      dsimp only
      obtain ⟨ht, hu⟩ | ⟨ht, hu⟩ | ⟨a, b, -, ht, hu⟩ := h.node?_cases l <;> rw [ht, hu]

theorem isDirectory_eq (h : t.Alike C u) (p : Path) : t.isDirectory p = u.isDirectory p := by
  rw [isDirectory, isDirectory, h.resolve_eq]
  cases u.resolve p with
  | error e => rfl
  | ok l =>
      dsimp only
      obtain ⟨ht, hu⟩ | ⟨ht, hu⟩ | ⟨a, b, -, ht, hu⟩ := h.node?_cases l
      · rw [ht, hu]
      · rw [ht, hu]
      · rw [ht, hu]
        rfl

/-! ## Accesses -/

theorem read (h : t.Alike C u) (p : Path) : Agree C (t.read p) (u.read p) := by
  rw [FileTree.read, FileTree.read, h.resolve_eq]
  cases u.resolve p with
  | error e => exact .error e
  | ok l =>
      dsimp only
      obtain ⟨ht, hu⟩ | ⟨ht, hu⟩ | ⟨a, b, hab, ht, hu⟩ := h.node?_cases l
      · rw [ht, hu]
        exact .error _
      · rw [ht, hu]
        exact .error _
      · rw [ht, hu]
        dsimp only
        split_ifs
        · exact .error _
        · exact .ok hab

theorem makeDirectory (h : t.Alike C u) (p : Path) :
    Agree (Alike C) (t.makeDirectory p) (u.makeDirectory p) := by
  rw [FileTree.makeDirectory, FileTree.makeDirectory, h.resolve_eq]
  cases u.resolve p with
  | error e => exact .error e
  | ok l =>
      dsimp only
      obtain ⟨ht, hu⟩ | ⟨ht, hu⟩ | ⟨a, b, -, ht, hu⟩ := h.node?_cases l
      · rw [ht, hu]
        exact .ok (h.put l .directory)
      · rw [ht, hu]
        exact .error _
      · rw [ht, hu]
        exact .error _

/-- Accesses that come to the same result and leave trees that are alike. -/
def Ends (C : ByteArray → ByteArray → Prop) (r s : Except IoError Unit × FileTree) : Prop :=
  r.1 = s.1 ∧ r.2.Alike C s.2

theorem ensureDirectory (h : t.Alike C u) (p : Path) :
    Ends C (t.ensureDirectory p) (u.ensureDirectory p) := by
  have hmake := h.makeDirectory p
  rw [FileTree.ensureDirectory, FileTree.ensureDirectory, h.isDirectory_eq]
  generalize t.makeDirectory p = r at hmake ⊢
  generalize u.makeDirectory p = s at hmake ⊢
  cases hmake with
  | ok h => exact ⟨rfl, h⟩
  | error e => exact ⟨rfl, h⟩

theorem ensureDirectoriesWithin (h : t.Alike C u) (fuel : Nat) (p : Path) :
    Ends C (t.ensureDirectoriesWithin fuel p) (u.ensureDirectoriesWithin fuel p) := by
  induction fuel generalizing p with
  | zero => exact ⟨rfl, h⟩
  | succ fuel ih =>
      have hmake := h.makeDirectory p
      rw [FileTree.ensureDirectoriesWithin, FileTree.ensureDirectoriesWithin, h.isDirectory_eq]
      generalize t.makeDirectory p = r at hmake ⊢
      generalize u.makeDirectory p = s at hmake ⊢
      by_cases hempty : p.text = ""
      · rw [if_pos hempty, if_pos hempty]
        exact ⟨rfl, h⟩
      · rw [if_neg hempty, if_neg hempty]
        cases hmake with
        | ok h => exact ⟨rfl, h⟩
        | error e =>
            cases e with
            | notFound =>
                dsimp only
                cases p.parent? with
                | none => exact ⟨rfl, h⟩
                | some parent =>
                    -- the directory is tried again once those above it are there
                    obtain ⟨hresult, hmade⟩ := ih parent
                    dsimp only
                    generalize t.ensureDirectoriesWithin fuel parent = r at hresult hmade ⊢
                    generalize u.ensureDirectoriesWithin fuel parent = s at hresult hmade ⊢
                    obtain ⟨result, t⟩ := r
                    obtain ⟨_, u⟩ := s
                    cases hresult
                    cases result with
                    | error e => exact ⟨rfl, hmade⟩
                    | ok _ => exact hmade.ensureDirectory p
            | _ => exact ⟨rfl, h⟩

theorem ensureDirectories (h : t.Alike C u) (p : Path) :
    Ends C (t.ensureDirectories p) (u.ensureDirectories p) :=
  h.ensureDirectoriesWithin _ p

/-- Files that are emptied, and then written as a whole. -/
theorem truncate_append (h : t.Alike C u) (p : Path) (hempty : C .empty .empty)
    {a b : ByteArray} (hab : C a b) :
    Agree (fun t' u' => ∃ t'' u'', t'.append p a = .ok t'' ∧ u'.append p b = .ok u'' ∧
      t''.Alike C u'') (t.truncate p) (u.truncate p) := by
  have hresolve := h.resolve_eq p
  rw [truncate, truncate, hresolve]
  cases hl : u.resolve p with
  | error e => exact .error e
  | ok l =>
      rw [hl] at hresolve
      have hwritten (ht : t.node? l ≠ some .directory) (hu : u.node? l ≠ some .directory) :
          ∃ t'' u'', (t.put l (.file .empty)).append p a = .ok t'' ∧
            (u.put l (.file .empty)).append p b = .ok u'' ∧ t''.Alike C u'' := by
        rw [append_put_file hresolve ht, append_put_file hl hu, ByteArray.empty_append,
          ByteArray.empty_append]
        exact ⟨_, _, rfl, rfl, (h.put l (.file hempty)).put l (.file hab)⟩
      dsimp only
      obtain ⟨ht, hu⟩ | ⟨ht, hu⟩ | ⟨a, b, -, ht, hu⟩ := h.node?_cases l
      · rw [ht, hu] at hwritten ⊢
        dsimp only
        split_ifs
        · exact .error _
        · exact .ok (hwritten (by simp) (by simp))
      · rw [ht, hu]
        exact .error _
      · rw [ht, hu] at hwritten ⊢
        dsimp only
        split_ifs
        · exact .error _
        · exact .ok (hwritten (by simp) (by simp))

theorem moveFile (h : t.Alike C u) (source target : Path) :
    Agree (Alike C) (t.moveFile source target) (u.moveFile source target) := by
  rw [FileTree.moveFile, FileTree.moveFile, h.resolve_eq, h.resolve_eq]
  cases u.resolve source with
  | error e => exact .error e
  | ok l =>
      dsimp only
      obtain ⟨ht, hu⟩ | ⟨ht, hu⟩ | ⟨a, b, hab, ht, hu⟩ := h.node?_cases l
      · rw [ht, hu]
        exact .error _
      · rw [ht, hu]
        exact .error _
      · rw [ht, hu]
        cases u.resolve target with
        | error e => exact .error e
        | ok m =>
            have hmoved := (h.erase l).put m (.file hab)
            have hplace : t.node? m = some .directory ↔ u.node? m = some .directory := by
              obtain ⟨ht, hu⟩ | ⟨ht, hu⟩ | ⟨a, b, -, ht, hu⟩ := h.node?_cases m <;> simp [ht, hu]
            simp only [hplace]
            split_ifs
            · exact .error _
            · exact .error _
            · exact .ok h
            · exact .ok hmoved

end Alike

/-! ## Trees that differ in files of one name -/

variable {C : ByteArray → ByteArray → Prop} {t u : FileTree}

/-- Trees that are the same but for the contents of files of one name. -/
structure SameBut (name : String) (C : ByteArray → ByteArray → Prop) (t u : FileTree) : Prop where
  alike : t.Alike C u
  others : ∀ l : Location, l.getLast? ≠ some name → t.node? l = u.node? l

/-- A file of another name is read alike. -/
theorem SameBut.readText_eq {name : String} (h : t.SameBut name C u) {p : Path}
    {dir file : List Char} (hp : p.Parts dir file) (hname : String.ofList file ≠ name) :
    t.readText p = u.readText p := by
  rw [readText, readText, read, read, h.alike.resolve_eq]
  cases hl : u.resolve p with
  | error e => rfl
  | ok l =>
      obtain ⟨d, -, -, -, rfl⟩ := resolve_of_parts hp hl
      have hother : (d ++ [String.ofList file]).getLast? ≠ some name := by
        simpa using hname
      simp only [h.others _ hother]

/-- A file of that name may get either of two contents. -/
theorem sameBut_put {name : String} (hC : ∀ a, C a a) (t : FileTree) {l : Location}
    (hl : l.getLast? = some name) {a b : ByteArray} (hab : C a b) :
    (t.put l (.file a)).SameBut name C (t.put l (.file b)) := by
  refine ⟨(Alike.refl hC t).put l (.file hab), fun k hk => ?_⟩
  have hkl : k ≠ l := by
    rintro rfl
    exact hk hl
  rw [node?_put_of_ne t hkl, node?_put_of_ne t hkl]

end FileTree

end SessionKeeper
