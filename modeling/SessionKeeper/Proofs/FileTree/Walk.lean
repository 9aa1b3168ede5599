import Mathlib.Tactic.SplitIfs
import SessionKeeper.Proofs.FileTree.Access
import SessionKeeper.Proofs.FileTree.Path

/-!
# Where paths lead

A path with a file name leads to that name in the directory that its directory part leads to; a path
without one leads to a directory. So two paths with the same directory part and different names
lead to different places, and what stands at the one makes no difference to the other.
-/

namespace SessionKeeper.FileTree

open SessionKeeper.Path

/-! ## Following components -/

theorem walk_append (t : FileTree) (here : Location) (cs ds : List String) :
    t.walk here (cs ++ ds) = (t.walk here cs).bind fun m => t.walk m ds := by
  induction cs generalizing here with
  | nil => rfl
  | cons c cs ih =>
      rw [List.cons_append, walk, walk]
      split
      next => rfl
      next => rfl
      next => simp only [ih]; split_ifs <;> rfl

/-- A walk on from somewhere, as far as its first component. -/
theorem of_walk_cons {t : FileTree} {here l : Location} {c : String} {cs : List String}
    (h : t.walk here (c :: cs) = .ok l) :
    t.node? here = some .directory ∧
      (c = "." ∧ t.walk here cs = .ok l ∨ c = ".." ∧ t.walk here.dropLast cs = .ok l ∨
        (c ≠ "." ∧ c ≠ "..") ∧ ¬nameLimit < c.utf8ByteSize ∧
          t.walk (here ++ [c]) cs = .ok l) := by
  rw [walk] at h
  split at h
  next => cases h
  next => cases h
  next hnode =>
    refine ⟨hnode, ?_⟩
    split_ifs at h with hdot hup hlimit
    · exact .inl ⟨hdot, h⟩
    · exact .inr (.inl ⟨hup, h⟩)
    · exact .inr (.inr ⟨⟨hdot, hup⟩, hlimit, h⟩)

theorem walk_dots {t : FileTree} {here l : Location} {dots : List String}
    (hdots : ∀ c ∈ dots, c = ".") (h : t.walk here dots = .ok l) : l = here := by
  induction dots with
  | nil => exact (Except.ok.inj h).symm
  | cons c dots ih =>
      obtain ⟨rfl, hrest⟩ := List.forall_mem_cons.mp hdots
      rcases (of_walk_cons h).2 with ⟨-, h⟩ | ⟨hup, -⟩ | ⟨⟨hdot, -⟩, -⟩
      · exact ih hrest h
      · exact absurd hup (by decide)
      · exact absurd rfl hdot

/-- Single dots ask for a directory, and for nothing else. -/
theorem walk_dots_congr {t u : FileTree} {here : Location} (hnode : u.node? here = t.node? here)
    {dots : List String} (hdots : ∀ c ∈ dots, c = ".") : u.walk here dots = t.walk here dots := by
  induction dots with
  | nil => rfl
  | cons c dots ih =>
      obtain ⟨rfl, hrest⟩ := List.forall_mem_cons.mp hdots
      simp only [walk, hnode, ih hrest, ↓reduceIte]

/-! ## Trees -/

/-- Every file and directory stands in a directory. -/
def IsTree (t : FileTree) : Prop :=
  ∀ l, t.node? l ≠ none → t.node? l.dropLast = some .directory

theorem isTree_empty : empty.IsTree := by
  intro l hl
  cases l with
  | nil => rfl
  | cons name l => exact absurd rfl hl

/-- The location from which a path is followed. -/
def origin (t : FileTree) (p : Path) : Location :=
  if p.isAbsolute then [] else t.working

theorem of_resolve {t : FileTree} {p : Path} {l : Location} (h : t.resolve p = .ok l) :
    ((p.text.toList.any fun c => c == '\x00') = false ∧ p.text ≠ "" ∧
      p.text.utf8ByteSize ≤ pathLimit) ∧ t.walk (t.origin p) p.components = .ok l := by
  rw [resolve] at h
  split at h
  next => cases h
  next hnul =>
    split at h
    next => cases h
    next hempty =>
      split at h
      next => cases h
      next hlimit =>
        exact ⟨⟨Bool.eq_false_iff.mpr hnul, hempty, Nat.not_lt.mp hlimit⟩, h⟩

/-- In a tree, a path without a file name leads to a directory. -/
theorem IsTree.node?_of_nameless {t : FileTree} (ht : t.IsTree) {p : Path} {l : Location}
    (hp : p.fileName? = none) (h : t.resolve p = .ok l) : t.node? l = some .directory := by
  obtain ⟨⟨-, hempty, -⟩, hwalk⟩ := of_resolve h
  rcases components_of_nameless hp with ⟨front, last, hcomponents, hlast⟩ | ⟨hcomponents, hroot⟩
  · rw [hcomponents, walk_append] at hwalk
    cases hfront : t.walk (t.origin p) front with
    | error e => rw [hfront] at hwalk; cases hwalk
    | ok m =>
        rw [hfront] at hwalk
        change t.walk m [last] = .ok l at hwalk
        obtain ⟨hnode, hl⟩ := of_walk_cons hwalk
        rcases hl with ⟨-, hl⟩ | ⟨-, hl⟩ | ⟨hname, -⟩
        · rwa [← Except.ok.inj hl]
        · rw [← Except.ok.inj hl]
          exact ht m (by rw [hnode]; simp)
        · exact absurd hlast (not_or.mpr hname)
  · have habsolute := hroot.resolve_left hempty
    rw [hcomponents, origin, if_pos habsolute] at hwalk
    rw [← Except.ok.inj hwalk]
    rfl

/-- A path with a file name leads to that name in a directory. -/
theorem resolve_of_parts {t : FileTree} {p : Path} {dir name : List Char} {l : Location}
    (hp : p.Parts dir name) (h : t.resolve p = .ok l) :
    ∃ d, t.walk (t.origin p) (componentsOf dir) = .ok d ∧ t.node? d = some .directory ∧
      ¬nameLimit < (String.ofList name).utf8ByteSize ∧ l = d ++ [String.ofList name] := by
  obtain ⟨-, hwalk⟩ := of_resolve h
  obtain ⟨dots, hdots, hcomponents⟩ := hp.components_eq
  rw [hcomponents, walk_append] at hwalk
  cases hfront : t.walk (t.origin p) (componentsOf dir) with
  | error e => rw [hfront] at hwalk; cases hwalk
  | ok d =>
      rw [hfront] at hwalk
      obtain ⟨hnode, hl⟩ := of_walk_cons (l := l) hwalk
      rcases hl with ⟨hdot, -⟩ | ⟨hup, -⟩ | ⟨-, hlimit, hl⟩
      · exact absurd hdot hp.ofList_ne.1
      · exact absurd hup hp.ofList_ne.2
      · exact ⟨d, rfl, hnode, hlimit, walk_dots hdots hl⟩

/-- The directory of a path that leads somewhere is there. -/
theorem isDirectory_of_parts {t : FileTree} {p parent : Path} {dir name : List Char} {l : Location}
    (hp : p.Parts dir name) (h : t.resolve p = .ok l)
    (hparent : parent = ⟨String.ofList (dropTail dir.reverse).reverse⟩) :
    parent.text = "" ∨ t.isDirectory parent = true := by
  by_cases hempty : parent.text = ""
  · exact .inl hempty
  obtain ⟨d, hdir, hnode, -, -⟩ := resolve_of_parts hp h
  obtain ⟨⟨hnul, -, hlimit⟩, -⟩ := of_resolve h
  obtain ⟨dots, hdots, hcomponents⟩ := componentsOf_dropTail dir.reverse
  have htext : parent.text.toList = (dropTail dir.reverse).reverse := by
    rw [hparent, String.toList_ofList]
  rw [List.reverse_reverse, ← htext] at hcomponents
  -- the text of the directory stands at the front of the text of the path
  have hprefix : parent.text.toList <+: p.text.toList := by
    refine List.IsPrefix.trans ?_ ((List.prefix_append dir name).trans hp.prefix_text)
    rw [htext, ← List.reverse_suffix, List.reverse_reverse]
    exact dropTail_suffix dir.reverse
  have habsolute := isAbsolute_of_isPrefix hprefix hempty
  obtain ⟨rest, hrest⟩ := hprefix
  have hwalk : t.walk (t.origin parent) parent.components = .ok d := by
    rw [hcomponents, walk_append] at hdir
    rw [origin, habsolute, ← origin, components_eq]
    cases hfront : t.walk (t.origin p) (componentsOf parent.text.toList) with
    | error e => rw [hfront] at hdir; cases hdir
    | ok m =>
        rw [hfront] at hdir
        rw [walk_dots hdots hdir]
  have hresolve : t.resolve parent = .ok d := by
    have hnul' : (parent.text.toList.any fun c => c == '\x00') = false := by
      rw [← hrest, List.any_append, Bool.or_eq_false_iff] at hnul
      exact hnul.1
    have hlimit' : ¬pathLimit < parent.text.utf8ByteSize := by
      have hsize : p.text = parent.text ++ String.ofList rest := by
        rw [← String.toList_inj, String.toList_append, String.toList_ofList, hrest]
      rw [hsize, String.utf8ByteSize_append] at hlimit
      omega
    unfold origin at hwalk
    simp only [resolve, hnul', hempty, hlimit', hwalk, Bool.false_eq_true, ↓reduceIte]
  simp [isDirectory, hresolve, hnode]

/-! ## What keeps a tree a tree -/

theorem IsTree.dropLast_of_resolve {t : FileTree} (ht : t.IsTree) {p : Path} {l : Location}
    (h : t.resolve p = .ok l) (hfile : t.node? l ≠ some .directory) :
    t.node? l.dropLast = some .directory := by
  cases hname : p.fileName? with
  | none => exact absurd (ht.node?_of_nameless hname h) hfile
  | some name =>
      obtain ⟨dir, hp⟩ := exists_parts hname
      obtain ⟨d, -, hnode, -, rfl⟩ := resolve_of_parts hp h
      rwa [List.dropLast_concat]

theorem IsTree.put {t : FileTree} (ht : t.IsTree) {l : Location} {n : Node}
    (hfile : t.node? l ≠ some .directory) (hparent : t.node? l.dropLast = some .directory) :
    (t.put l n).IsTree := by
  intro m hm
  by_cases hml : m = l
  · subst hml
    have hne : m.dropLast ≠ m := fun h => hfile (h ▸ hparent)
    rw [node?_put_of_ne t hne, hparent]
  · rw [node?_put_of_ne t hml] at hm
    have hdirectory := ht m hm
    have hne : m.dropLast ≠ l := fun h => hfile (by rwa [← h])
    rw [node?_put_of_ne t hne, hdirectory]

theorem IsTree.erase {t : FileTree} (ht : t.IsTree) {l : Location}
    (hfile : t.node? l ≠ some .directory) : IsTree { t with nodes := t.nodes.erase l } := by
  intro m hm
  have hroot := ne_root_of_node? hfile
  have hml : m ≠ l := by
    rintro rfl
    simp [node?, hroot] at hm
  rw [node?_erase_of_ne t hml] at hm
  have hdirectory := ht m hm
  have hne : m.dropLast ≠ l := fun h => hfile (by rwa [← h])
  rw [node?_erase_of_ne t hne, hdirectory]

theorem IsTree.makeDirectory {t u : FileTree} (ht : t.IsTree) {p : Path}
    (h : t.makeDirectory p = .ok u) : u.IsTree := by
  rw [FileTree.makeDirectory] at h
  split at h
  next => cases h
  next l hl =>
    split at h
    next => cases h
    next hnode =>
      cases h
      have hfile : t.node? l ≠ some .directory := by simp [hnode]
      exact ht.put hfile (ht.dropLast_of_resolve hl hfile)

theorem IsTree.ensureDirectory {t : FileTree} (ht : t.IsTree) (p : Path) :
    (t.ensureDirectory p).2.IsTree := by
  rw [FileTree.ensureDirectory]
  split
  next u hu => exact ht.makeDirectory hu
  next => exact ht

theorem IsTree.ensureDirectoriesWithin (fuel : Nat) {t : FileTree} (ht : t.IsTree) (p : Path) :
    (ensureDirectoriesWithin fuel t p).2.IsTree := by
  induction fuel generalizing p with
  | zero => exact ht
  | succ fuel ih =>
      rw [FileTree.ensureDirectoriesWithin]
      split
      next => exact ht
      next =>
        split
        next u hu => exact ht.makeDirectory hu
        next =>
          split
          next => exact ht
          next parent hparent =>
            have hmade := ih parent
            split
            next e u hu => rwa [hu] at hmade
            next u hu =>
              rw [hu] at hmade
              exact hmade.ensureDirectory p
        next => exact ht

theorem IsTree.ensureDirectories {t : FileTree} (ht : t.IsTree) (p : Path) :
    (t.ensureDirectories p).2.IsTree :=
  ht.ensureDirectoriesWithin _ p

/-! ## Trees that differ in one place -/

/-- Two trees that differ at one location at most, where neither has a directory. -/
structure Apart (l : Location) (t u : FileTree) : Prop where
  working : u.working = t.working
  node : ∀ m, m ≠ l → u.node? m = t.node? m
  left : t.node? l ≠ some .directory
  right : u.node? l ≠ some .directory

theorem Apart.refl {t : FileTree} {l : Location} (h : t.node? l ≠ some .directory) :
    Apart l t t :=
  ⟨rfl, fun _ _ => rfl, h, h⟩

theorem Apart.trans {t u v : FileTree} {l : Location} (h : Apart l t u) (h' : Apart l u v) :
    Apart l t v :=
  ⟨h'.working.trans h.working, fun m hm => (h'.node m hm).trans (h.node m hm), h.left, h'.right⟩

theorem apart_put_file {t : FileTree} {l : Location} (h : t.node? l ≠ some .directory)
    (content : ByteArray) : Apart l t (t.put l (.file content)) where
  working := rfl
  node _ hm := node?_put_of_ne t hm _
  left := h
  right := by simp [node?_put_self t (ne_root_of_node? h)]

theorem apart_erase {t : FileTree} {l : Location} (h : t.node? l ≠ some .directory) :
    Apart l t { t with nodes := t.nodes.erase l } where
  working := rfl
  node _ hm := node?_erase_of_ne t hm
  left := h
  right := node?_erase_ne_directory t (ne_root_of_node? h)

variable {t u : FileTree} {l : Location}

theorem Apart.sameDirectories (h : Apart l t u) : t.SameDirectories u := by
  refine ⟨h.working, fun m => ?_⟩
  by_cases hm : m = l
  · subst hm
    exact ⟨fun hu => absurd hu h.right, fun ht => absurd ht h.left⟩
  · rw [h.node m hm]

/-- What stands in a directory under another name makes no difference to a path. -/
theorem Apart.resolve_eq {p : Path} {dir name : List Char} {d : Location} {other : String}
    (h : Apart (d ++ [other]) t u) (hp : p.Parts dir name) (hne : String.ofList name ≠ other)
    (hdir : t.walk (t.origin p) (componentsOf dir) = .ok d) : u.resolve p = t.resolve p := by
  obtain ⟨dots, hdots, hcomponents⟩ := hp.components_eq
  have hother : d ++ [String.ofList name] ≠ d ++ [other] := by simpa using hne
  have hself : d ≠ d ++ [other] := by simp
  have horigin : u.origin p = t.origin p := by rw [origin, origin, h.working]
  have hdir' : u.walk (u.origin p) (componentsOf dir) = .ok d := by
    rw [horigin]
    exact walk_of_directories (fun m => (h.sameDirectories.directory m).mpr) hdir
  have hwalk : u.walk (u.origin p) p.components = t.walk (t.origin p) p.components := by
    rw [hcomponents, walk_append, walk_append, hdir, hdir']
    change u.walk d (String.ofList name :: dots) = t.walk d (String.ofList name :: dots)
    simp only [walk, h.node d hself]
    split
    next => rfl
    next => rfl
    next =>
      simp only [hp.ofList_ne.1, hp.ofList_ne.2, ↓reduceIte,
        walk_dots_congr (h.node _ hother) hdots]
  unfold origin at hwalk
  rw [resolve, resolve, hwalk]

theorem Apart.readText_eq {p : Path} {dir name : List Char} {d : Location} {other : String}
    (h : Apart (d ++ [other]) t u) (hp : p.Parts dir name) (hne : String.ofList name ≠ other)
    (hdir : t.walk (t.origin p) (componentsOf dir) = .ok d) : u.readText p = t.readText p := by
  have hresolve := h.resolve_eq hp hne hdir
  have hread : u.read p = t.read p := by
    rw [read, read, hresolve]
    cases hl : t.resolve p with
    | error e => rfl
    | ok m =>
        obtain ⟨d', hdir', -, -, rfl⟩ := resolve_of_parts hp hl
        rw [hdir] at hdir'
        obtain rfl := Except.ok.inj hdir'
        have hother : d ++ [String.ofList name] ≠ d ++ [other] := by simpa using hne
        simp only [h.node _ hother]
  rw [readText, readText, hread]

end SessionKeeper.FileTree
