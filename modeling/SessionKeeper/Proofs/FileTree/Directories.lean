import Mathlib.Data.List.Induction
import SessionKeeper.Proofs.FileTree.Walk

/-!
# Making the directories of a plain path

A path without double dots, in which no name is too long, leads to its names one below the other,
whatever is there. Making the directory of such a path makes directories at shorter locations only,
so nothing new can be read at the path.
-/

namespace SessionKeeper.FileTree

open SessionKeeper.Path

/-! ## Plain ways -/

/-- No component leads up again, and none is too long for a name. -/
def IsPlain (cs : List String) : Prop :=
  ∀ c ∈ cs, c ≠ ".." ∧ ¬nameLimit < c.utf8ByteSize

instance (cs : List String) : Decidable (IsPlain cs) :=
  inferInstanceAs (Decidable (∀ c ∈ cs, c ≠ ".." ∧ ¬nameLimit < c.utf8ByteSize))

/-- The components that are names, on a way that does not lead up. -/
def names (cs : List String) : List String :=
  cs.filter fun c => c != "."

theorem length_names_le {cs ds : List String} (h : cs <+: ds) :
    (names cs).length ≤ (names ds).length :=
  (h.filter _).length_le

theorem append_names {c : String} (hc : c ≠ ".") (here : Location) (cs : List String) :
    here ++ names (c :: cs) = here ++ [c] ++ names cs := by
  rw [names, List.filter_cons_of_pos (by simpa using hc), List.append_assoc, names,
    List.singleton_append]

theorem length_names_lt_of_parent? {p q : Path} {dir name : List Char} (hp : p.Parts dir name)
    (h : p.parent? = some q) : (names q.components).length < (names p.components).length := by
  have hq : q.components = componentsOf (dropTail dir.reverse).reverse := by
    rw [hp.parent?_eq] at h
    rw [← Option.some.inj h, components_eq, String.toList_ofList]
  obtain ⟨dots, -, hcomponents⟩ := hp.components_eq
  have hle : (names q.components).length ≤ (names (componentsOf dir)).length := by
    have hprefix := prefix_componentsOf_dropTail dir.reverse
    rw [List.reverse_reverse] at hprefix
    rw [hq]
    exact length_names_le hprefix
  have hlt : (names (componentsOf dir)).length < (names p.components).length := by
    rw [hcomponents]
    simp [names, hp.ofList_ne.1]
  omega

theorem walk_plain {t : FileTree} {here l : Location} {cs : List String} (hcs : IsPlain cs)
    (h : t.walk here cs = .ok l) : l = here ++ names cs := by
  induction cs generalizing here with
  | nil => rw [← Except.ok.inj h, names, List.filter_nil, List.append_nil]
  | cons c cs ih =>
      obtain ⟨hc, hrest⟩ := List.forall_mem_cons.mp hcs
      rcases (of_walk_cons h).2 with ⟨rfl, htail⟩ | ⟨hup, -⟩ | ⟨⟨hdot, -⟩, -, htail⟩
      · exact ih hrest htail
      · exact absurd hup hc.1
      · rw [ih hrest htail, append_names hdot]

theorem IsTree.node?_append {t : FileTree} (ht : t.IsTree) {l : Location}
    (h : t.node? l = none) (m : Location) : t.node? (l ++ m) = none := by
  induction m using List.reverseRecOn with
  | nil => rwa [List.append_nil]
  | append_singleton m c ih =>
      by_contra hnode
      have hparent := ht _ hnode
      rw [← List.append_assoc, List.dropLast_concat, ih] at hparent
      cases hparent

/-! ## Trees with more directories -/

/-- The second tree has more directories, at locations of less than `n` names. -/
structure Grown (n : Nat) (t u : FileTree) : Prop where
  working : u.working = t.working
  node : ∀ m, u.node? m = t.node? m ∨
    t.node? m = none ∧ u.node? m = some .directory ∧ m.length < n

theorem Grown.refl (n : Nat) (t : FileTree) : Grown n t t :=
  ⟨rfl, fun _ => .inl rfl⟩

variable {n : Nat} {t u v : FileTree}

theorem Grown.trans (h : Grown n t u) (h' : Grown n u v) : Grown n t v := by
  refine ⟨h'.working.trans h.working, fun m => ?_⟩
  rcases h'.node m with heq | ⟨hnone, hdir, hlength⟩
  · rw [heq]
    exact h.node m
  · rcases h.node m with heq | ⟨-, hdir', -⟩
    · exact .inr ⟨heq ▸ hnone, hdir, hlength⟩
    · rw [hnone] at hdir'
      cases hdir'

theorem Grown.node?_eq (h : Grown n t u) {m : Location} (hm : t.node? m ≠ none) :
    u.node? m = t.node? m :=
  (h.node m).resolve_right fun hnew => hm hnew.1

theorem Grown.resolve (h : Grown n t u) {p : Path} {l : Location} (hl : t.resolve p = .ok l) :
    u.resolve p = .ok l :=
  resolve_of_directories h.working
    (fun m hm => by rw [h.node?_eq (by rw [hm]; simp), hm]) hl

theorem grown_makeDirectory {p : Path} (hp : IsPlain p.components)
    (hn : (t.origin p ++ names p.components).length < n) (h : t.makeDirectory p = .ok u) :
    Grown n t u := by
  rw [makeDirectory] at h
  split at h
  next => cases h
  next l hl =>
    split at h
    next => cases h
    next hnode =>
      obtain rfl := Except.ok.inj h
      have hroot : l ≠ [] := ne_root_of_node? (t := t) (by simp [hnode])
      have hlength : l.length < n := by rwa [walk_plain hp (of_resolve hl).2]
      refine ⟨rfl, fun m => ?_⟩
      by_cases hm : m = l
      · subst hm
        exact .inr ⟨hnode, t.node?_put_self hroot _, hlength⟩
      · exact .inl (t.node?_put_of_ne hm _)

theorem grown_ensureDirectory {p : Path} (hp : IsPlain p.components)
    (hn : (t.origin p ++ names p.components).length < n) : Grown n t (t.ensureDirectory p).2 := by
  rw [ensureDirectory]
  split
  next u hu => exact grown_makeDirectory hp hn hu
  next => exact .refl n t

theorem grown_ensureDirectoriesWithin (fuel : Nat) {p : Path}
    (hp : p.text = "" ∨ IsPlain p.components ∧ (t.origin p ++ names p.components).length < n) :
    Grown n t (ensureDirectoriesWithin fuel t p).2 := by
  -- by induction on the fuel: the directory above is plain again, and not longer
  induction fuel generalizing p with
  | zero => exact .refl n t
  | succ fuel ih =>
      rw [ensureDirectoriesWithin]
      split
      next => exact .refl n t
      next hempty =>
        obtain ⟨hplain, hlength⟩ := hp.resolve_left hempty
        split
        next u hu => exact grown_makeDirectory hplain hlength hu
        next =>
          split
          next => exact .refl n t
          next parent hparent =>
            obtain ⟨hparentText, hcomponents⟩ := of_parent? hparent
            have habove : parent.text = "" ∨ IsPlain parent.components ∧
                (t.origin parent ++ names parent.components).length < n := by
              refine hparentText.imp_right fun habsolute => ?_
              refine ⟨fun c hc => hplain c (hcomponents.subset hc), ?_⟩
              have hle := length_names_le hcomponents
              rw [List.length_append] at hlength ⊢
              rw [origin, habsolute, ← origin]
              omega
            have hgrown := ih habove
            split
            next e u hu => rwa [hu] at hgrown
            next u hu =>
              rw [hu] at hgrown
              refine hgrown.trans (grown_ensureDirectory hplain ?_)
              rwa [origin, hgrown.working, ← origin]
        next => exact .refl n t

/-! ## Reading after directories were made -/

/-- A plain way on which there is no file ends at its names, unless something is missing. -/
theorem walk_of_no_file {here : Location} {cs : List String} (hcs : IsPlain cs)
    (h : ∀ m content, t.node? (here ++ m) ≠ some (.file content)) :
    t.walk here cs = .error .notFound ∨ t.walk here cs = .ok (here ++ names cs) := by
  induction cs generalizing here with
  | nil => exact .inr (by rw [names, List.filter_nil, List.append_nil]; rfl)
  | cons c cs ih =>
      obtain ⟨hc, hrest⟩ := List.forall_mem_cons.mp hcs
      rw [walk]
      split
      next => exact .inl rfl
      next content hnode => exact absurd (by rwa [List.append_nil]) (h [] content)
      next =>
        by_cases hdot : c = "."
        · subst hdot
          exact ih hrest h
        · rw [if_neg hdot, if_neg hc.1, if_neg hc.2, append_names hdot]
          refine ih hrest fun m content => ?_
          rw [List.append_assoc]
          exact h _ content

/-- Where something was missing on a plain way, more directories lead at most to a place where
nothing was. -/
theorem Grown.walk_of_notFound (ht : t.IsTree) (h : Grown n t u) {here : Location}
    {cs : List String} (hcs : IsPlain cs) (hwalk : t.walk here cs = .error .notFound) :
    u.walk here cs = .error .notFound ∨
      u.walk here cs = .ok (here ++ names cs) ∧ t.node? (here ++ names cs) = none := by
  induction cs generalizing here with
  | nil => cases hwalk
  | cons c cs ih =>
      obtain ⟨hc, hrest⟩ := List.forall_mem_cons.mp hcs
      cases hnode : t.node? here with
      | none =>
          refine (walk_of_no_file hcs fun m content => ?_).imp_right fun hu =>
            ⟨hu, ht.node?_append hnode _⟩
          have hnone := ht.node?_append hnode m
          rcases h.node (here ++ m) with heq | ⟨-, hdir, -⟩
          · rw [heq, hnone]
            simp
          · rw [hdir]
            simp
      | some node =>
          have hsame := h.node?_eq (m := here) (by rw [hnode]; simp)
          rw [hnode] at hsame
          cases node with
          | file content =>
              rw [walk, hnode] at hwalk
              cases hwalk
          | directory =>
              simp only [walk, hnode] at hwalk
              simp only [walk, hsame]
              by_cases hdot : c = "."
              · subst hdot
                exact ih hrest hwalk
              · rw [if_neg hdot, if_neg hc.1, if_neg hc.2] at hwalk ⊢
                rw [append_names hdot]
                exact ih hrest hwalk

theorem of_readText_notFound {p : Path} (h : t.readText p = .error .notFound) :
    t.resolve p = .error .notFound ∨ ∃ l, t.resolve p = .ok l ∧ t.node? l = none := by
  rw [readText] at h
  split at h
  next e hread =>
    obtain rfl := Except.error.inj h
    rw [read] at hread
    split at hread
    next e hl =>
      obtain rfl := Except.error.inj hread
      exact .inl hl
    next l hl =>
      split at hread
      next hnode => exact .inr ⟨l, hl, hnode⟩
      next => cases hread
      next => split at hread <;> cases hread
  next => split at h <;> cases h

theorem Grown.resolve_of_notFound (ht : t.IsTree) (h : Grown n t u) {p : Path}
    (hp : IsPlain p.components) (hl : t.resolve p = .error .notFound) :
    u.resolve p = .error .notFound ∨
      u.resolve p = .ok (t.origin p ++ names p.components) ∧
        t.node? (t.origin p ++ names p.components) = none := by
  rw [FileTree.resolve] at hl ⊢
  rw [h.working]
  split at hl
  next => cases hl
  next hnul =>
    rw [if_neg hnul]
    split at hl
    next hempty => exact .inl (if_pos hempty)
    next hempty =>
      rw [if_neg hempty]
      split at hl
      next => cases hl
      next hlimit =>
        rw [if_neg hlimit]
        exact h.walk_of_notFound ht hp hl

/-- A missing file at a plain path is still missing when shorter locations have directories. -/
theorem Grown.readText_of_notFound (ht : t.IsTree) {p : Path} (h : Grown n t u)
    (hp : IsPlain p.components) (hn : n ≤ (t.origin p ++ names p.components).length)
    (htext : t.readText p = .error .notFound) : u.readText p = .error .notFound := by
  -- at the location of the path there is nothing, before as after
  have hplace : t.node? (t.origin p ++ names p.components) = none →
      u.node? (t.origin p ++ names p.components) = none := by
    intro hnone
    rcases h.node (t.origin p ++ names p.components) with heq | ⟨-, -, hlength⟩
    · rw [heq, hnone]
    · omega
  have hresolve : u.resolve p = .error .notFound ∨
      u.resolve p = .ok (t.origin p ++ names p.components) ∧
        t.node? (t.origin p ++ names p.components) = none := by
    rcases of_readText_notFound htext with hl | ⟨l, hl, hnode⟩
    · exact h.resolve_of_notFound ht hp hl
    · obtain rfl := walk_plain hp (of_resolve hl).2
      exact .inr ⟨h.resolve hl, hnode⟩
  have hread : u.read p = .error .notFound := by
    rw [read]
    rcases hresolve with herror | ⟨hl, hnone⟩
    · rw [herror]
    · simp only [hl, hplace hnone]
  rw [readText, hread]

theorem Grown.readText_of_ok (h : Grown n t u) {p : Path} {text : String}
    (htext : t.readText p = .ok text) : u.readText p = .ok text := by
  have hread : u.read p = t.read p := by
    rw [read, read]
    cases hl : t.resolve p with
    | error e =>
        rw [readText, read, hl] at htext
        cases htext
    | ok l =>
        have hnode : t.node? l ≠ none := by
          intro hnone
          simp [readText, read, hl, hnone] at htext
        rw [h.resolve hl]
        simp only [h.node?_eq hnode]
  rw [readText, hread]
  exact htext

end SessionKeeper.FileTree
