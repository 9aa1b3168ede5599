import SessionKeeper.Proofs.FileTree.Walk

/-!
# Making the directories above a path

However a path runs, with double dots or through names that are too long, making its directory does
nothing but put directories where nothing was, and each of them where the path or one above it leads
to afterwards.
-/

namespace SessionKeeper

/-- The first path is the directory of the second, or further up. -/
inductive Path.Above : Path → Path → Prop
  | parent {p q : Path} (h : p.parent? = some q) : Above q p
  | further {p q r : Path} (h : Above q p) (hq : q.parent? = some r) : Above r p

theorem Path.Above.of_parent {p q r : Path} (h : Above r q) (hp : p.parent? = some q) :
    Above r p := by
  induction h with
  | parent hq => exact .further (.parent hp) hq
  | further _ hr ih => exact .further (ih hp) hr

namespace FileTree

/-- The second tree has new directories, where certain paths lead, and is otherwise the first. -/
structure Sprouted (P : Path → Prop) (t u : FileTree) : Prop where
  working : u.working = t.working
  node : ∀ m, u.node? m = t.node? m ∨
    t.node? m = none ∧ u.node? m = some .directory ∧ ∃ q, P q ∧ u.resolve q = .ok m

variable {P Q : Path → Prop} {t u v : FileTree}

theorem Sprouted.refl (P : Path → Prop) (t : FileTree) : Sprouted P t t :=
  ⟨rfl, fun _ => .inl rfl⟩

theorem Sprouted.mono (h : Sprouted P t u) (hPQ : ∀ q, P q → Q q) : Sprouted Q t u :=
  ⟨h.working, fun m => (h.node m).imp_right fun ⟨hnone, hdir, q, hq, hm⟩ =>
    ⟨hnone, hdir, q, hPQ q hq, hm⟩⟩

theorem Sprouted.node?_eq (h : Sprouted P t u) {m : Location} (hm : t.node? m ≠ none) :
    u.node? m = t.node? m :=
  (h.node m).resolve_right fun hnew => hm hnew.1

theorem Sprouted.resolve (h : Sprouted P t u) {p : Path} {l : Location}
    (hl : t.resolve p = .ok l) : u.resolve p = .ok l :=
  resolve_of_directories h.working (fun m hm => by rw [h.node?_eq (by rw [hm]; simp), hm]) hl

theorem Sprouted.trans (h : Sprouted P t u) (h' : Sprouted P u v) : Sprouted P t v := by
  refine ⟨h'.working.trans h.working, fun m => ?_⟩
  rcases h'.node m with heq | ⟨hnone, hdir, hnew⟩
  · rw [heq]
    exact (h.node m).imp_right fun ⟨hnone, hdir, q, hq, hm⟩ =>
      ⟨hnone, hdir, q, hq, h'.resolve hm⟩
  · rcases h.node m with heq | ⟨-, hdir', -⟩
    · exact .inr ⟨heq ▸ hnone, hdir, hnew⟩
    · rw [hnone] at hdir'
      cases hdir'

theorem sprouted_makeDirectory {p : Path} (hp : P p) (h : t.makeDirectory p = .ok u) :
    Sprouted P t u := by
  rw [makeDirectory] at h
  split at h
  next => cases h
  next l hl =>
    split at h
    next => cases h
    next hnode =>
      obtain rfl := Except.ok.inj h
      have hroot : l ≠ [] := ne_root_of_node? (t := t) (by simp [hnode])
      have hstay (m : Location) (hm : t.node? m = some .directory) :
          (t.put l .directory).node? m = some .directory := by
        rw [node?_put_of_ne t (by rintro rfl; simp [hnode] at hm), hm]
      refine ⟨rfl, fun m => ?_⟩
      by_cases hm : m = l
      · subst hm
        have hlead : (t.put m .directory).resolve p = .ok m :=
          resolve_of_directories (t := t) (u := t.put m .directory) rfl hstay hl
        exact .inr ⟨hnode, t.node?_put_self hroot _, p, hp, hlead⟩
      · exact .inl (t.node?_put_of_ne hm _)

theorem sprouted_ensureDirectory {p : Path} (hp : P p) : Sprouted P t (t.ensureDirectory p).2 := by
  rw [ensureDirectory]
  split
  next u hu => exact sprouted_makeDirectory hp hu
  next => exact .refl P t

/-- Whether making a directory succeeds or not, all that is new are directories at the path and
above it. -/
theorem sprouted_ensureDirectoriesWithin (fuel : Nat) (t : FileTree) (p : Path) :
    Sprouted (fun q => q = p ∨ q.Above p) t (ensureDirectoriesWithin fuel t p).2 := by
  -- by induction on the fuel: what is above the parent is above the path
  induction fuel generalizing p with
  | zero => exact .refl _ t
  | succ fuel ih =>
      rw [ensureDirectoriesWithin]
      split
      next => exact .refl _ t
      next =>
        split
        next u hu => exact sprouted_makeDirectory (.inl rfl) hu
        next =>
          split
          next => exact .refl _ t
          next parent hparent =>
            have habove : Sprouted (fun q => q = p ∨ q.Above p) t
                (ensureDirectoriesWithin fuel t parent).2 := by
              refine (ih parent).mono fun q hq => .inr ?_
              rcases hq with rfl | hq
              · exact .parent hparent
              · exact hq.of_parent hparent
            split
            next e u hu => rwa [hu] at habove
            next u hu =>
              rw [hu] at habove
              exact habove.trans (sprouted_ensureDirectory (.inl rfl))
        next => exact .refl _ t

/-- Making the directory of a path puts new directories above it only. -/
theorem sprouted_ensureDirectories (t : FileTree) {p parent : Path}
    (hparent : p.parent? = some parent) :
    Sprouted (·.Above p) t (t.ensureDirectories parent).2 := by
  refine (sprouted_ensureDirectoriesWithin _ t parent).mono fun q hq => ?_
  rcases hq with rfl | hq
  · exact .parent hparent
  · exact hq.of_parent hparent

end FileTree

end SessionKeeper
