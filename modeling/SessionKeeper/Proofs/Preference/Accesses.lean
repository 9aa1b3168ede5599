import Mathlib.Data.List.Nodup

/-!
# Toggles that build on each other

A toggle reads the mode and later writes the other one. How many flips the stored mode builds on can
be counted from the order of the reads and writes alone: a toggle adds one to the flips it found,
however many were added since. So a flip is lost as soon as one toggle writes between the read and
the write of another.
-/

namespace SessionKeeper.Preference

/-- What a toggle does to the store: it reads the mode, and later writes the other one. -/
inductive Access
  | read (toggle : Nat)
  | write (toggle : Nat)
  deriving DecidableEq, Repr

/-- The toggle that reads or writes. -/
def Access.toggle : Access → Nat
  | .read i => i
  | .write i => i

/-- How many flips the stored mode builds on, and how many the mode that each toggle has read. -/
structure Flips where
  stored : Nat
  found : Nat → Nat

/-- The flips after an access. -/
def Flips.after (f : Flips) : Access → Flips
  | .read i => { f with found := fun j => if j = i then f.stored else f.found j }
  | .write i => { f with stored := f.found i + 1 }

/-- The flips after some accesses. -/
def flips (accesses : List Access) : Flips :=
  accesses.foldl Flips.after ⟨0, fun _ => 0⟩

/-- The toggles that have written, in the order of their writes. -/
def writers (accesses : List Access) : List Nat :=
  accesses.filterMap fun
    | .read _ => none
    | .write i => some i

/-- One toggle wrote between the read and the write of another. -/
def Overtaken (accesses : List Access) : Prop :=
  ∃ i j, [.read i, .write j, .write i].Sublist accesses

/-- Each toggle reads once, and writes once after that. -/
inductive Regular : List Access → Prop
  | nil : Regular []
  | read {accesses : List Access} {i : Nat} (h : Regular accesses) (hread : .read i ∉ accesses)
      (hwrite : .write i ∉ accesses) : Regular (accesses ++ [.read i])
  | write {accesses : List Access} {i : Nat} (h : Regular accesses) (hread : .read i ∈ accesses)
      (hwrite : .write i ∉ accesses) : Regular (accesses ++ [.write i])

variable {accesses : List Access} {i j : Nat}

/-! ## One more access -/

theorem flips_append_read (accesses : List Access) (i : Nat) :
    flips (accesses ++ [.read i]) =
      ⟨(flips accesses).stored,
        fun j => if j = i then (flips accesses).stored else (flips accesses).found j⟩ := by
  rw [flips, List.foldl_append]
  rfl

theorem flips_append_write (accesses : List Access) (i : Nat) :
    flips (accesses ++ [.write i]) =
      ⟨(flips accesses).found i + 1, (flips accesses).found⟩ := by
  rw [flips, List.foldl_append]
  rfl

/-- What a toggle has found is not changed by others. -/
theorem found_append_of_ne {access : Access} (h : access.toggle ≠ j) :
    (flips (accesses ++ [access])).found j = (flips accesses).found j := by
  cases access with
  | read i =>
      rw [flips_append_read]
      exact if_neg (Ne.symm h)
  | write i => rw [flips_append_write]

@[simp] theorem writers_append_read (accesses : List Access) (i : Nat) :
    writers (accesses ++ [.read i]) = writers accesses := by
  simp [writers]

@[simp] theorem writers_append_write (accesses : List Access) (i : Nat) :
    writers (accesses ++ [.write i]) = writers accesses ++ [i] := by
  simp [writers]

@[simp] theorem mem_writers : i ∈ writers accesses ↔ .write i ∈ accesses := by
  rw [writers, List.mem_filterMap]
  constructor
  · rintro ⟨access, hmem, haccess⟩
    cases access with
    | read => cases haccess
    | write => cases haccess; exact hmem
  · exact fun hmem => ⟨.write i, hmem, rfl⟩

theorem Regular.nodup_writers (h : Regular accesses) : (writers accesses).Nodup := by
  induction h with
  | nil => exact List.nodup_nil
  | read _ _ _ ih => rwa [writers_append_read]
  | write _ _ hwrite ih =>
      rw [writers_append_write, ← List.concat_eq_append, List.nodup_concat]
      exact ⟨fun hmem => hwrite (mem_writers.mp hmem), ih⟩

/-- A part of a list that goes on with one more access is a part of the list before, or ends with
that access. -/
theorem sublist_append_singleton (first : List Access) (last next : Access) :
    (first ++ [last]).Sublist (accesses ++ [next]) ↔
      (first ++ [last]).Sublist accesses ∨ last = next ∧ first.Sublist accesses := by
  have hbefore : (first ++ [last]).Sublist accesses ↔
      (last :: first.reverse).Sublist accesses.reverse := by
    rw [← List.reverse_sublist, List.reverse_append]
    rfl
  have hafter : (first ++ [last]).Sublist (accesses ++ [next]) ↔
      (last :: first.reverse).Sublist (next :: accesses.reverse) := by
    rw [← List.reverse_sublist, List.reverse_append, List.reverse_append]
    rfl
  rw [hafter, hbefore, List.sublist_cons_iff]
  refine or_congr_right ⟨?_, ?_⟩
  · rintro ⟨rest, hrest, hsub⟩
    cases hrest
    exact ⟨rfl, List.reverse_sublist.mp hsub⟩
  · rintro ⟨rfl, hsub⟩
    exact ⟨_, rfl, List.reverse_sublist.mpr hsub⟩

theorem overtaken_append_read : Overtaken (accesses ++ [.read i]) ↔ Overtaken accesses :=
  exists_congr fun a => exists_congr fun b =>
    (sublist_append_singleton [.read a, .write b] (.write a) (.read i)).trans (by simp)

theorem overtaken_append_write : Overtaken (accesses ++ [.write i]) ↔
    Overtaken accesses ∨ ∃ j, [.read i, .write j].Sublist accesses := by
  have hstep (a b : Nat) : [.read a, .write b, .write a].Sublist (accesses ++ [.write i]) ↔
      [.read a, .write b, .write a].Sublist accesses ∨
        a = i ∧ [.read a, .write b].Sublist accesses :=
    (sublist_append_singleton [.read a, .write b] (.write a) (.write i)).trans (by simp)
  simp only [Overtaken, hstep]
  constructor
  · rintro ⟨a, b, hsub | ⟨rfl, hsub⟩⟩
    · exact .inl ⟨a, b, hsub⟩
    · exact .inr ⟨b, hsub⟩
  · rintro (⟨a, b, hsub⟩ | ⟨b, hsub⟩)
    · exact ⟨a, b, .inl hsub⟩
    · exact ⟨i, b, .inr ⟨rfl, hsub⟩⟩

/-! ## Counting -/

/-- Flips are counted as long as no toggle was overtaken, and lost otherwise. A toggle that has not
written yet will add to those it found, which are all flips as long as nobody else wrote. -/
structure Counted (accesses : List Access) : Prop where
  stored_le : (flips accesses).stored ≤ (writers accesses).length
  stored_eq_iff : (flips accesses).stored = (writers accesses).length ↔ ¬Overtaken accesses
  found_le : ∀ i, .read i ∈ accesses → .write i ∉ accesses →
    (flips accesses).found i ≤ (writers accesses).length
  found_eq_iff : ∀ i, .read i ∈ accesses → .write i ∉ accesses →
    ((flips accesses).found i = (writers accesses).length ↔
      ¬Overtaken accesses ∧ ∀ j, ¬[.read i, .write j].Sublist accesses)

namespace Counted

theorem read (h : Counted accesses) (hread : .read i ∉ accesses) :
    Counted (accesses ++ [.read i]) where
  stored_le := by
    rw [flips_append_read, writers_append_read]
    exact h.stored_le
  stored_eq_iff := by
    rw [flips_append_read, writers_append_read, overtaken_append_read]
    exact h.stored_eq_iff
  found_le := by
    intro j hj hwrite
    rw [flips_append_read, writers_append_read]
    dsimp only
    split
    next => exact h.stored_le
    next hne =>
      refine h.found_le j ?_ fun hmem => hwrite (List.mem_append_left _ hmem)
      simpa [hne] using hj
  found_eq_iff := by
    intro j hj hwrite
    have hsub (k : Nat) : [.read j, .write k].Sublist (accesses ++ [.read i]) ↔
        [.read j, .write k].Sublist accesses :=
      (sublist_append_singleton [.read j] (.write k) (.read i)).trans (by simp)
    rw [flips_append_read, writers_append_read, overtaken_append_read]
    simp only [hsub]
    split
    next heq =>
      subst heq
      have hfirst (k : Nat) : ¬[.read j, .write k].Sublist accesses := fun hmem =>
        hread (hmem.subset List.mem_cons_self)
      simpa [hfirst] using h.stored_eq_iff
    next hne =>
      refine h.found_eq_iff j ?_ fun hmem => hwrite (List.mem_append_left _ hmem)
      simpa [hne] using hj

theorem write (h : Counted accesses) (hread : .read i ∈ accesses) (hwrite : .write i ∉ accesses) :
    Counted (accesses ++ [.write i]) where
  stored_le := by
    rw [flips_append_write, writers_append_write, List.length_append]
    exact Nat.succ_le_succ (h.found_le i hread hwrite)
  stored_eq_iff := by
    rw [flips_append_write, writers_append_write, List.length_append, overtaken_append_write,
      not_or, not_exists]
    exact Nat.succ_inj.trans (h.found_eq_iff i hread hwrite)
  found_le := by
    intro j hj hnone
    rw [flips_append_write, writers_append_write, List.length_append]
    exact Nat.le_succ_of_le (h.found_le j (by simpa using hj)
      fun hmem => hnone (List.mem_append_left _ hmem))
  found_eq_iff := by
    intro j hj hnone
    have hread' : .read j ∈ accesses := by simpa using hj
    have hle := h.found_le j hread' fun hmem => hnone (List.mem_append_left _ hmem)
    rw [flips_append_write, writers_append_write, List.length_append]
    -- the flip that was just written came too late for whoever has read before
    have hsub : [.read j, .write i].Sublist (accesses ++ [.write i]) :=
      (List.singleton_sublist.mpr hread').append (.refl _)
    exact iff_of_false (Nat.ne_of_lt (Nat.lt_succ_of_le hle)) fun hnever => hnever.2 i hsub

end Counted

theorem Regular.counted (h : Regular accesses) : Counted accesses := by
  induction h with
  | nil => exact ⟨Nat.le_refl _, iff_of_true rfl (by simp [Overtaken]), nofun, nofun⟩
  | read _ hread _ ih => exact ih.read hread
  | write _ hread hwrite ih => exact ih.write hread hwrite

end SessionKeeper.Preference
