import Mathlib.Data.List.Forall2
import SessionKeeper.Url.Address

/-!
# Pieces between separators

A text without the separator is a single piece. Any other has its first separator behind a first
piece, and what follows it is split in the same way.
-/

namespace SessionKeeper.Url

variable {separator : Char} {cs ds : List Char}

theorem splitOn_ne_nil (separator : Char) (cs : List Char) : splitOn separator cs ≠ [] := by
  cases cs with
  | nil => simp [splitOn]
  | cons c cs =>
      rw [splitOn]
      split
      next => simp
      next => split <;> simp

theorem splitOn_cons_self (separator : Char) (cs : List Char) :
    splitOn separator (separator :: cs) = [] :: splitOn separator cs := by
  rw [splitOn]
  split
  next hnil => exact absurd hnil (splitOn_ne_nil separator cs)
  next piece pieces hsplit => rw [if_pos rfl, hsplit]

theorem splitOn_cons_of_ne {c : Char} (hc : c ≠ separator) {piece : List Char}
    {pieces : List (List Char)} (h : splitOn separator cs = piece :: pieces) :
    splitOn separator (c :: cs) = (c :: piece) :: pieces := by
  rw [splitOn, h]
  exact if_neg hc

/-- A text without the separator is one piece. -/
theorem splitOn_of_not_mem (h : separator ∉ cs) : splitOn separator cs = [cs] := by
  induction cs with
  | nil => rfl
  | cons c cs ih =>
      obtain ⟨hc, hcs⟩ := not_or.mp (mt List.mem_cons.mpr h)
      exact splitOn_cons_of_ne (Ne.symm hc) (ih hcs)

/-- What stands before the first separator is the first piece. -/
theorem splitOn_append (h : separator ∉ cs) (ds : List Char) :
    splitOn separator (cs ++ separator :: ds) = cs :: splitOn separator ds := by
  induction cs with
  | nil => exact splitOn_cons_self separator ds
  | cons c cs ih =>
      obtain ⟨hc, hcs⟩ := not_or.mp (mt List.mem_cons.mpr h)
      exact splitOn_cons_of_ne (Ne.symm hc) (ih hcs)

/-- Splitting finds the first separator, if there is one. -/
theorem splitOn_cases (separator : Char) (cs : List Char) :
    separator ∉ cs ∧ splitOn separator cs = [cs] ∨
      ∃ front rest, separator ∉ front ∧ cs = front ++ separator :: rest ∧
        splitOn separator cs = front :: splitOn separator rest := by
  by_cases h : separator ∈ cs
  · obtain ⟨front, rest, rfl, hfront⟩ := List.eq_append_cons_of_mem h
    exact .inr ⟨front, rest, hfront, rfl, splitOn_append hfront rest⟩
  · exact .inl ⟨h, splitOn_of_not_mem h⟩

/-- A separator at the end leaves an empty piece behind it. -/
theorem splitOn_concat (separator : Char) (cs : List Char) :
    splitOn separator (cs ++ [separator]) = splitOn separator cs ++ [[]] := by
  induction cs with
  | nil => rw [List.nil_append, splitOn_cons_self]; rfl
  | cons c cs ih =>
      rw [List.cons_append]
      by_cases hc : c = separator
      · subst hc
        rw [splitOn_cons_self, splitOn_cons_self, ih]
        rfl
      · obtain ⟨piece, pieces, hsplit⟩ := List.exists_cons_of_ne_nil (splitOn_ne_nil separator cs)
        rw [splitOn_cons_of_ne hc hsplit, splitOn_cons_of_ne hc (ih.trans (by rw [hsplit]; rfl))]
        rfl

theorem mem_of_mem_splitOn {piece : List Char} (h : piece ∈ splitOn separator cs) {c : Char}
    (hc : c ∈ piece) : c ∈ cs := by
  induction cs generalizing piece with
  | nil =>
      rw [List.mem_singleton.mp h] at hc
      exact hc
  | cons d cs ih =>
      obtain ⟨first, rest, hsplit⟩ := List.exists_cons_of_ne_nil (splitOn_ne_nil separator cs)
      rw [hsplit] at ih
      by_cases hd : d = separator
      · subst hd
        rw [splitOn_cons_self, hsplit] at h
        rcases List.mem_cons.mp h with rfl | hrest
        · cases hc
        · exact List.mem_cons_of_mem _ (ih hrest hc)
      · rw [splitOn_cons_of_ne hd hsplit] at h
        rcases List.mem_cons.mp h with rfl | hrest
        · rcases List.mem_cons.mp hc with rfl | hc
          · exact List.mem_cons_self
          · exact List.mem_cons_of_mem _ (ih List.mem_cons_self hc)
        · exact List.mem_cons_of_mem _ (ih (List.mem_cons_of_mem _ hrest) hc)

/-- Pieces that are read one by one. -/
theorem mapM_eq_some_iff {α β : Type} {f : α → Option β} {as : List α} {bs : List β} :
    as.mapM f = some bs ↔ List.Forall₂ (fun a b => f a = some b) as bs := by
  induction as generalizing bs with
  | nil =>
      rw [List.mapM_nil, List.forall₂_nil_left_iff, eq_comm]
      exact Option.some_inj
  | cons a as ih =>
      simp only [List.mapM_cons, Option.pure_def, Option.bind_eq_bind, Option.bind_eq_some_iff,
        Option.some.injEq, List.forall₂_cons_left_iff, ih]
      constructor
      · rintro ⟨b, hb, bs', hbs, rfl⟩
        exact ⟨b, bs', hb, hbs, rfl⟩
      · rintro ⟨b, bs', hb, hbs, rfl⟩
        exact ⟨b, hb, bs', hbs, rfl⟩

theorem exists_of_mem_mapM {α β : Type} {f : α → Option β} {as : List α} {bs : List β} {b : β}
    (h : as.mapM f = some bs) (hb : b ∈ bs) : ∃ a ∈ as, f a = some b := by
  rw [mapM_eq_some_iff] at h
  induction h with
  | nil => cases hb
  | cons hread _ ih =>
      rcases List.mem_cons.mp hb with rfl | hlater
      · exact ⟨_, List.mem_cons_self, hread⟩
      · obtain ⟨a, ha, hfound⟩ := ih hlater
        exact ⟨a, List.mem_cons_of_mem _ ha, hfound⟩

end SessionKeeper.Url
