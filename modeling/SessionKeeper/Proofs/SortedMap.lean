import Mathlib.Data.List.Forall2
import SessionKeeper.SortedMap

/-!
# Laws of sorted maps

What maps with the same keys have in common, what is found in a map after an insertion or a removal,
and how a map is put together again from its own bindings.
-/

namespace SessionKeeper.SortedMap

variable {κ ν : Type} [Ord κ]

/-! ## Maps with the same keys -/

/-- Maps with the same keys and related values under each of them. -/
def Alike (R : κ → ν → ν → Prop) (m n : SortedMap κ ν) : Prop :=
  List.Forall₂ (fun b c => b.1 = c.1 ∧ R b.1 b.2 c.2) m.toList n.toList

section

variable {R : κ → ν → ν → Prop} {m n : SortedMap κ ν}

theorem Alike.refl (h : ∀ k v, R k v v) (m : SortedMap κ ν) : m.Alike R m :=
  List.forall₂_same.mpr fun b _ => ⟨rfl, h b.1 b.2⟩

theorem Alike.size_eq (h : m.Alike R n) : m.size = n.size :=
  List.Forall₂.length_eq h

theorem Alike.erase (h : m.Alike R n) (k : κ) : (m.erase k).Alike R (n.erase k) :=
  List.rel_filter (fun b c hbc => by simp only [hbc.1]) h

theorem Alike.get? [Std.LawfulEqOrd κ] (h : m.Alike R n) (k : κ) :
    Option.Rel (R k) (m.get? k) (n.get? k) := by
  obtain ⟨bs, hbs⟩ := m
  obtain ⟨cs, hcs⟩ := n
  change List.Forall₂ _ bs cs at h
  change Option.Rel (R k) (lookup k bs) (lookup k cs)
  clear hbs hcs
  induction h with
  | nil => exact .none
  | @cons b c bs cs hbc _ ih =>
      obtain ⟨l, v⟩ := b
      obtain ⟨_, w⟩ := c
      obtain ⟨rfl, hvw⟩ := hbc
      rw [lookup, lookup]
      split
      next hk => exact .some (Std.LawfulEqOrd.eq_of_compare hk ▸ hvw)
      next => exact ih

theorem Alike.contains_eq [Std.LawfulEqOrd κ] (h : m.Alike R n) (k : κ) :
    m.contains k = n.contains k := by
  have hget := h.get? k
  rw [contains, contains]
  generalize m.get? k = v at hget ⊢
  generalize n.get? k = w at hget ⊢
  cases hget <;> rfl

theorem Alike.insert [Std.TransOrd κ] [Std.LawfulEqOrd κ] (h : m.Alike R n) {k : κ} {v w : ν}
    (hvw : R k v w) : (m.insert k v).Alike R (n.insert k w) := by
  obtain ⟨bs, hbs⟩ := m
  obtain ⟨cs, hcs⟩ := n
  change List.Forall₂ _ bs cs at h
  change List.Forall₂ _ (put k v bs) (put k w cs)
  clear hbs hcs
  induction h with
  | nil => exact .cons ⟨rfl, hvw⟩ .nil
  | @cons b c bs cs hbc hrest ih =>
      obtain ⟨l, x⟩ := b
      obtain ⟨_, y⟩ := c
      obtain ⟨rfl, hxy⟩ := hbc
      rw [put, put]
      cases compare k l with
      | lt => exact .cons ⟨rfl, hvw⟩ (.cons ⟨rfl, hxy⟩ hrest)
      | eq => exact .cons ⟨rfl, hvw⟩ hrest
      | gt => exact .cons ⟨rfl, hxy⟩ ih

end

/-! ## Lists of bindings -/

/-- A binding whose key is greater than all others goes to the end. -/
theorem put_eq_append [Std.TransOrd κ] {k : κ} {bs : List (κ × ν)}
    (h : ∀ b ∈ bs, compare b.1 k = .lt) (v : ν) : put k v bs = bs ++ [(k, v)] := by
  induction bs with
  | nil => rfl
  | cons b rest ih =>
      obtain ⟨l, w⟩ := b
      have hkl : compare k l = .gt :=
        Std.OrientedCmp.gt_of_lt (h (l, w) List.mem_cons_self)
      rw [put, hkl, List.cons_append, ih fun c hc => h c (List.mem_cons_of_mem _ hc)]

theorem ne_of_lookup_eq_none {k : κ} {bs : List (κ × ν)} (h : lookup k bs = none) :
    ∀ b ∈ bs, compare k b.1 ≠ .eq := by
  induction bs with
  | nil => exact nofun
  | cons b rest ih =>
      obtain ⟨l, v⟩ := b
      rw [lookup] at h
      split at h
      next => cases h
      next hne => exact List.forall_mem_cons.mpr ⟨hne, ih h⟩

/-- Nothing is found in front of all keys. -/
theorem lookup_eq_none_of_lt {k : κ} {bs : List (κ × ν)} (h : ∀ b ∈ bs, compare k b.1 = .lt) :
    lookup k bs = none := by
  induction bs with
  | nil => rfl
  | cons b rest ih =>
      obtain ⟨l, v⟩ := b
      obtain ⟨hl, hrest⟩ := List.forall_mem_cons.mp h
      rw [lookup, hl, if_neg (by decide)]
      exact ih hrest

/-- There is nothing to remove where nothing is found. -/
theorem erase_of_get?_eq_none {m : SortedMap κ ν} {k : κ} (h : m.get? k = none) : m.erase k = m :=
  ext (List.filter_eq_self.mpr fun b hb => by simp [ne_of_lookup_eq_none h b hb])

variable [Std.LawfulEqOrd κ]

theorem lookup_put_self (k : κ) (v : ν) (bs : List (κ × ν)) : lookup k (put k v bs) = some v := by
  induction bs with
  | nil => simp [put, lookup]
  | cons b rest ih =>
      obtain ⟨l, w⟩ := b
      cases h : compare k l <;> simp [put, lookup, h, ih]

theorem lookup_put_of_ne {k l : κ} (h : l ≠ k) (v : ν) (bs : List (κ × ν)) :
    lookup l (put k v bs) = lookup l bs := by
  have hlk : compare l k ≠ .eq := fun heq => h (Std.LawfulEqOrd.eq_of_compare heq)
  induction bs with
  | nil => simp [put, lookup, hlk]
  | cons b rest ih =>
      obtain ⟨m, w⟩ := b
      cases hkm : compare k m with
      | lt => simp [put, lookup, hkm, hlk]
      | eq =>
          have hm : k = m := Std.LawfulEqOrd.eq_of_compare hkm
          subst hm
          simp [put, lookup, hlk]
      | gt => simp [put, lookup, hkm, ih]

theorem lookup_filter (k : κ) (p : κ → Bool) (bs : List (κ × ν)) :
    lookup k (bs.filter fun b => !p b.1) = if p k then none else lookup k bs := by
  induction bs with
  | nil => simp [lookup]
  | cons b rest ih =>
      obtain ⟨l, w⟩ := b
      cases hl : p l with
      | true =>
          simp only [List.filter_cons, hl, Bool.not_true, Bool.false_eq_true, ↓reduceIte, ih,
            lookup]
          by_cases hkl : compare k l = .eq
          · rw [Std.LawfulEqOrd.eq_of_compare hkl, hl]
            simp
          · simp [hkl]
      | false =>
          simp only [List.filter_cons, hl, Bool.not_false, ↓reduceIte, lookup, ih]
          by_cases hkl : compare k l = .eq
          · rw [Std.LawfulEqOrd.eq_of_compare hkl, hl]
            simp
          · simp [hkl]

/-- Ascending bindings are determined by what is found in them. -/
theorem eq_of_lookup_eq [Std.TransOrd κ] {bs cs : List (κ × ν)}
    (hbs : bs.Pairwise fun a b => compare a.1 b.1 = .lt)
    (hcs : cs.Pairwise fun a b => compare a.1 b.1 = .lt) (h : ∀ k, lookup k bs = lookup k cs) :
    bs = cs := by
  have hfirst (k : κ) (v : ν) (rest : List (κ × ν)) : lookup k ((k, v) :: rest) = some v := by
    rw [lookup, Std.ReflOrd.compare_self, if_pos rfl]
  -- a first key that is smaller than the other first key is not found on the other side
  have hnone {k l : κ} {v : ν} {rest : List (κ × ν)} (hkl : compare k l = .lt)
      (hrest : ∀ b ∈ rest, compare l b.1 = .lt) : lookup k ((l, v) :: rest) = none :=
    lookup_eq_none_of_lt
      (List.forall_mem_cons.mpr ⟨hkl, fun b hb => Std.TransCmp.lt_trans hkl (hrest b hb)⟩)
  induction bs generalizing cs with
  | nil =>
      cases cs with
      | nil => rfl
      | cons c tail => cases (h c.1).trans (hfirst c.1 c.2 tail)
  | cons b rest ih =>
      obtain ⟨k, v⟩ := b
      obtain ⟨hk, hrest⟩ := List.pairwise_cons.mp hbs
      cases cs with
      | nil => cases (h k).symm.trans (hfirst k v rest)
      | cons c tail =>
          obtain ⟨l, w⟩ := c
          obtain ⟨hl, htail⟩ := List.pairwise_cons.mp hcs
          cases hkl : compare k l with
          | lt => cases (hfirst k v rest).symm.trans ((h k).trans (hnone hkl hl))
          | gt =>
              have hlk := Std.OrientedCmp.lt_of_gt hkl
              cases (hfirst l w tail).symm.trans ((h l).symm.trans (hnone hlk hk))
          | eq =>
              obtain rfl := Std.LawfulEqOrd.eq_of_compare hkl
              obtain rfl := Option.some.inj ((hfirst k v rest).symm.trans
                ((h k).trans (hfirst k w tail)))
              refine congrArg _ (ih hrest htail fun j => ?_)
              by_cases hj : compare j k = .eq
              · obtain rfl := Std.LawfulEqOrd.eq_of_compare hj
                rw [lookup_eq_none_of_lt hk, lookup_eq_none_of_lt hl]
              · simpa only [lookup, hj, ↓reduceIte] using h j

/-! ## Reading a map -/

theorem get?_eraseAll (m : SortedMap κ ν) (p : κ → Bool) (k : κ) :
    (m.eraseAll p).get? k = if p k then none else m.get? k :=
  lookup_filter k p m.toList

@[simp] theorem get?_erase_self (m : SortedMap κ ν) (k : κ) : (m.erase k).get? k = none := by
  rw [erase, get?_eraseAll]
  simp

theorem get?_erase_of_ne {k l : κ} (h : l ≠ k) (m : SortedMap κ ν) :
    (m.erase k).get? l = m.get? l := by
  have hkl : compare k l ≠ .eq := fun heq => h (Std.LawfulEqOrd.eq_of_compare heq).symm
  rw [erase, get?_eraseAll]
  simp [hkl]

variable [Std.TransOrd κ]

@[simp] theorem get?_insert_self (m : SortedMap κ ν) (k : κ) (v : ν) :
    (m.insert k v).get? k = some v :=
  lookup_put_self k v m.toList

theorem get?_insert_of_ne {k l : κ} (h : l ≠ k) (m : SortedMap κ ν) (v : ν) :
    (m.insert k v).get? l = m.get? l :=
  lookup_put_of_ne h v m.toList

/-- Maps are equal if the same is found in them. -/
theorem eq_of_get?_eq {m n : SortedMap κ ν} (h : ∀ k, m.get? k = n.get? k) : m = n :=
  ext (eq_of_lookup_eq m.ascending n.ascending h)

/-- What is put does not depend on what was found under its key. -/
theorem insert_congr {m n : SortedMap κ ν} {k : κ} (h : ∀ l, l ≠ k → m.get? l = n.get? l) (v : ν) :
    m.insert k v = n.insert k v := by
  refine eq_of_get?_eq fun l => ?_
  by_cases hl : l = k
  · subst hl
    rw [get?_insert_self, get?_insert_self]
  · rw [get?_insert_of_ne hl, get?_insert_of_ne hl, h l hl]

theorem insert_insert (m : SortedMap κ ν) (k : κ) (v w : ν) :
    (m.insert k v).insert k w = m.insert k w :=
  insert_congr (fun _ hl => get?_insert_of_ne hl m v) w

theorem insert_erase (m : SortedMap κ ν) (k : κ) (v : ν) :
    (m.erase k).insert k v = m.insert k v :=
  insert_congr (fun _ hl => get?_erase_of_ne hl m) v

/-- To put what is there already changes nothing. -/
theorem insert_of_get?_eq_some {m : SortedMap κ ν} {k : κ} {v : ν} (h : m.get? k = some v) :
    m.insert k v = m := by
  refine eq_of_get?_eq fun l => ?_
  by_cases hl : l = k
  · subst hl
    rw [get?_insert_self, h]
  · rw [get?_insert_of_ne hl]

/-! ## Putting a map together -/

theorem toList_foldl_insert (m : SortedMap κ ν) (bs : List (κ × ν))
    (h : (m.toList ++ bs).Pairwise fun a b => compare a.1 b.1 = .lt) :
    (bs.foldl (fun m b => m.insert b.1 b.2) m).toList = m.toList ++ bs := by
  induction bs generalizing m with
  | nil => simp
  | cons b rest ih =>
      have hb : (m.insert b.1 b.2).toList = m.toList ++ [b] := by
        apply put_eq_append
        intro a ha
        exact (List.pairwise_append.mp h).2.2 a ha b List.mem_cons_self
      rw [List.foldl_cons, ih, hb, List.append_assoc, List.singleton_append]
      rw [hb, List.append_assoc, List.singleton_append]
      exact h

/-- The bindings of a map, put into the empty map one after another, give the map. -/
theorem ofList_toList (m : SortedMap κ ν) : ofList m.toList = m := by
  apply ext
  exact toList_foldl_insert empty m.toList (by simpa [empty] using m.ascending)

end SessionKeeper.SortedMap
