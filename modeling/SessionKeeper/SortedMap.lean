/-!
# Sorted maps

A finite map as the list of its bindings in ascending order of the keys. Each map has one such list,
so equal maps are equal values.
-/

namespace SessionKeeper

/-- Bindings whose keys ascend. -/
structure SortedMap (κ ν : Type) [Ord κ] where
  toList : List (κ × ν)
  ascending : toList.Pairwise fun a b => compare a.1 b.1 = .lt

namespace SortedMap

variable {κ ν : Type} [Ord κ]

@[ext] theorem ext {m n : SortedMap κ ν} (h : m.toList = n.toList) : m = n := by
  cases m
  cases n
  cases h
  rfl

instance [DecidableEq κ] [DecidableEq ν] : DecidableEq (SortedMap κ ν) := fun m n =>
  decidable_of_iff (m.toList = n.toList) ⟨ext, fun h => h ▸ rfl⟩

/-- The map without bindings. -/
def empty : SortedMap κ ν :=
  ⟨[], List.Pairwise.nil⟩

instance : Inhabited (SortedMap κ ν) := ⟨empty⟩

/-- The number of bindings. -/
def size (m : SortedMap κ ν) : Nat :=
  m.toList.length

/-- The value bound to a key in a list of bindings. -/
def lookup (k : κ) : List (κ × ν) → Option ν
  | [] => none
  | (l, v) :: rest => if compare k l = .eq then some v else lookup k rest

/-- The value bound to a key. -/
def get? (m : SortedMap κ ν) (k : κ) : Option ν :=
  lookup k m.toList

/-- Whether a key is bound. -/
def contains (m : SortedMap κ ν) (k : κ) : Bool :=
  (m.get? k).isSome

/-- Puts a binding in its place in a list of bindings, over one of the same key. -/
def put (k : κ) (v : ν) : List (κ × ν) → List (κ × ν)
  | [] => [(k, v)]
  | (l, w) :: rest =>
    match compare k l with
    | .lt => (k, v) :: (l, w) :: rest
    | .eq => (k, v) :: rest
    | .gt => (l, w) :: put k v rest

theorem forall_mem_put {p : κ × ν → Prop} {k : κ} {v : ν} {bs : List (κ × ν)} (hk : p (k, v))
    (hb : ∀ b ∈ bs, p b) : ∀ b ∈ put k v bs, p b := by
  induction bs with
  | nil => simpa [put] using hk
  | cons b rest ih =>
    obtain ⟨l, w⟩ := b
    rw [List.forall_mem_cons] at hb
    simp only [put]
    cases compare k l with
    | lt => exact List.forall_mem_cons.2 ⟨hk, List.forall_mem_cons.2 hb⟩
    | eq => exact List.forall_mem_cons.2 ⟨hk, hb.2⟩
    | gt => exact List.forall_mem_cons.2 ⟨hb.1, ih hb.2⟩

theorem ascending_put [Std.TransOrd κ] [Std.LawfulEqOrd κ] (k : κ) (v : ν) {bs : List (κ × ν)}
    (h : bs.Pairwise fun a b => compare a.1 b.1 = .lt) :
    (put k v bs).Pairwise fun a b => compare a.1 b.1 = .lt := by
  induction bs with
  | nil => simp [put]
  | cons b rest ih =>
    obtain ⟨l, w⟩ := b
    rw [List.pairwise_cons] at h
    simp only [put]
    cases hc : compare k l with
    | lt =>
      refine List.Pairwise.cons ?_ (List.Pairwise.cons h.1 h.2)
      intro c hmem
      cases hmem with
      | head => exact hc
      | tail _ hmem => exact Std.TransCmp.lt_trans hc (h.1 c hmem)
    | eq =>
      have hkl : k = l := Std.LawfulEqOrd.eq_of_compare hc
      subst hkl
      exact List.Pairwise.cons h.1 h.2
    | gt =>
      refine List.Pairwise.cons ?_ (ih h.2)
      exact forall_mem_put (Std.OrientedCmp.lt_of_gt hc) h.1

/-- The map with one more binding, or with another value for a key. -/
def insert [Std.TransOrd κ] [Std.LawfulEqOrd κ] (m : SortedMap κ ν) (k : κ) (v : ν) :
    SortedMap κ ν :=
  ⟨put k v m.toList, ascending_put k v m.ascending⟩

/-- The map without the bindings whose keys satisfy `p`. -/
def eraseAll (m : SortedMap κ ν) (p : κ → Bool) : SortedMap κ ν :=
  ⟨m.toList.filter fun b => !p b.1, m.ascending.sublist List.filter_sublist⟩

/-- The map without a key. -/
def erase (m : SortedMap κ ν) (k : κ) : SortedMap κ ν :=
  m.eraseAll fun l => compare k l == .eq

/-- The map of a list of bindings, of equal keys the last. -/
def ofList [Std.TransOrd κ] [Std.LawfulEqOrd κ] (bs : List (κ × ν)) : SortedMap κ ν :=
  bs.foldl (fun m b => m.insert b.1 b.2) empty

end SortedMap

end SessionKeeper
