import SessionKeeper.Text.Boundary

/-!
# Beginnings of a text

What is taken of a text by the number of its bytes is a beginning of it, with at most that many
bytes, and the longest such. A boundary is where a beginning of the text ends, which is to say where
its bytes can be divided. Since no character takes more than four bytes, one of any four places in a
row is a boundary.
-/

namespace SessionKeeper.Text

theorem utf8ByteSize_ofList (cs : List Char) : (String.ofList cs).utf8ByteSize = size cs := by
  induction cs with
  | nil => simp
  | cons c cs ih =>
      rw [String.ofList_cons, String.utf8ByteSize_append, String.utf8ByteSize_singleton, ih,
        size_cons]

theorem size_replicate (n : Nat) (c : Char) : size (List.replicate n c) = n * c.utf8Size := by
  induction n with
  | zero => simp
  | succ n ih => rw [List.replicate_succ, size_cons, ih, Nat.succ_mul, Nat.add_comm]

theorem floorBoundary_le (cs : List Char) (n : Nat) : floorBoundary cs n ≤ n := by
  induction n with
  | zero => exact Nat.le_refl 0
  | succ n ih =>
      rw [floorBoundary]
      split
      next => exact Nat.le_refl _
      next => exact Nat.le_succ_of_le ih

theorem takeSize_prefix (n : Nat) (cs : List Char) : takeSize n cs <+: cs := by
  induction cs generalizing n with
  | nil => exact List.prefix_rfl
  | cons c cs ih =>
      rw [takeSize]
      split
      next => exact List.cons_prefix_cons.mpr ⟨rfl, ih _⟩
      next => exact List.nil_prefix

theorem size_takeSize_le (n : Nat) (cs : List Char) : size (takeSize n cs) ≤ n := by
  induction cs generalizing n with
  | nil => exact Nat.zero_le n
  | cons c cs ih =>
      rw [takeSize]
      split
      next hfits =>
        have hrest := ih (n - c.utf8Size)
        rw [size_cons]
        omega
      next => exact Nat.zero_le n

theorem size_toList (s : String) : size s.toList = s.utf8ByteSize := by
  rw [← utf8ByteSize_ofList, String.ofList_toList]

theorem size_le_of_prefix {p cs : List Char} (h : p <+: cs) : size p ≤ size cs := by
  obtain ⟨rest, rfl⟩ := h
  rw [size_append]
  exact Nat.le_add_right _ _

/-- Every beginning within the limit is a beginning of what is taken. -/
theorem prefix_takeSize {p cs : List Char} {n : Nat} (h : p <+: cs) (hfits : size p ≤ n) :
    p <+: takeSize n cs := by
  induction p generalizing cs n with
  | nil => exact List.nil_prefix
  | cons c p ih =>
      obtain ⟨rest, rfl⟩ := h
      rw [size_cons] at hfits
      rw [List.cons_append, takeSize, if_pos (by omega)]
      exact List.cons_prefix_cons.mpr ⟨rfl, ih (List.prefix_append p rest) (by omega)⟩

/-- What is left of the limit is less than a character. -/
theorem lt_size_takeSize {n : Nat} {cs : List Char} (h : n ≤ size cs) :
    n < size (takeSize n cs) + 4 := by
  induction cs generalizing n with
  | nil =>
      rw [size_nil] at h
      omega
  | cons c cs ih =>
      rw [size_cons] at h
      rw [takeSize]
      split
      next hfits =>
        have hrest := ih (n := n - c.utf8Size) (by omega)
        rw [size_cons]
        omega
      next hlong =>
        have hsize := c.utf8Size_le_four
        omega

/-! ## Boundaries -/

/-- A boundary is where a beginning ends. -/
theorem isBoundary_iff_exists_prefix {cs : List Char} {n : Nat} :
    isBoundary cs n = true ↔ ∃ p, p <+: cs ∧ size p = n := by
  induction cs generalizing n with
  | nil => cases n <;> simp [isBoundary]
  | cons c cs ih =>
      cases n with
      | zero => exact iff_of_true rfl ⟨[], List.nil_prefix, rfl⟩
      | succ n =>
          rw [isBoundary, Bool.and_eq_true, decide_eq_true_iff, ih]
          constructor
          · rintro ⟨hfits, p, hp, hsize⟩
            exact ⟨c :: p, List.cons_prefix_cons.mpr ⟨rfl, hp⟩, by rw [size_cons]; omega⟩
          · rintro ⟨p, hp, hsize⟩
            cases p with
            | nil => cases hsize
            | cons d p =>
                obtain ⟨rfl, hrest⟩ := List.cons_prefix_cons.mp hp
                rw [size_cons] at hsize
                exact ⟨by omega, p, hrest, by omega⟩

/-- A boundary is a place at which the bytes of the text can be divided: behind the last of them, or
in front of one that begins a character. -/
theorem isBoundary_toList (s : String) (n : Nat) :
    isBoundary s.toList n = (String.Pos.Raw.mk n).isValid s := by
  rw [Bool.eq_iff_iff, isBoundary_iff_exists_prefix, String.Pos.Raw.isValid_eq_true_iff,
    String.Pos.Raw.isValid_iff_exists_append]
  constructor
  · rintro ⟨p, ⟨rest, hrest⟩, hsize⟩
    refine ⟨String.ofList p, String.ofList rest, ?_, ?_⟩
    · rw [← String.ofList_append, hrest, String.ofList_toList]
    · rw [String.Pos.Raw.ext_iff, String.byteIdx_rawEndPos, utf8ByteSize_ofList, hsize]
  · rintro ⟨p, rest, rfl, hplace⟩
    refine ⟨p.toList, ⟨rest.toList, by rw [String.toList_append]⟩, ?_⟩
    rw [size_toList, ← String.byteIdx_rawEndPos, ← hplace]

/-- As many bytes as there are before a boundary can be taken. -/
theorem size_takeSize_of_isBoundary {cs : List Char} {n : Nat} (h : isBoundary cs n = true) :
    size (takeSize n cs) = n := by
  obtain ⟨p, hp, hsize⟩ := isBoundary_iff_exists_prefix.mp h
  have hlong := size_le_of_prefix (prefix_takeSize hp (Nat.le_of_eq hsize))
  exact Nat.le_antisymm (size_takeSize_le n cs) (hsize ▸ hlong)

theorem isBoundary_floorBoundary (cs : List Char) (n : Nat) :
    isBoundary cs (floorBoundary cs n) = true := by
  induction n with
  | zero => cases cs <;> rfl
  | succ n ih =>
      rw [floorBoundary]
      split
      next h => exact h
      next => exact ih

theorem le_floorBoundary {cs : List Char} {m n : Nat} (h : isBoundary cs m = true) (hm : m ≤ n) :
    m ≤ floorBoundary cs n := by
  induction n with
  | zero => exact hm
  | succ n ih =>
      rw [floorBoundary]
      split
      next => exact hm
      next hnot =>
        refine ih (Nat.le_of_lt_succ (Nat.lt_of_le_of_ne hm ?_))
        rintro rfl
        exact hnot h

/-- Within a text there are never more than three places between one and the boundary below it. -/
theorem le_floorBoundary_add_three {cs : List Char} {n : Nat} (h : n ≤ size cs) :
    n ≤ floorBoundary cs n + 3 := by
  have htaken : isBoundary cs (size (takeSize n cs)) = true :=
    isBoundary_iff_exists_prefix.mpr ⟨_, takeSize_prefix n cs, rfl⟩
  have hfloor := le_floorBoundary htaken (size_takeSize_le n cs)
  have hleft := lt_size_takeSize h
  omega

/-! ## The search for a boundary -/

/-- The search for a boundary among the bytes of a text, from place `n` downwards: where it ends, and
after how many steps. There is no step down from the first byte, so there it has to end. -/
def search (s : String) : Nat → Option (Nat × Nat)
  | 0 => if (String.Pos.Raw.mk 0).isValid s then some (0, 0) else none
  | n + 1 =>
    if (String.Pos.Raw.mk (n + 1)).isValid s then some (n + 1, 0)
    else (search s n).map fun (place, steps) => (place, steps + 1)

/-- The search ends at the boundary below. -/
theorem search_eq (s : String) (n : Nat) :
    search s n = some (floorBoundary s.toList n, n - floorBoundary s.toList n) := by
  induction n with
  | zero =>
      have hstart : isBoundary s.toList 0 = true := isBoundary_floorBoundary s.toList 0
      rw [search, ← isBoundary_toList, if_pos hstart]
      rfl
  | succ n ih =>
      rw [search, ← isBoundary_toList, floorBoundary]
      split
      next => rw [Nat.sub_self]
      next =>
        have hle := floorBoundary_le s.toList n
        rw [ih, Option.map_some, Nat.succ_sub hle]

/-- The bytes of a beginning are the first bytes of the text. -/
theorem toUTF8_of_prefix {p s : String} (h : p.toList <+: s.toList) :
    p.toUTF8 = s.toUTF8.extract 0 p.utf8ByteSize := by
  obtain ⟨rest, hrest⟩ := h
  have hs : s = p ++ String.ofList rest := by
    rw [← String.toList_inj, String.toList_append, String.toList_ofList, hrest]
  subst hs
  exact (ByteArray.extract_append_eq_left rfl).symm

end SessionKeeper.Text
