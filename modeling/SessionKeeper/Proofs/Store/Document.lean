import SessionKeeper.Proofs.Json.Text
import SessionKeeper.Proofs.SortedMap
import SessionKeeper.Store.Document
import SessionKeeper.Text.Blank

/-!
# The storage document is read back

The document of the entries of a store gives these entries again, for any keys and any texts. The
members are read in the order in which they were written, so the map grows at its end and comes out
as it was.
-/

namespace SessionKeeper.Entries

open Json

/-- What stands in front of the key of a member, its opening quote included. -/
def lead (first : Bool) : List Char :=
  if first then ['\n', ' ', ' ', '"'] else [',', '\n', ' ', ' ', '"']

/-- The members of a document behind its opening brace, with the closing one. -/
def closedMembers (first : Bool) : List (String × String) → List Char
  | [] => ['\n', '}']
  | (k, v) :: rest =>
    lead first ++ closedString k ++ [':', ' '] ++ writeString v ++ closedMembers false rest

theorem writePrettyMembers_eq (first : Bool) (bs : List (String × String)) :
    writePrettyMembers 0 first (bs.map fun b => (b.1, .text b.2)) ++ ['\n', '}'] =
      closedMembers first bs := by
  induction bs generalizing first with
  | nil => rfl
  | cons b rest ih =>
      obtain ⟨k, v⟩ := b
      cases first <;>
        simp [writePrettyMembers, Value.writePretty, closedMembers, lead, indent,
          writeString_eq, ← ih, List.replicate_succ]

theorem nextKey_lead (first : Bool) (cs : List Char) :
    nextKey first (lead first ++ cs) = .ok (true, cs) := by
  cases first <;> rfl

theorem nextKey_closing (first : Bool) : nextKey first ['\n', '}'] = .ok (false, ['}']) := rfl

theorem expectColon_value (cs : List Char) : expectColon (':' :: ' ' :: cs) = .ok (' ' :: cs) := rfl

theorem readText_blank (expected s : String) (cs : List Char) :
    readText expected (' ' :: (writeString s ++ cs)) = .ok (s, cs) := by
  have h := readText_writeString expected s cs
  rw [readText] at h ⊢
  rw [skipSpace_cons_of_isSpace (by decide)]
  exact h

/-- Members that were written are put into the entries one after another. -/
theorem readMembersWithin_closedMembers (bs : List (String × String)) (first : Bool)
    (entries : Entries) {fuel : Nat} (h : bs.length < fuel) :
    readMembersWithin fuel first entries (closedMembers first bs) =
      .ok (bs.foldl (fun m b => m.insert b.1 b.2) entries, ['}']) := by
  induction bs generalizing first entries fuel with
  | nil =>
      obtain ⟨fuel, rfl⟩ := Nat.exists_eq_add_one_of_ne_zero (Nat.ne_zero_of_lt h)
      simp [readMembersWithin, closedMembers, nextKey_closing]
  | cons b rest ih =>
      obtain ⟨k, v⟩ := b
      obtain ⟨fuel, rfl⟩ := Nat.exists_eq_add_one_of_ne_zero (Nat.ne_zero_of_lt h)
      rw [closedMembers, List.append_assoc, List.append_assoc, List.append_assoc,
        readMembersWithin, nextKey_lead]
      simp only [readString_closedString, List.cons_append, List.nil_append, expectColon_value,
        readText_blank]
      exact ih false (entries.insert k v) (by simpa using h)

theorem length_le_length_closedMembers (first : Bool) (bs : List (String × String)) :
    bs.length ≤ (closedMembers first bs).length := by
  induction bs generalizing first with
  | nil => simp
  | cons b rest ih =>
      have := ih false
      simp only [closedMembers, List.length_append, List.length_cons]
      omega

theorem read_members (depth : Nat) (hdepth : 1 < depth) (entries : Entries) :
    read depth ('{' :: closedMembers true entries.toList) = .ok (entries, []) := by
  have hlength := length_le_length_closedMembers true entries.toList
  have hfuel : entries.toList.length < (closedMembers true entries.toList).length + 1 := by omega
  have hmembers := readMembersWithin_closedMembers entries.toList true .empty hfuel
  have hmap : entries.toList.foldl (fun m b => m.insert b.1 b.2) SortedMap.empty = entries :=
    entries.ofList_toList
  rw [read, skipSpace_cons_of_not_isSpace (by decide)]
  simp only [↓reduceIte, Nat.not_le.mpr hdepth, hmembers, hmap]
  rfl

theorem render_of_ne_empty {entries : Entries} (h : entries.toList ≠ []) :
    entries.render.toList = '{' :: closedMembers true entries.toList := by
  obtain ⟨b, rest, hlist⟩ := List.exists_cons_of_ne_nil h
  rw [render, Value.pretty, String.toList_ofList, ← writePrettyMembers_eq, toValue, hlist]
  simp only [List.map_cons, Value.writePretty, indent, Nat.mul_zero, List.replicate_zero,
    List.nil_append, List.cons_append, List.append_assoc]

/-- The document of the entries is read back as the entries. -/
theorem parse_render (entries : Entries) : parse entries.render = .ok entries := by
  by_cases h : entries.toList = []
  · have hempty : entries = .empty := SortedMap.ext h
    subst hempty
    rfl
  · rw [parse, readWhole, render_of_ne_empty h, read_members depthLimit (by decide)]
    rfl

/-- A document is never blank. -/
theorem not_allBlank_render (entries : Entries) : Text.allBlank entries.render = false := by
  have hbrace : ∀ cs, entries.render.toList = '{' :: cs → Text.allBlank entries.render = false := by
    intro cs hcs
    rw [Text.allBlank, hcs]
    rfl
  by_cases h : entries.toList = []
  · apply hbrace ['}']
    have hempty : entries = .empty := SortedMap.ext h
    subst hempty
    decide
  · exact hbrace _ (render_of_ne_empty h)

end SessionKeeper.Entries
