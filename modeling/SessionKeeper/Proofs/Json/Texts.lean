import Mathlib.Data.List.Forall2
import SessionKeeper.Json.Typed
import SessionKeeper.Json.Value
import SessionKeeper.Proofs.Json.Members

/-!
# Objects of texts

An object whose members are strings is read as the object of what these strings spell, however they
are spelled and whatever white space there is.
-/

namespace SessionKeeper.Json

/-- A string is read as a value wherever it is spelled. -/
theorem readValueWithin_of_quotes {literal cs rest : List Char} {s : String}
    (h : Quotes literal s) (hspace : skipSpace cs = literal ++ rest) (fuel depth : Nat) :
    readValueWithin (fuel + 1) depth cs = .ok (.text s, rest) := by
  obtain ⟨inside, rfl, hinside⟩ := h
  rw [List.cons_append, List.cons_append, List.append_assoc] at hspace
  simp only [readValueWithin, hspace, Char.reduceEq, Char.reduceIsDigit, or_self,
    Bool.false_eq_true, ↓reduceIte, List.singleton_append, readString_of_spells hinside]
  rfl

/-- Members are strings, each of which spells a text under its key. -/
def SpellTexts (ms : List (String × List Char)) (fields : List (String × String)) : Prop :=
  List.Forall₂ (fun m field => m.1 = field.1 ∧ Quotes m.2 field.2) ms fields

theorem spellTexts_membersOf (fields : List (String × String)) :
    SpellTexts (membersOf fields) fields := by
  induction fields with
  | nil => exact .nil
  | cons field fields ih => exact .cons ⟨rfl, quotes_writeString field.2⟩ ih

/-- Members that are strings are read behind those in `seen`. -/
theorem readMembers_of_spellTexts {ms : List (String × List Char)}
    {fields : List (String × String)} (htexts : SpellTexts ms fields) {first : Bool}
    {cs rest : List Char} (h : Members first ms cs rest) {fuel : Nat} (hfuel : ms.length < fuel)
    (depth : Nat) (seen : List (String × Value)) :
    readValueWithin.readMembers fuel depth first cs seen =
      .ok (.object (seen.reverse ++ fields.map fun field => (field.1, .text field.2)), rest) := by
  induction htexts generalizing first cs fuel seen with
  | nil =>
      obtain ⟨fuel, rfl⟩ := Nat.exists_eq_add_one_of_ne_zero (Nat.ne_zero_of_lt hfuel)
      cases h with
      | nil h =>
          simp only [readValueWithin.readMembers, nextKey_of_brace h, List.map_nil, List.append_nil]
          rfl
  | @cons m field ms fields hm _ ih =>
      obtain ⟨key, literal⟩ := m
      obtain ⟨name, text⟩ := field
      obtain ⟨rfl, hquotes⟩ := hm
      -- one step is for this member, and one for its value
      obtain ⟨fuel, rfl⟩ : ∃ n, fuel = n + 2 := ⟨fuel - 2, by simp at hfuel; omega⟩
      cases h with
      | cons hlead hkey hspells hcolon htext hvalue hothers =>
          have hleft : ms.length < fuel + 1 := by simpa using hfuel
          have hothers' := ih hothers hleft ((key, .text text) :: seen)
          rw [readValueWithin.readMembers]
          simp only [nextKey_eq_true_iff.mpr ⟨_, hlead, hkey⟩, List.append_eq,
            readString_of_spells hspells, expectColon_eq_ok_iff.mpr hcolon,
            readValueWithin_of_quotes hquotes htext]
          rw [hothers', List.reverse_cons, List.append_assoc, List.singleton_append, List.map_cons]

/-- A text is an object that says these texts under their keys, and nothing else. -/
def Decodes (text : String) (fields : List (String × String)) : Prop :=
  ∃ ms, IsObject ms text ∧ SpellTexts ms fields

/-- An object of strings is read as the texts that they spell. -/
theorem Decodes.readWhole_eq {fields : List (String × String)} {text : String}
    (h : Decodes text fields) : readWhole readValue text = .ok (objectOf fields) := by
  obtain ⟨ms, ⟨tail, rest, hspace, hmembers, hrest⟩, htexts⟩ := h
  have hread : readValue depthLimit text.toList = .ok (objectOf fields, rest) := by
    have hfuel : ms.length < 2 * text.toList.length + 1 := by
      have hlength := hmembers.length_le
      have hshort : tail.length < text.toList.length := length_lt_of_skipSpace hspace
      omega
    rw [readValue, readValueWithin, hspace]
    simp only [Char.reduceEq, Char.reduceIsDigit, or_self, Bool.false_eq_true, ↓reduceIte,
      show ¬ depthLimit ≤ 1 by decide, readMembers_of_spellTexts htexts hmembers hfuel]
    rfl
  simp only [readWhole, hread, hrest]

theorem SpellTexts.unique {ms : List (String × List Char)} {fields fields' : List (String × String)}
    (h : SpellTexts ms fields) (h' : SpellTexts ms fields') : fields = fields' := by
  refine List.right_unique_forall₂' (fun m field field' hfield hfield' => ?_) h h'
  exact Prod.ext (hfield.1.symm.trans hfield'.1) (hfield.2.unique hfield'.2)

/-- A text says its texts in one way. -/
theorem Decodes.unique {text : String} {fields fields' : List (String × String)}
    (h : Decodes text fields) (h' : Decodes text fields') : fields = fields' := by
  obtain ⟨ms, hobject, htexts⟩ := h
  obtain ⟨ms', hobject', htexts'⟩ := h'
  obtain rfl := hobject.unique hobject'
  exact htexts.unique htexts'

/-- What is decoded from a written object of texts are these texts. -/
theorem decodes_compact_iff (fields fields' : List (String × String)) :
    Decodes (objectOf fields).compact fields' ↔ fields' = fields := by
  have hwritten : Decodes (objectOf fields).compact fields :=
    ⟨membersOf fields, isObject_compact fields, spellTexts_membersOf fields⟩
  refine ⟨fun h => h.unique hwritten, ?_⟩
  rintro rfl
  exact hwritten

end SessionKeeper.Json
