import SessionKeeper.Proofs.Json.Spelling

/-!
# Written strings are read back

A string is written in one of its spellings, so what the reader gives is the string that was
written, whatever follows the closing quote.
-/

namespace SessionKeeper.Json

theorem map_eq_ok {ε α β : Type} {x : Except ε α} {f : α → β} {b : β} (h : x.map f = .ok b) :
    ∃ a, x = .ok a ∧ f a = b := by
  cases x with
  | error e => cases h
  | ok a => exact ⟨a, rfl, Except.ok.inj h⟩

/-! ## White space -/

theorem skipSpace_cons_of_isSpace {c : Char} (h : isSpace c = true) (cs : List Char) :
    skipSpace (c :: cs) = skipSpace cs := by
  rw [skipSpace, List.dropWhile_cons_of_pos h]
  rfl

theorem skipSpace_cons_of_not_isSpace {c : Char} (h : isSpace c = false) (cs : List Char) :
    skipSpace (c :: cs) = c :: cs := by
  rw [skipSpace, List.dropWhile_cons_of_neg (by simp [h])]

/-! ## Strings -/

/-- What is written between the quotes of a string, with the closing one. -/
def closedString (s : String) : List Char :=
  s.toList.flatMap escapeChar ++ ['"']

theorem writeString_eq (s : String) : writeString s = '"' :: closedString s := rfl

/-- A string that was written is read back from behind its opening quote. -/
theorem readString_closedString (s : String) (rest : List Char) :
    readString (closedString s ++ rest) = .ok (s, rest) := by
  rw [closedString, List.append_assoc]
  exact readString_of_spells (spells_escaped s.toList) rest

/-- A string that was written is read back as a value. -/
theorem readText_writeString (expected s : String) (rest : List Char) :
    readText expected (writeString s ++ rest) = .ok (s, rest) := by
  rw [writeString_eq, List.cons_append, readText, skipSpace_cons_of_not_isSpace (by decide)]
  simp only [↓reduceIte]
  exact readString_closedString s rest

end SessionKeeper.Json
