import SessionKeeper.Proofs.Json.Text

/-!
# What is read can be passed over

Passing over a value is more lenient than reading it. Where a reader takes a text or `null` from the
front, passing over that value stops at the same place.
-/

namespace SessionKeeper.Json

theorem skipString_of_readString {cs rest : List Char} {s : String}
    (h : readString cs = .ok (s, rest)) : skipString cs = .ok rest := by
  obtain ⟨inside, rfl, hinside⟩ := readString_eq_ok_iff.mp h
  exact skipString_eq_ok_iff.mpr ⟨inside, rfl, hinside.quotable⟩

theorem skipValue_of_skipScalar {cs rest tail : List Char} {c : Char}
    (hspace : skipSpace cs = c :: rest) (hopen : ¬ (c = '[' ∨ c = '{'))
    (h : skipScalar c rest = .ok tail) : skipValue cs = .ok tail := by
  have hclose : closeWithin (tail.length + 1) [] tail = .ok ([], tail) := rfl
  simp only [skipValue, skipWithin, hspace, hopen, ↓reduceIte, h, hclose]

theorem readText_eq_ok {expected : String} {cs rest : List Char} {s : String}
    (h : readText expected cs = .ok (s, rest)) :
    ∃ tail, skipSpace cs = '"' :: tail ∧ readString tail = .ok (s, rest) := by
  rw [readText] at h
  split at h
  next => cases h
  next c tail hspace =>
    split at h
    next hquote => exact ⟨tail, hquote ▸ hspace, h⟩
    next => cases h

theorem skipValue_of_readText {expected : String} {cs rest : List Char} {s : String}
    (h : readText expected cs = .ok (s, rest)) : skipValue cs = .ok rest := by
  obtain ⟨tail, hspace, hstring⟩ := readText_eq_ok h
  exact skipValue_of_skipScalar hspace (by decide) (skipString_of_readString hstring)

theorem readOptional_of_readText {expected : String} {cs rest : List Char} {s : String}
    (h : readText expected cs = .ok (s, rest)) :
    readOptional (readText expected) cs = .ok (some s, rest) := by
  obtain ⟨tail, hspace, -⟩ := readText_eq_ok h
  simp only [readOptional, hspace, Char.reduceEq, ↓reduceIte, h]
  rfl

theorem skipValue_of_readOptional {expected : String} {cs rest : List Char} {s : Option String}
    (h : readOptional (readText expected) cs = .ok (s, rest)) : skipValue cs = .ok rest := by
  rw [readOptional] at h
  have hread {cs : List Char}
      (h : (readText expected cs).map (fun p => (some p.1, p.2)) = .ok (s, rest)) :
      skipValue cs = .ok rest := by
    obtain ⟨⟨text, left⟩, htext, heq⟩ := map_eq_ok h
    cases heq
    exact skipValue_of_readText htext
  split at h
  next => exact hread h
  next c tail hspace =>
    split at h
    next hnull =>
      subst hnull
      obtain ⟨left, hword, heq⟩ := map_eq_ok h
      cases heq
      exact skipValue_of_skipScalar hspace (by decide) hword
    next => exact hread h

end SessionKeeper.Json
