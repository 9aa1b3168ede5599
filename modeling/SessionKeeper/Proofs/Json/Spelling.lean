import SessionKeeper.Json.Printer
import SessionKeeper.Json.Typed

/-!
# How a string is spelled

What may stand between two quotes, and the characters that it stands for. A string can be spelled in
many ways, since every character may be escaped. Reading a string finds the characters of every
spelling, and of nothing else. Passing over it takes some more: escapes that are half of a pair.
-/

namespace SessionKeeper.Json

/-- What may stand between two quotes. -/
inductive Quotable : List Char → Prop
  | nil : Quotable []
  | plain {c : Char} {inside : List Char} (hquote : c ≠ '"') (hslash : c ≠ '\\')
      (hcontrol : isControl c = false) (h : Quotable inside) : Quotable (c :: inside)
  | letter {e c : Char} {inside : List Char} (he : simpleEscape? e = some c)
      (h : Quotable inside) : Quotable ('\\' :: e :: inside)
  | unit {a b c d : Char} {n : Nat} {inside : List Char} (hn : hexQuad? a b c d = some n)
      (h : Quotable inside) : Quotable ('\\' :: 'u' :: a :: b :: c :: d :: inside)

/-- What may stand between two quotes for the characters of a string. -/
inductive Spells : List Char → List Char → Prop
  | nil : Spells [] []
  | plain {c : Char} {inside s : List Char} (hquote : c ≠ '"') (hslash : c ≠ '\\')
      (hcontrol : isControl c = false) (h : Spells inside s) : Spells (c :: inside) (c :: s)
  | letter {e c : Char} {inside s : List Char} (he : simpleEscape? e = some c)
      (h : Spells inside s) : Spells ('\\' :: e :: inside) (c :: s)
  | unit {a b c d : Char} {n : Nat} {inside s : List Char} (hn : hexQuad? a b c d = some n)
      (hlow : isLowSurrogate n = false) (hhigh : isHighSurrogate n = false)
      (h : Spells inside s) : Spells ('\\' :: 'u' :: a :: b :: c :: d :: inside) (Char.ofNat n :: s)
  | pair {a b c d a' b' c' d' : Char} {high low : Nat} {inside s : List Char}
      (hfirst : hexQuad? a b c d = some high) (hhigh : isHighSurrogate high = true)
      (hsecond : hexQuad? a' b' c' d' = some low) (hlow : isLowSurrogate low = true)
      (h : Spells inside s) :
      Spells ('\\' :: 'u' :: a :: b :: c :: d :: '\\' :: 'u' :: a' :: b' :: c' :: d' :: inside)
        (ofSurrogates high low :: s)

/-- A literal of a string: one of its spellings, in quotes. -/
def Quotes (literal : List Char) (s : String) : Prop :=
  ∃ inside, literal = '"' :: inside ++ ['"'] ∧ Spells inside s.toList

theorem Spells.quotable {inside s : List Char} (h : Spells inside s) : Quotable inside := by
  induction h with
  | nil => exact .nil
  | plain hquote hslash hcontrol _ ih => exact .plain hquote hslash hcontrol ih
  | letter he _ ih => exact .letter he ih
  | unit hn _ _ _ ih => exact .unit hn ih
  | pair hfirst _ hsecond _ _ ih => exact .unit hfirst (.unit hsecond ih)

theorem hexQuad?_control : ∀ n < 0x20,
    hexQuad? '0' '0' (Nat.digitChar (n / 16)) (Nat.digitChar (n % 16)) = some n := by
  decide

/-- The characters of a string are spelled as they are written. -/
theorem spells_escaped (cs : List Char) : Spells (cs.flatMap escapeChar) cs := by
  induction cs with
  | nil => exact .nil
  | cons c cs ih =>
      rw [List.flatMap_cons]
      -- one case for each character that has a letter of its own, then the controls and the rest
      fun_cases escapeChar c with
      | case1 h => subst h; exact .letter (e := '"') rfl ih
      | case2 _ h => subst h; exact .letter (e := '\\') rfl ih
      | case3 _ _ h => subst h; exact .letter (e := 'b') rfl ih
      | case4 _ _ _ h => subst h; exact .letter (e := 't') rfl ih
      | case5 _ _ _ _ h => subst h; exact .letter (e := 'n') rfl ih
      | case6 _ _ _ _ _ h => subst h; exact .letter (e := 'f') rfl ih
      | case7 _ _ _ _ _ _ h => subst h; exact .letter (e := 'r') rfl ih
      | case8 _ _ _ _ _ _ _ h =>
          have hunit := Spells.unit (hexQuad?_control c.toNat h) ?_ ?_ ih
          · rwa [Char.ofNat_toNat] at hunit
          · simp only [isLowSurrogate, Bool.and_eq_false_iff, decide_eq_false_iff_not]
            omega
          · simp only [isHighSurrogate, Bool.and_eq_false_iff, decide_eq_false_iff_not]
            omega
      | case9 hquote hslash _ _ _ _ _ hcontrol =>
          exact .plain hquote hslash (by simpa [isControl] using hcontrol) ih

theorem quotes_writeString (s : String) : Quotes (writeString s) s :=
  ⟨_, rfl, spells_escaped s.toList⟩

/-! ## Reading a string -/

theorem readQuad_eq_ok_iff {cs rest : List Char} {n : Nat} :
    readQuad cs = .ok (n, rest) ↔
      ∃ a b c d, cs = a :: b :: c :: d :: rest ∧ hexQuad? a b c d = some n := by
  constructor
  · intro h
    unfold readQuad at h
    split at h
    next a b c d tail =>
      split at h
      next hn =>
        cases h
        exact ⟨a, b, c, d, rfl, hn⟩
      next => cases h
    next => cases h
  · rintro ⟨a, b, c, d, rfl, hn⟩
    simp only [readQuad, hn]

theorem not_isLowSurrogate {n : Nat} (h : isHighSurrogate n = true) : isLowSurrogate n = false := by
  simp only [isHighSurrogate, isLowSurrogate, Bool.and_eq_true, decide_eq_true_eq,
    Bool.and_eq_false_iff, decide_eq_false_iff_not] at h ⊢
  omega

section Escapes

variable {a b c d e : Char} {n : Nat}

theorem readQuad_of_hexQuad? (hn : hexQuad? a b c d = some n) (rest : List Char) :
    readQuad (a :: b :: c :: d :: rest) = .ok (n, rest) :=
  readQuad_eq_ok_iff.mpr ⟨a, b, c, d, rfl, hn⟩

theorem ne_of_simpleEscape? (he : simpleEscape? e = some c) : e ≠ 'u' := by
  rintro rfl
  cases he

theorem readEscape_of_simpleEscape? (he : simpleEscape? e = some c) (rest : List Char) :
    readEscape (e :: rest) = .ok (c, rest) := by
  rw [readEscape, if_neg (ne_of_simpleEscape? he), he]

theorem readEscape_of_unit (hn : hexQuad? a b c d = some n) (hlow : isLowSurrogate n = false)
    (hhigh : isHighSurrogate n = false) (rest : List Char) :
    readEscape ('u' :: a :: b :: c :: d :: rest) = .ok (Char.ofNat n, rest) := by
  rw [readEscape, if_pos rfl, readUnicodeEscape, readQuad_of_hexQuad? hn]
  simp only [hlow, hhigh, Bool.false_eq_true, ↓reduceIte]

theorem readEscape_of_pair {a' b' c' d' : Char} {high low : Nat}
    (hfirst : hexQuad? a b c d = some high) (hhigh : isHighSurrogate high = true)
    (hsecond : hexQuad? a' b' c' d' = some low) (hlow : isLowSurrogate low = true)
    (rest : List Char) :
    readEscape ('u' :: a :: b :: c :: d :: '\\' :: 'u' :: a' :: b' :: c' :: d' :: rest) =
      .ok (ofSurrogates high low, rest) := by
  rw [readEscape, if_pos rfl, readUnicodeEscape, readQuad_of_hexQuad? hfirst]
  simp only [not_isLowSurrogate hhigh, hhigh, Bool.false_eq_true, ↓reduceIte]
  rw [readLowHalf, readQuad_of_hexQuad? hsecond]
  simp only [hlow, ↓reduceIte]

theorem readCharsWithin_of_readEscape {fuel : Nat} {cs left rest s : List Char}
    (hescape : readEscape cs = .ok (d, left)) (hrest : readCharsWithin fuel left = .ok (s, rest)) :
    readCharsWithin (fuel + 1) ('\\' :: cs) = .ok (d :: s, rest) := by
  rw [readCharsWithin, if_neg (by decide), if_pos rfl, hescape]
  simp only [hrest]

end Escapes

theorem readCharsWithin_of_spells {inside s : List Char} (h : Spells inside s) (rest : List Char)
    {fuel : Nat} (hfuel : inside.length < fuel) :
    readCharsWithin fuel (inside ++ '"' :: rest) = .ok (s, rest) := by
  induction h generalizing fuel with
  | nil =>
      obtain ⟨fuel, rfl⟩ := Nat.exists_eq_add_one_of_ne_zero (Nat.ne_zero_of_lt hfuel)
      rfl
  | plain hquote hslash hcontrol _ ih =>
      obtain ⟨fuel, rfl⟩ := Nat.exists_eq_add_one_of_ne_zero (Nat.ne_zero_of_lt hfuel)
      have hrest := ih (Nat.lt_of_succ_lt_succ hfuel)
      rw [List.cons_append, readCharsWithin, if_neg hquote, if_neg hslash]
      simp only [hcontrol, Bool.false_eq_true, ↓reduceIte, hrest]
  | letter he _ ih =>
      obtain ⟨fuel, rfl⟩ := Nat.exists_eq_add_one_of_ne_zero (Nat.ne_zero_of_lt hfuel)
      simp only [List.length_cons] at hfuel
      exact readCharsWithin_of_readEscape (readEscape_of_simpleEscape? he _) (ih (by omega))
  | unit hn hlow hhigh _ ih =>
      obtain ⟨fuel, rfl⟩ := Nat.exists_eq_add_one_of_ne_zero (Nat.ne_zero_of_lt hfuel)
      simp only [List.length_cons] at hfuel
      exact readCharsWithin_of_readEscape (readEscape_of_unit hn hlow hhigh _) (ih (by omega))
  | pair hfirst hhigh hsecond hlow _ ih =>
      obtain ⟨fuel, rfl⟩ := Nat.exists_eq_add_one_of_ne_zero (Nat.ne_zero_of_lt hfuel)
      simp only [List.length_cons] at hfuel
      exact readCharsWithin_of_readEscape (readEscape_of_pair hfirst hhigh hsecond hlow _)
        (ih (by omega))

theorem quad_of_readLowHalf {high : Nat} {cs rest : List Char} {d : Char}
    (h : readLowHalf high cs = .ok (d, rest)) :
    ∃ a b c e low, cs = '\\' :: 'u' :: a :: b :: c :: e :: rest ∧ hexQuad? a b c e = some low ∧
      isLowSurrogate low = true ∧ d = ofSurrogates high low := by
  revert h
  fun_cases readLowHalf high cs with
  | case4 tail low left hquad hlow =>
      intro h
      obtain ⟨a, b, c, e, rfl, hn⟩ := readQuad_eq_ok_iff.mp hquad
      obtain ⟨hd, rfl⟩ := Prod.mk.inj (Except.ok.inj h)
      exact ⟨a, b, c, e, low, rfl, hn, hlow, hd.symm⟩
  | case1 | case2 | case3 | case5 | case6 | case7 => nofun

/-- What stands behind a backslash is the rest of an escape. -/
theorem spells_of_readEscape {cs rest inside s : List Char} {d : Char}
    (h : readEscape cs = .ok (d, rest)) (hinside : Spells inside s) :
    ∃ escape, cs = escape ++ rest ∧ Spells ('\\' :: escape ++ inside) (d :: s) := by
  unfold readEscape at h
  split at h
  next => cases h
  next e tail =>
    split at h
    next hu =>
      subst hu
      simp only [readUnicodeEscape] at h
      split at h
      next => cases h
      next n left hquad =>
        obtain ⟨x₁, x₂, x₃, x₄, rfl, hn⟩ := readQuad_eq_ok_iff.mp hquad
        split at h
        next => cases h
        next hlow =>
          split at h
          next hhigh =>
            obtain ⟨y₁, y₂, y₃, y₄, low, rfl, hm, hhalf, hd⟩ := quad_of_readLowHalf h
            refine ⟨['u', x₁, x₂, x₃, x₄, '\\', 'u', y₁, y₂, y₃, y₄], rfl, ?_⟩
            rw [hd]
            exact .pair hn hhigh hm hhalf hinside
          next hhigh =>
            cases h
            exact ⟨['u', x₁, x₂, x₃, x₄], rfl, .unit hn (by simpa using hlow)
              (by simpa using hhigh) hinside⟩
    next =>
      split at h
      next c he =>
        cases h
        exact ⟨[e], rfl, .letter he hinside⟩
      next => cases h

theorem spells_of_readCharsWithin {fuel : Nat} {cs s rest : List Char}
    (h : readCharsWithin fuel cs = .ok (s, rest)) :
    ∃ inside, cs = inside ++ '"' :: rest ∧ Spells inside s := by
  induction fuel generalizing cs s with
  | zero => cases h
  | succ fuel ih =>
      cases cs with
      | nil => cases h
      | cons c cs =>
          rw [readCharsWithin] at h
          split at h
          next hquote =>
            cases h
            exact ⟨[], by rw [hquote]; rfl, .nil⟩
          next hquote =>
            split at h
            next hslash =>
              subst hslash
              split at h
              next => cases h
              next d left hescape =>
                split at h
                next => cases h
                next s' rest' hrest =>
                  cases h
                  obtain ⟨inside, rfl, hinside⟩ := ih hrest
                  obtain ⟨escape, rfl, hspells⟩ := spells_of_readEscape hescape hinside
                  exact ⟨'\\' :: escape ++ inside, by simp, hspells⟩
            next hslash =>
              split at h
              next => cases h
              next hcontrol =>
                split at h
                next => cases h
                next s' rest' hrest =>
                  cases h
                  obtain ⟨inside, rfl, hinside⟩ := ih hrest
                  exact ⟨c :: inside, rfl, .plain hquote hslash (by simpa using hcontrol) hinside⟩

theorem readString_of_spells {inside : List Char} {s : String} (h : Spells inside s.toList)
    (rest : List Char) : readString (inside ++ '"' :: rest) = .ok (s, rest) := by
  have hlength : inside.length < (inside ++ '"' :: rest).length + 1 := by
    rw [List.length_append]
    omega
  rw [readString, readCharsWithin_of_spells h rest hlength]
  simp only [String.ofList_toList]

/-- A string is read from behind its opening quote exactly if it is spelled there. -/
theorem readString_eq_ok_iff {cs rest : List Char} {s : String} :
    readString cs = .ok (s, rest) ↔
      ∃ inside, cs = inside ++ '"' :: rest ∧ Spells inside s.toList := by
  constructor
  · intro h
    rw [readString] at h
    split at h
    next => cases h
    next ds tail hchars =>
      cases h
      rw [String.toList_ofList]
      exact spells_of_readCharsWithin hchars
  · rintro ⟨inside, rfl, hinside⟩
    exact readString_of_spells hinside rest

/-! ## Passing over a string -/

/-- What is passed over behind a backslash is the rest of an escape, or half of one. -/
theorem skipEscape_eq_ok_iff {cs rest : List Char} :
    skipEscape cs = .ok rest ↔ ∃ escape, cs = escape ++ rest ∧
      ((∃ e c, escape = [e] ∧ simpleEscape? e = some c) ∨
        ∃ a b c d n, escape = ['u', a, b, c, d] ∧ hexQuad? a b c d = some n) := by
  constructor
  · intro h
    unfold skipEscape at h
    split at h
    next => cases h
    next e tail =>
      split at h
      next hu =>
        subst hu
        split at h
        next => cases h
        next n left hquad =>
          cases h
          obtain ⟨a, b, c, d, rfl, hn⟩ := readQuad_eq_ok_iff.mp hquad
          exact ⟨['u', a, b, c, d], rfl, .inr ⟨a, b, c, d, n, rfl, hn⟩⟩
      next =>
        split at h
        next c he =>
          cases h
          exact ⟨[e], rfl, .inl ⟨e, c, rfl, he⟩⟩
        next => cases h
  · rintro ⟨_, rfl, ⟨e, c, rfl, he⟩ | ⟨a, b, c, d, n, rfl, hn⟩⟩
    · rw [List.singleton_append, skipEscape, if_neg (ne_of_simpleEscape? he), he]
    · simp only [List.cons_append, List.nil_append]
      rw [skipEscape, if_pos rfl, readQuad_of_hexQuad? hn]

theorem skipCharsWithin_of_skipEscape {fuel : Nat} {cs left : List Char}
    (hescape : skipEscape cs = .ok left) :
    skipCharsWithin (fuel + 1) ('\\' :: cs) = skipCharsWithin fuel left := by
  rw [skipCharsWithin, if_neg (by decide), if_pos rfl, hescape]

theorem skipCharsWithin_of_quotable {inside : List Char} (h : Quotable inside) (rest : List Char)
    {fuel : Nat} (hfuel : inside.length < fuel) :
    skipCharsWithin fuel (inside ++ '"' :: rest) = .ok rest := by
  induction h generalizing fuel with
  | nil =>
      obtain ⟨fuel, rfl⟩ := Nat.exists_eq_add_one_of_ne_zero (Nat.ne_zero_of_lt hfuel)
      rfl
  | plain hquote hslash hcontrol _ ih =>
      obtain ⟨fuel, rfl⟩ := Nat.exists_eq_add_one_of_ne_zero (Nat.ne_zero_of_lt hfuel)
      rw [List.cons_append, skipCharsWithin, if_neg hquote, if_neg hslash]
      simp only [hcontrol, Bool.false_eq_true, ↓reduceIte]
      exact ih (Nat.lt_of_succ_lt_succ hfuel)
  | @letter e c inside he _ ih =>
      obtain ⟨fuel, rfl⟩ := Nat.exists_eq_add_one_of_ne_zero (Nat.ne_zero_of_lt hfuel)
      have hescape : skipEscape (e :: (inside ++ '"' :: rest)) = .ok (inside ++ '"' :: rest) :=
        skipEscape_eq_ok_iff.mpr ⟨[e], rfl, .inl ⟨e, c, rfl, he⟩⟩
      simp only [List.length_cons] at hfuel
      exact (skipCharsWithin_of_skipEscape hescape).trans (ih (by omega))
  | @unit a b c d n inside hn _ ih =>
      obtain ⟨fuel, rfl⟩ := Nat.exists_eq_add_one_of_ne_zero (Nat.ne_zero_of_lt hfuel)
      have hescape : skipEscape ('u' :: a :: b :: c :: d :: (inside ++ '"' :: rest)) =
          .ok (inside ++ '"' :: rest) :=
        skipEscape_eq_ok_iff.mpr ⟨_, rfl, .inr ⟨a, b, c, d, n, rfl, hn⟩⟩
      simp only [List.length_cons] at hfuel
      exact (skipCharsWithin_of_skipEscape hescape).trans (ih (by omega))

theorem quotable_of_skipCharsWithin {fuel : Nat} {cs rest : List Char}
    (h : skipCharsWithin fuel cs = .ok rest) :
    ∃ inside, cs = inside ++ '"' :: rest ∧ Quotable inside := by
  induction fuel generalizing cs with
  | zero => cases h
  | succ fuel ih =>
      cases cs with
      | nil => cases h
      | cons c cs =>
          rw [skipCharsWithin] at h
          split at h
          next hquote =>
            cases h
            exact ⟨[], by rw [hquote]; rfl, .nil⟩
          next hquote =>
            split at h
            next hslash =>
              subst hslash
              split at h
              next => cases h
              next left hescape =>
                obtain ⟨inside, rfl, hinside⟩ := ih h
                obtain ⟨escape, rfl, ⟨e, c, rfl, he⟩ | ⟨a, b, c, d, n, rfl, hn⟩⟩ :=
                  skipEscape_eq_ok_iff.mp hescape
                · exact ⟨'\\' :: e :: inside, rfl, .letter he hinside⟩
                · exact ⟨'\\' :: 'u' :: a :: b :: c :: d :: inside, rfl, .unit hn hinside⟩
            next hslash =>
              split at h
              next => cases h
              next hcontrol =>
                obtain ⟨inside, rfl, hinside⟩ := ih h
                exact ⟨c :: inside, rfl, .plain hquote hslash (by simpa using hcontrol) hinside⟩

/-- A string is passed over exactly if it could stand between two quotes. -/
theorem skipString_eq_ok_iff {cs rest : List Char} :
    skipString cs = .ok rest ↔ ∃ inside, cs = inside ++ '"' :: rest ∧ Quotable inside := by
  refine ⟨quotable_of_skipCharsWithin, ?_⟩
  rintro ⟨inside, rfl, hinside⟩
  refine skipCharsWithin_of_quotable hinside rest ?_
  rw [List.length_append]
  omega

/-- A literal ends at its closing quote, so what it holds is settled by the text it stands in. -/
theorem Quotable.append_inj {inside inside' rest rest' : List Char} (h : Quotable inside)
    (h' : Quotable inside') (heq : inside ++ '"' :: rest = inside' ++ '"' :: rest') :
    inside = inside' ∧ rest = rest' := by
  have hskip : skipString (inside ++ '"' :: rest) = .ok rest :=
    skipString_eq_ok_iff.mpr ⟨inside, rfl, h⟩
  rw [heq, skipString_eq_ok_iff.mpr ⟨inside', rfl, h'⟩] at hskip
  obtain rfl := Except.ok.inj hskip
  exact ⟨List.append_cancel_right heq, rfl⟩

/-- The characters that a spelling stands for. -/
theorem Spells.unique {inside s s' : List Char} (h : Spells inside s) (h' : Spells inside s') :
    s = s' := by
  have hread := readCharsWithin_of_spells h [] (Nat.lt_succ_self _)
  rw [readCharsWithin_of_spells h' [] (Nat.lt_succ_self _)] at hread
  exact (Prod.mk.inj (Except.ok.inj hread)).1.symm

theorem Quotes.unique {literal : List Char} {s s' : String} (h : Quotes literal s)
    (h' : Quotes literal s') : s = s' := by
  obtain ⟨inside, rfl, hinside⟩ := h
  obtain ⟨inside', heq, hinside'⟩ := h'
  obtain rfl : inside = inside' := List.append_cancel_right (List.cons.inj heq).2
  exact String.toList_inj.mp (hinside.unique hinside')

end SessionKeeper.Json
