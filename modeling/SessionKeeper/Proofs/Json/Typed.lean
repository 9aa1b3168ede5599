import SessionKeeper.Proofs.Json.Fields

/-!
# Numbers and names of a given type

What the readers of bounded numbers and of names out of a list find: a number in its digits, if it
has few enough bits, and a name in quotes or as the only key of an object whose value is `null`.
-/

namespace SessionKeeper.Json

variable {α : Type}

/-! ## Bounded numbers -/

/-- A text is the literal of a natural number of at most so many bits. -/
structure Counts (bits : Nat) (text : List Char) (n : Nat) : Prop where
  denotes : Denotes text n
  lt : n < 2 ^ bits

theorem readBounded_eq_ok {bits : Nat} {expected : String} {cs rest : List Char} {n : Nat}
    (h : readBounded bits expected cs = .ok (n, rest)) :
    ∃ text, skipSpace cs = text ++ rest ∧ Counts bits text n := by
  rw [readBounded] at h
  split at h
  next => cases h
  next c tail hspace =>
    split at h
    next =>
      split at h
      next => cases h
      next m left hread =>
        split at h
        next hm =>
          cases h
          obtain ⟨_, hfloating⟩ | ⟨text, i, heq, hdenotes, -, -, hi⟩ := readNumber_eq_ok hread
          · cases hfloating
          · cases i with
            | ofNat i =>
                cases hi
                exact ⟨text, hspace.trans heq, hdenotes, hm⟩
            | negSucc i => cases hi
        next => cases h
      next => cases h
      next => cases h
    next => cases h

theorem readBounded_of_counts {bits : Nat} (hbits : bits ≤ 64) (expected : String)
    {text cs rest : List Char} {n : Nat} (h : Counts bits text n)
    (hspace : skipSpace cs = text ++ rest) (hrest : Stops rest) :
    readBounded bits expected cs = .ok (n, rest) := by
  have hnumber := h.denotes.isNumber
  obtain ⟨c, digits, rfl, -⟩ := hnumber.exists_cons
  have hfits : n < 2 ^ 64 := h.lt.trans_le (Nat.pow_le_pow_right (by decide) hbits)
  have hread : readNumber c (digits ++ rest) = .ok (.natural n, rest) :=
    readNumber_of_denotes h.denotes hrest (by omega) (by exact_mod_cast hfits)
  rw [readBounded, hspace]
  simp only [List.cons_append, hnumber.head, ↓reduceIte, hread, Nat.pow_eq, h.lt]

theorem reads_readBounded {bits : Nat} (hbits : bits ≤ 64) (expected : String) :
    Reads (readBounded bits expected) (Counts bits) where
  value h := IsScalar.isValue (.number h.denotes.isNumber)
  sound := readBounded_eq_ok
  complete := readBounded_of_counts hbits expected

/-! ## Names out of a list -/

/-- What a text chooses: its name stands in quotes, or is the key of an object that has one member,
which is `null`. -/
inductive Chooses (choices : List (String × α)) : List Char → α → Prop
  | name {text : List Char} {name : String} {a : α} (h : Quotes text name)
      (ha : choices.lookup name = some a) : Chooses choices text a
  | key {tail : List Char} {name : String} {a : α}
      (h : Members true [(name, ['n', 'u', 'l', 'l'])] tail [])
      (ha : choices.lookup name = some a) : Chooses choices ('{' :: tail) a

variable {choices : List (String × α)} {a : α}

theorem choose_eq_ok_iff {name : String} {cs rest : List Char} :
    choose choices name cs = .ok (a, rest) ↔ choices.lookup name = some a ∧ cs = rest := by
  rw [choose]
  split
  next b hb => simp [hb]
  next hnone => simp [hnone]

theorem readOnlyKey_eq_ok_iff {name : String} {cs rest : List Char} :
    readOnlyKey cs = .ok (name, rest) ↔
      ∃ inside, skipSpace cs = '"' :: inside ++ '"' :: rest ∧ Spells inside name.toList := by
  rw [readOnlyKey]
  split
  next hspace => simp [hspace]
  next c tail hspace =>
    split
    next hc => simp [hspace, hc, readString_eq_ok_iff]
    next hc => split <;> simp [hspace, hc]

theorem readNull_eq_ok_iff {expected : String} {cs rest : List Char} :
    readNull expected cs = .ok ((), rest) ↔ skipSpace cs = ['n', 'u', 'l', 'l'] ++ rest := by
  rw [readNull]
  split
  next hspace => simp [hspace]
  next c tail hspace =>
    split
    next hc =>
      rw [hspace, hc, List.cons_append, List.cons.injEq, ← expectWord_eq_ok_iff]
      cases expectWord ['u', 'l', 'l'] tail <;> simp [Except.map]
    next hc => simp [hspace, hc]

theorem isScalar_null : IsScalar ['n', 'u', 'l', 'l'] :=
  .word (by decide)

theorem Chooses.isValue {text : List Char} (h : Chooses choices text a) : IsValue text := by
  cases h with
  | name h => exact (reads_readText "a name").value h
  | @key tail _ _ h =>
      refine ⟨skipSpace_cons_of_not_isSpace rfl _, ?_⟩
      cases h with
      | @cons _ _ _ _ _ lead _ _ _ _ _ hlead hkey hspells hcolon _ hvalue hothers =>
          cases hothers with
          | nil hclose =>
              obtain rfl : tail = lead := Eq.symm hlead
              exact .items .object rfl ⟨_, _, hkey, hspells.quotable, hcolon⟩ hvalue
                (.close .object hclose)

/-- An object with one member, which is `null`, ends with its brace. -/
theorem exists_members_null {name : String} {cs inside colon value last rest : List Char}
    (hkey : skipSpace cs = '"' :: inside ++ '"' :: colon) (hspells : Spells inside name.toList)
    (hcolon : skipSpace colon = ':' :: value)
    (hnull : skipSpace value = ['n', 'u', 'l', 'l'] ++ last)
    (hclose : skipSpace last = '}' :: rest) :
    ∃ tail, cs = tail ++ rest ∧ Members true [(name, ['n', 'u', 'l', 'l'])] tail [] := by
  -- the text is cut off behind the brace, from the last part to the first
  obtain ⟨last, rfl, hlast⟩ := exists_front [] hclose
  obtain ⟨value, rfl, hvalue⟩ := exists_front ('u' :: 'l' :: 'l' :: last) hnull
  obtain ⟨colon, rfl, hbehind⟩ := exists_front value hcolon
  obtain ⟨tail, rfl, htail⟩ : ∃ front, cs = front ++ rest ∧
      skipSpace front = '"' :: inside ++ '"' :: colon :=
    exists_front (inside ++ '"' :: colon) (hkey.trans (by simp))
  exact ⟨tail, rfl, .cons rfl htail hspells hbehind hvalue (.scalar isScalar_null hvalue)
    (.nil hlast)⟩

/-- What is read as a name out of a list is the text of one. -/
theorem readChoice_eq_ok {depth : Nat} {cs rest : List Char}
    (h : readChoice choices depth cs = .ok (a, rest)) :
    ∃ text, skipSpace cs = text ++ rest ∧ Chooses choices text a := by
  rw [readChoice] at h
  split at h
  next => cases h
  next c tail hspace =>
    split at h
    next hc =>
      split at h
      next => cases h
      next name left hread =>
        obtain ⟨inside, rfl, hinside⟩ := readString_eq_ok_iff.mp hread
        obtain ⟨ha, rfl⟩ := choose_eq_ok_iff.mp h
        exact ⟨'"' :: inside ++ ['"'], by simp [hspace, hc], .name ⟨inside, rfl, hinside⟩ ha⟩
    next =>
      split at h
      next hc =>
        subst hc
        split at h
        next => cases h
        next =>
          split at h
          next => cases h
          next name behind hkey =>
            split at h
            next => cases h
            next hchoose =>
              obtain ⟨ha, rfl⟩ := choose_eq_ok_iff.mp hchoose
              split at h
              next => cases h
              next value hcolon =>
                split at h
                next => cases h
                next last hnull =>
                  split at h
                  next => cases h
                  next d end? hend =>
                    split at h
                    next hd =>
                      cases h
                      subst hd
                      obtain ⟨inside, hkey, hspells⟩ := readOnlyKey_eq_ok_iff.mp hkey
                      obtain ⟨tail, rfl, hmembers⟩ := exists_members_null hkey hspells
                        (expectColon_eq_ok_iff.mp hcolon) (readNull_eq_ok_iff.mp hnull) hend
                      exact ⟨'{' :: tail, hspace, .key hmembers ha⟩
                    next => cases h
      next => cases h

theorem readChoice_of_chooses {depth : Nat} (hdepth : 1 < depth) {text cs rest : List Char}
    (h : Chooses choices text a) (hspace : skipSpace cs = text ++ rest) :
    readChoice choices depth cs = .ok (a, rest) := by
  cases h with
  | @name text name _ h ha =>
      obtain ⟨inside, rfl, hinside⟩ := h
      rw [List.cons_append, List.cons_append, List.append_assoc] at hspace
      simp only [readChoice, hspace, ↓reduceIte, List.singleton_append,
        readString_of_spells hinside, choose_eq_ok_iff.mpr ⟨ha, rfl⟩]
  | @key tail name _ h ha =>
      cases h with
      | @cons _ _ _ _ _ lead inside colon value behind _ hlead hkey hspells hcolon hnull _
          hothers =>
          cases hothers with
          | nil hclose =>
              obtain rfl : tail = lead := Eq.symm hlead
              have hkey : readOnlyKey (tail ++ rest) = .ok (name, colon ++ rest) := by
                rw [readOnlyKey_eq_ok_iff]
                exact ⟨inside, by rw [skipSpace_append hkey]; simp, hspells⟩
              have hcolon : expectColon (colon ++ rest) = .ok (value ++ rest) :=
                expectColon_eq_ok_iff.mpr (skipSpace_append hcolon rest)
              have hnull : readNull "unit" (value ++ rest) = .ok ((), behind ++ rest) := by
                rw [readNull_eq_ok_iff, skipSpace_append hnull]
                rfl
              simp only [readChoice, hspace, List.cons_append, Char.reduceEq, ↓reduceIte,
                Nat.not_le.mpr hdepth, hkey, choose_eq_ok_iff.mpr ⟨ha, rfl⟩, hcolon, hnull,
                skipSpace_append hclose, List.nil_append]

theorem reads_readChoice {depth : Nat} (hdepth : 1 < depth) (choices : List (String × α)) :
    Reads (readChoice choices depth) (Chooses choices) where
  value := Chooses.isValue
  sound := readChoice_eq_ok
  complete h hspace _ := readChoice_of_chooses hdepth h hspace

end SessionKeeper.Json
