import Mathlib.Algebra.Group.Int.Defs
import Mathlib.Algebra.Group.Nat.Defs
import Mathlib.Data.List.TakeWhile
import SessionKeeper.Json.Number

/-!
# What a number looks like

A number has a sign, digits without a leading zero, a fraction and an exponent, of which only the
digits have to be there. Passing over a number stops behind the longest such text. Reading it gives
an integer exactly if there are only a sign and digits, and the integer that they denote has 64
bits; minus zero is no integer.
-/

namespace SessionKeeper.Json

/-! ## The grammar -/

/-- One digit or more. -/
def AreDigits (ds : List Char) : Prop :=
  ds ≠ [] ∧ ∀ c ∈ ds, c.isDigit = true

/-- The digits of a natural number: a zero in front stands alone. -/
def IsWhole (ds : List Char) : Prop :=
  AreDigits ds ∧ (ds.head? = some '0' → ds = ['0'])

/-- What may follow the digits of a number: a point with digits, or nothing. -/
def IsFraction (cs : List Char) : Prop :=
  cs = [] ∨ ∃ ds, cs = '.' :: ds ∧ AreDigits ds

/-- What may follow the fraction of a number: an exponent with digits, or nothing. -/
def IsExponent (cs : List Char) : Prop :=
  cs = [] ∨ ∃ e sign ds, cs = e :: (sign ++ ds) ∧ (e = 'e' ∨ e = 'E') ∧
    (sign = [] ∨ sign = ['+'] ∨ sign = ['-']) ∧ AreDigits ds

/-- A number behind its sign. -/
def IsUnsigned (cs : List Char) : Prop :=
  ∃ whole fraction exponent, cs = whole ++ (fraction ++ exponent) ∧ IsWhole whole ∧
    IsFraction fraction ∧ IsExponent exponent

/-- A number. -/
def IsNumber (cs : List Char) : Prop :=
  IsUnsigned cs ∨ ∃ unsigned, cs = '-' :: unsigned ∧ IsUnsigned unsigned

/-- No digit stands in front of a rest. -/
def NoDigit (rest : List Char) : Prop :=
  ∀ c tail, rest = c :: tail → c.isDigit = false

/-- A number cannot go on with a rest. -/
def Stops (rest : List Char) : Prop :=
  ∀ c tail, rest = c :: tail → c.isDigit = false ∧ c ≠ '.' ∧ c ≠ 'e' ∧ c ≠ 'E'

/-- The integer that a literal without fraction and exponent denotes, if that is not minus zero. -/
def Denotes (literal : List Char) (n : Int) : Prop :=
  ∃ ds, IsWhole ds ∧ (literal = ds ∧ n = Nat.ofDigitChars 10 ds 0 ∨
    literal = '-' :: ds ∧ n = -(Nat.ofDigitChars 10 ds 0 : Int) ∧ n ≠ 0)

theorem Stops.noDigit {rest : List Char} (h : Stops rest) : NoDigit rest :=
  fun c tail heq => (h c tail heq).1

theorem noDigit_nil : NoDigit [] := nofun

theorem stops_nil : Stops [] := nofun

theorem NoDigit.dropWhile_eq {rest : List Char} (h : NoDigit rest) :
    rest.dropWhile Char.isDigit = rest := by
  cases rest with
  | nil => rfl
  | cons c tail => exact List.dropWhile_cons_of_neg (by simp [h c tail rfl])

/-- Digits in front of a rest are dropped, whatever was in front of them. -/
theorem AreDigits.dropWhile_eq {c : Char} {ds rest : List Char} (h : AreDigits (c :: ds))
    (hrest : NoDigit rest) : (ds ++ rest).dropWhile Char.isDigit = rest := by
  rw [List.dropWhile_append_of_pos fun d hd => h.2 d (List.mem_cons_of_mem c hd),
    hrest.dropWhile_eq]

theorem areDigits_takeWhile {c : Char} (hc : c.isDigit = true) (cs : List Char) :
    AreDigits (c :: cs.takeWhile Char.isDigit) := by
  refine ⟨List.cons_ne_nil _ _, ?_⟩
  intro d hd
  rcases List.mem_cons.mp hd with rfl | hd
  · exact hc
  · exact List.mem_takeWhile_imp hd

/-! ## Passing over a number -/

theorem isExponent_of_skipExponent {e : Char} (he : e = 'e' ∨ e = 'E') {cs rest : List Char}
    (h : skipExponent cs = .ok rest) : ∃ ds, e :: cs = ds ++ rest ∧ IsExponent ds := by
  -- a sign is a character of its own, which the digits follow
  have hsign : ∃ sign, cs = sign ++ (readExponentSign cs).2 ∧
      (sign = [] ∨ sign = ['+'] ∨ sign = ['-']) := by
    cases cs with
    | nil => exact ⟨[], rfl, .inl rfl⟩
    | cons c cs =>
        rw [readExponentSign]
        split
        next hplus => exact ⟨['+'], by rw [hplus]; rfl, .inr (.inl rfl)⟩
        split
        next hminus => exact ⟨['-'], by rw [hminus]; rfl, .inr (.inr rfl)⟩
        next => exact ⟨[], rfl, .inl rfl⟩
  obtain ⟨sign, hcs, hsign⟩ := hsign
  rw [skipExponent] at h
  split at h
  next => cases h
  next c tail htail =>
    split at h
    next hdigit =>
      cases h
      refine ⟨e :: (sign ++ c :: tail.takeWhile Char.isDigit), ?_,
        .inr ⟨e, sign, _, rfl, he, hsign, areDigits_takeWhile hdigit tail⟩⟩
      rw [hcs, htail]
      simp [List.takeWhile_append_dropWhile]
    next => cases h

theorem isExponent_of_skipScale {cs rest : List Char} (h : skipScale cs = .ok rest) :
    ∃ exponent, cs = exponent ++ rest ∧ IsExponent exponent := by
  unfold skipScale at h
  split at h
  next =>
    cases h
    exact ⟨[], rfl, .inl rfl⟩
  next c tail =>
    split at h
    next he => exact isExponent_of_skipExponent he h
    next =>
      cases h
      exact ⟨[], rfl, .inl rfl⟩

theorem isFraction_of_skipFraction {cs rest : List Char} (h : skipFraction cs = .ok rest) :
    ∃ fraction exponent, cs = fraction ++ exponent ++ rest ∧ IsFraction fraction ∧
      IsExponent exponent := by
  unfold skipFraction at h
  split at h
  next =>
    cases h
    exact ⟨[], [], rfl, .inl rfl, .inl rfl⟩
  next c tail =>
    split at h
    next hpoint =>
      split at h
      next => cases h
      next d tail =>
        split at h
        next hdigit =>
          rw [List.dropWhile_cons_of_pos hdigit] at h
          obtain ⟨exponent, heq, hexponent⟩ := isExponent_of_skipScale h
          refine ⟨'.' :: d :: tail.takeWhile Char.isDigit, exponent, ?_,
            .inr ⟨_, rfl, areDigits_takeWhile hdigit tail⟩, hexponent⟩
          rw [hpoint, List.append_assoc, ← heq]
          simp [List.takeWhile_append_dropWhile]
        next => cases h
    next =>
      obtain ⟨exponent, heq, hexponent⟩ := isExponent_of_skipScale h
      exact ⟨[], exponent, heq, .inl rfl, hexponent⟩

theorem isUnsigned_of_skipUnsigned {cs rest : List Char} (h : skipUnsigned cs = .ok rest) :
    ∃ unsigned, cs = unsigned ++ rest ∧ IsUnsigned unsigned := by
  have hzero : IsWhole ['0'] := ⟨⟨nofun, by simp⟩, fun _ => rfl⟩
  unfold skipUnsigned at h
  split at h
  next => cases h
  next c tail =>
    split at h
    next hc =>
      subst hc
      split at h
      next =>
        cases h
        exact ⟨['0'], rfl, ['0'], [], [], rfl, hzero, .inl rfl, .inl rfl⟩
      next d tail =>
        split at h
        next => cases h
        next =>
          obtain ⟨fraction, exponent, heq, hfraction, hexponent⟩ := isFraction_of_skipFraction h
          exact ⟨'0' :: (fraction ++ exponent), by rw [heq]; rfl, ['0'], fraction, exponent, rfl,
            hzero, hfraction, hexponent⟩
    next hnonzero =>
      split at h
      next hdigit =>
        obtain ⟨fraction, exponent, heq, hfraction, hexponent⟩ := isFraction_of_skipFraction h
        refine ⟨(c :: tail.takeWhile Char.isDigit) ++ (fraction ++ exponent), ?_, _, fraction,
          exponent, rfl, ⟨areDigits_takeWhile hdigit tail, fun hhead => ?_⟩, hfraction, hexponent⟩
        · rw [List.append_assoc, ← heq, List.cons_append, List.takeWhile_append_dropWhile]
        · exact absurd (Option.some.inj hhead) hnonzero
      next => cases h

theorem isNumber_of_skipNumber {c : Char} {cs rest : List Char} (h : skipNumber c cs = .ok rest) :
    ∃ number, c :: cs = number ++ rest ∧ IsNumber number := by
  rw [skipNumber] at h
  split at h
  next hminus =>
    obtain ⟨unsigned, rfl, hunsigned⟩ := isUnsigned_of_skipUnsigned h
    exact ⟨'-' :: unsigned, by rw [hminus]; rfl, .inr ⟨unsigned, rfl, hunsigned⟩⟩
  next =>
    obtain ⟨unsigned, heq, hunsigned⟩ := isUnsigned_of_skipUnsigned h
    exact ⟨unsigned, heq, .inl hunsigned⟩

theorem skipScale_of_isExponent {exponent rest : List Char} (h : IsExponent exponent)
    (hrest : Stops rest) : skipScale (exponent ++ rest) = .ok rest := by
  rcases h with rfl | ⟨e, sign, ds, rfl, he, hsign, hds⟩
  · cases rest with
    | nil => rfl
    | cons c tail =>
        obtain ⟨-, -, he, hE⟩ := hrest c tail rfl
        rw [List.nil_append, skipScale, if_neg (by simp [he, hE])]
  · obtain ⟨d, ds, rfl⟩ := List.exists_cons_of_ne_nil hds.1
    have hdigit := hds.2 d List.mem_cons_self
    have hread : (readExponentSign (sign ++ d :: ds ++ rest)).2 = d :: (ds ++ rest) := by
      rcases hsign with rfl | rfl | rfl
      · rw [List.nil_append, List.cons_append, readExponentSign, if_neg, if_neg]
        · rintro rfl
          cases hdigit
        · rintro rfl
          cases hdigit
      · rfl
      · rfl
    rw [List.cons_append, skipScale, if_pos he, skipExponent, hread]
    simp only [hdigit, ↓reduceIte, hds.dropWhile_eq hrest.noDigit]

/-- What follows the point of a number, or its digits if it has no point, is no digit. -/
theorem noDigit_of_isExponent {exponent rest : List Char} (h : IsExponent exponent)
    (hrest : Stops rest) : NoDigit (exponent ++ rest) := by
  rcases h with rfl | ⟨e, sign, ds, rfl, he, -, -⟩
  · exact hrest.noDigit
  · intro c tail heq
    obtain ⟨rfl, -⟩ := List.cons.inj heq
    rcases he with rfl | rfl <;> rfl

theorem skipFraction_of_isFraction {fraction exponent rest : List Char}
    (hfraction : IsFraction fraction) (hexponent : IsExponent exponent) (hrest : Stops rest) :
    skipFraction (fraction ++ exponent ++ rest) = .ok rest := by
  have hscale := skipScale_of_isExponent hexponent hrest
  rcases hfraction with rfl | ⟨ds, rfl, hds⟩
  · rw [List.nil_append]
    generalize hcs : exponent ++ rest = cs at hscale
    cases cs with
    | nil => exact hscale
    | cons c tail =>
        have hpoint : c ≠ '.' := by
          rcases hexponent with rfl | ⟨e, sign, ds, rfl, he, -, -⟩
          · exact (hrest c tail hcs).2.1
          · obtain ⟨rfl, -⟩ := List.cons.inj hcs
            rcases he with rfl | rfl <;> decide
        simp only [skipFraction, hpoint, ↓reduceIte, hscale]
  · obtain ⟨d, ds, rfl⟩ := List.exists_cons_of_ne_nil hds.1
    have hdigit := hds.2 d List.mem_cons_self
    have hdrop := hds.dropWhile_eq (noDigit_of_isExponent hexponent hrest)
    simp only [List.cons_append, List.append_assoc, skipFraction, hdigit, ↓reduceIte,
      List.dropWhile_cons_of_pos, hdrop, hscale]

theorem noDigit_of_isFraction {fraction exponent rest : List Char}
    (hfraction : IsFraction fraction) (hexponent : IsExponent exponent) (hrest : Stops rest) :
    NoDigit (fraction ++ exponent ++ rest) := by
  rcases hfraction with rfl | ⟨ds, rfl, -⟩
  · exact noDigit_of_isExponent hexponent hrest
  · intro c tail heq
    obtain ⟨rfl, -⟩ := List.cons.inj heq
    rfl

theorem skipUnsigned_of_isUnsigned {unsigned rest : List Char} (h : IsUnsigned unsigned)
    (hrest : Stops rest) : skipUnsigned (unsigned ++ rest) = .ok rest := by
  obtain ⟨whole, fraction, exponent, rfl, ⟨hdigits, hlead⟩, hfraction, hexponent⟩ := h
  have hskip := skipFraction_of_isFraction hfraction hexponent hrest
  have hnone := noDigit_of_isFraction hfraction hexponent hrest
  rw [List.append_assoc]
  generalize fraction ++ exponent ++ rest = cs at hskip hnone
  obtain ⟨c, ds, rfl⟩ := List.exists_cons_of_ne_nil hdigits.1
  by_cases hzero : c = '0'
  · subst hzero
    obtain rfl : ds = [] := (List.cons.inj (hlead rfl)).2
    cases cs with
    | nil => exact hskip
    | cons d tail =>
        simp only [List.singleton_append, skipUnsigned, hnone d tail rfl, Bool.false_eq_true,
          ↓reduceIte, hskip]
  · simp only [List.cons_append, skipUnsigned, hzero, ↓reduceIte,
      hdigits.2 c List.mem_cons_self, hdigits.dropWhile_eq hnone, hskip]

theorem IsUnsigned.exists_cons {unsigned : List Char} (h : IsUnsigned unsigned) :
    ∃ c tail, unsigned = c :: tail ∧ c.isDigit = true := by
  obtain ⟨whole, fraction, exponent, rfl, ⟨hdigits, -⟩, -, -⟩ := h
  obtain ⟨c, ds, rfl⟩ := List.exists_cons_of_ne_nil hdigits.1
  exact ⟨c, _, rfl, hdigits.2 c List.mem_cons_self⟩

/-- A number begins with a minus sign or a digit. -/
theorem IsNumber.exists_cons {number : List Char} (h : IsNumber number) :
    ∃ c tail, number = c :: tail ∧ (c = '-' ∨ c.isDigit = true) := by
  rcases h with h | ⟨unsigned, rfl, -⟩
  · obtain ⟨c, tail, rfl, hdigit⟩ := h.exists_cons
    exact ⟨c, tail, rfl, .inr hdigit⟩
  · exact ⟨'-', unsigned, rfl, .inl rfl⟩

theorem IsNumber.head {c : Char} {digits : List Char} (h : IsNumber (c :: digits)) :
    c = '-' ∨ c.isDigit = true := by
  obtain ⟨_, _, heq, hc⟩ := h.exists_cons
  obtain ⟨rfl, -⟩ := List.cons.inj heq
  exact hc

theorem IsNumber.head_ne {c d : Char} {digits : List Char} (h : IsNumber (c :: digits))
    (hminus : d ≠ '-') (hdigit : d.isDigit = false) : c ≠ d := by
  rintro rfl
  rcases h.head with rfl | hc
  · exact hminus rfl
  · rw [hdigit] at hc
    cases hc

theorem skipNumber_of_isNumber {c : Char} {tail rest : List Char} (h : IsNumber (c :: tail))
    (hrest : Stops rest) : skipNumber c (tail ++ rest) = .ok rest := by
  rcases h with h | ⟨unsigned, heq, hunsigned⟩
  · obtain ⟨d, ds, heq, hdigit⟩ := h.exists_cons
    obtain ⟨rfl, rfl⟩ := List.cons.inj heq
    rw [skipNumber, if_neg]
    · exact skipUnsigned_of_isUnsigned h hrest
    · rintro rfl
      cases hdigit
  · obtain ⟨rfl, rfl⟩ := List.cons.inj heq
    rw [skipNumber, if_pos rfl]
    exact skipUnsigned_of_isUnsigned hunsigned hrest

/-! ## Integers -/

/-- A number that is an integer. -/
def Number.ofInt : Int → Number
  | .ofNat n => .natural n
  | .negSucc n => .negative (.negSucc n)

theorem le_ofDigitChars (ds : List Char) (n : Nat) : n ≤ Nat.ofDigitChars 10 ds n := by
  induction ds generalizing n with
  | nil => exact Nat.le_refl n
  | cons c ds ih =>
      rw [Nat.ofDigitChars_cons]
      exact Nat.le_trans (by omega) (ih _)

/-- Digits are taken into the significand as long as it fits. -/
theorem readSignificand_of_digits {ds rest : List Char} (hds : ∀ c ∈ ds, c.isDigit = true)
    (hrest : NoDigit rest) {n : Nat} (hfits : Nat.ofDigitChars 10 ds n ≤ maxSignificand) :
    readSignificand n 0 (ds ++ rest) = (Nat.ofDigitChars 10 ds n, 0, rest) := by
  induction ds generalizing n with
  | nil =>
      cases rest with
      | nil => rfl
      | cons c tail => simp [readSignificand, hrest c tail rfl]
  | cons c ds ih =>
      rw [Nat.ofDigitChars_cons, Nat.mul_comm] at hfits ⊢
      have hfit : n * 10 + digit c ≤ maxSignificand := Nat.le_trans (le_ofDigitChars ds _) hfits
      rw [List.cons_append, readSignificand, if_pos (hds c List.mem_cons_self),
        if_pos ⟨rfl, hfit⟩]
      exact ih (fun d hd => hds d (List.mem_cons_of_mem c hd)) hfits

/-- If nothing was dropped, the significand is that of all the digits. -/
theorem digits_of_readSignificand {n dropped m : Nat} {cs rest : List Char}
    (h : readSignificand n dropped cs = (m, 0, rest)) :
    dropped = 0 ∧ ∃ ds, cs = ds ++ rest ∧ (∀ c ∈ ds, c.isDigit = true) ∧ NoDigit rest ∧
      m = Nat.ofDigitChars 10 ds n := by
  induction cs generalizing n dropped with
  | nil =>
      cases h
      exact ⟨rfl, [], rfl, nofun, noDigit_nil, rfl⟩
  | cons c cs ih =>
      rw [readSignificand] at h
      split at h
      next hdigit =>
        split at h
        next hfit =>
          obtain ⟨-, ds, rfl, hds, hrest, rfl⟩ := ih h
          refine ⟨hfit.1, c :: ds, rfl, ?_, hrest, ?_⟩
          · intro d hd
            rcases List.mem_cons.mp hd with rfl | hd
            · exact hdigit
            · exact hds d hd
          · rw [Nat.ofDigitChars_cons, Nat.mul_comm]
            rfl
        next => exact absurd (ih h).1 (Nat.succ_ne_zero dropped)
      next hdigit =>
        cases h
        refine ⟨rfl, [], rfl, nofun, ?_, rfl⟩
        intro d tail heq
        obtain ⟨rfl, -⟩ := List.cons.inj heq
        simpa using hdigit

theorem isFloating_of_ofParts {positive : Bool} {m : Nat} {exponent : Int} {cs rest : List Char}
    {number : Number} (h : ofParts positive m exponent cs = .ok (number, rest)) :
    ∃ bits, number = .floating bits := by
  unfold ofParts at h
  split at h
  next => cases h
  next => exact ⟨_, (Prod.mk.inj (Except.ok.inj h)).1.symm⟩

theorem isFloating_of_readExponent {positive : Bool} {m : Nat} {start : Int} {cs rest : List Char}
    {number : Number} (h : readExponent positive m start cs = .ok (number, rest)) :
    ∃ bits, number = .floating bits := by
  unfold readExponent at h
  dsimp only at h
  split at h
  next => cases h
  next =>
    split at h
    next =>
      split at h
      next => exact isFloating_of_ofParts h
      next =>
        split at h
        next => cases h
        next => exact ⟨_, (Prod.mk.inj (Except.ok.inj h)).1.symm⟩
    next => cases h

theorem isFloating_of_readDecimal {positive : Bool} {m : Nat} {start : Int} {cs rest : List Char}
    {number : Number} (h : readDecimal positive m start cs = .ok (number, rest)) :
    ∃ bits, number = .floating bits := by
  unfold readDecimal at h
  split at h
  next => cases h
  next =>
    split at h
    next =>
      dsimp only at h
      unfold finishDecimal at h
      split at h
      next => exact isFloating_of_ofParts h
      next =>
        split at h
        next => exact isFloating_of_readExponent h
        next => exact isFloating_of_ofParts h
    next => cases h

/-- What has a fraction or an exponent is a double, and so is what has too many digits. -/
theorem finishInteger_eq_ok {positive : Bool} {m dropped : Nat} {cs rest : List Char}
    {number : Number} (h : finishInteger positive m dropped cs = .ok (number, rest)) :
    (∃ bits, number = .floating bits) ∨
      dropped = 0 ∧ rest = cs ∧ number = ofSignificand positive m ∧
        ∀ c tail, cs = c :: tail → c ≠ '.' ∧ c ≠ 'e' ∧ c ≠ 'E' := by
  unfold finishInteger at h
  split at h
  next =>
    split at h
    next hdropped =>
      obtain ⟨rfl, rfl⟩ := Prod.mk.inj (Except.ok.inj h)
      exact .inr ⟨hdropped, rfl, rfl, nofun⟩
    next => exact .inl (isFloating_of_ofParts h)
  next c tail =>
    split at h
    next => exact .inl (isFloating_of_readDecimal h)
    next hpoint =>
      split at h
      next => exact .inl (isFloating_of_readExponent h)
      next hexponent =>
        split at h
        next hdropped =>
          obtain ⟨rfl, rfl⟩ := Prod.mk.inj (Except.ok.inj h)
          refine .inr ⟨hdropped, rfl, rfl, ?_⟩
          intro d rest heq
          obtain ⟨rfl, -⟩ := List.cons.inj heq
          exact ⟨hpoint, not_or.mp hexponent⟩
        next => exact .inl (isFloating_of_ofParts h)

theorem finishInteger_of_stops {rest : List Char} (hrest : Stops rest) (positive : Bool)
    (m : Nat) : finishInteger positive m 0 rest = .ok (ofSignificand positive m, rest) := by
  cases rest with
  | nil => rfl
  | cons c tail =>
      obtain ⟨-, hpoint, he, hE⟩ := hrest c tail rfl
      simp only [finishInteger, hpoint, he, hE, or_self, ↓reduceIte]

theorem ofDigitChars_cons_digit (c : Char) (ds : List Char) :
    Nat.ofDigitChars 10 (c :: ds) 0 = Nat.ofDigitChars 10 ds (digit c) := by
  rw [Nat.ofDigitChars_cons, Nat.mul_zero, Nat.zero_add]
  rfl

/-- What is no double was spelled by digits alone. -/
theorem readUnsigned_eq_ok {positive : Bool} {cs rest : List Char} {number : Number}
    (h : readUnsigned positive cs = .ok (number, rest)) :
    (∃ bits, number = .floating bits) ∨
      ∃ ds, cs = ds ++ rest ∧ IsWhole ds ∧ Stops rest ∧
        number = ofSignificand positive (Nat.ofDigitChars 10 ds 0) := by
  have hzero : IsWhole ['0'] := ⟨⟨nofun, by simp⟩, fun _ => rfl⟩
  unfold readUnsigned at h
  split at h
  next => cases h
  next c tail =>
    split at h
    next hc =>
      subst hc
      split at h
      next =>
        obtain hfloating | ⟨-, rfl, rfl, -⟩ := finishInteger_eq_ok h
        · exact .inl hfloating
        · exact .inr ⟨['0'], rfl, hzero, stops_nil, rfl⟩
      next d tail =>
        split at h
        next => cases h
        next hdigit =>
          obtain hfloating | ⟨-, rfl, rfl, hstops⟩ := finishInteger_eq_ok h
          · exact .inl hfloating
          · refine .inr ⟨['0'], rfl, hzero, fun e more heq => ⟨?_, hstops e more heq⟩, rfl⟩
            obtain ⟨rfl, -⟩ := List.cons.inj heq
            simpa using hdigit
    next hnonzero =>
      split at h
      next hdigit =>
        rcases hread : readSignificand (digit c) 0 tail with ⟨m, dropped, left⟩
        rw [hread] at h
        obtain hfloating | ⟨rfl, rfl, rfl, hstops⟩ := finishInteger_eq_ok h
        · exact .inl hfloating
        · obtain ⟨-, ds, heq, hds, hnone, hvalue⟩ := digits_of_readSignificand hread
          have hdigits : AreDigits (c :: ds) := by
            refine ⟨List.cons_ne_nil _ _, fun d hd => ?_⟩
            rcases List.mem_cons.mp hd with rfl | hd
            · exact hdigit
            · exact hds d hd
          refine .inr ⟨c :: ds, by rw [heq]; rfl, ⟨hdigits, fun hhead => ?_⟩,
            fun d more heq => ⟨hnone d more heq, hstops d more heq⟩, ?_⟩
          · exact absurd (Option.some.inj hhead) hnonzero
          · rw [hvalue, ofDigitChars_cons_digit]
      next => cases h

theorem readUnsigned_of_isWhole {ds rest : List Char} (h : IsWhole ds) (hrest : Stops rest)
    (hfits : Nat.ofDigitChars 10 ds 0 ≤ maxSignificand) (positive : Bool) :
    readUnsigned positive (ds ++ rest) =
      .ok (ofSignificand positive (Nat.ofDigitChars 10 ds 0), rest) := by
  obtain ⟨hdigits, hlead⟩ := h
  obtain ⟨c, ds, rfl⟩ := List.exists_cons_of_ne_nil hdigits.1
  have hfinish := finishInteger_of_stops hrest positive
  by_cases hzero : c = '0'
  · subst hzero
    obtain rfl : ds = [] := (List.cons.inj (hlead rfl)).2
    cases rest with
    | nil => exact hfinish 0
    | cons d tail =>
        simp only [List.singleton_append, readUnsigned, (hrest d tail rfl).1, Bool.false_eq_true,
          ↓reduceIte, hfinish]
        rfl
  · rw [ofDigitChars_cons_digit] at hfits ⊢
    have hread := readSignificand_of_digits
      (fun d hd => hdigits.2 d (List.mem_cons_of_mem c hd)) hrest.noDigit hfits
    simp only [List.cons_append, readUnsigned, hzero, hdigits.2 c List.mem_cons_self, ↓reduceIte,
      hread, hfinish]

theorem ofSignificand_true (m : Nat) : ofSignificand true m = .ofInt m := rfl

theorem ofSignificand_false {m : Nat} (hzero : m ≠ 0) (hfits : m ≤ 2 ^ 63) :
    ofSignificand false m = .ofInt (-m) := by
  obtain ⟨m, rfl⟩ := Nat.exists_eq_add_one_of_ne_zero hzero
  have hfits : ¬ (m + 1 = 0 ∨ Nat.pow 2 63 < m + 1) := by
    simp only [Nat.pow_eq]
    omega
  simp only [ofSignificand, Bool.false_eq_true, ↓reduceIte, hfits]
  rfl

/-- A number that is read is a double, or the integer that its literal denotes. -/
theorem readNumber_eq_ok {c : Char} {cs rest : List Char} {number : Number}
    (h : readNumber c cs = .ok (number, rest)) :
    (∃ bits, number = .floating bits) ∨
      ∃ literal n, c :: cs = literal ++ rest ∧ Denotes literal n ∧ Stops rest ∧
        -2 ^ 63 ≤ n ∧ number = .ofInt n := by
  rw [readNumber] at h
  split at h
  next hminus =>
    subst hminus
    obtain hfloating | ⟨ds, rfl, hds, hrest, rfl⟩ := readUnsigned_eq_ok h
    · exact .inl hfloating
    · by_cases hinteger : Nat.ofDigitChars 10 ds 0 = 0 ∨ Nat.pow 2 63 < Nat.ofDigitChars 10 ds 0
      · rw [ofSignificand, if_neg Bool.false_ne_true, if_pos hinteger]
        exact .inl ⟨_, rfl⟩
      · obtain ⟨hzero, hfits⟩ := not_or.mp hinteger
        rw [Nat.pow_eq] at hfits
        refine .inr ⟨'-' :: ds, _, rfl, ⟨ds, hds, .inr ⟨rfl, rfl, by omega⟩⟩, hrest, by omega,
          ofSignificand_false hzero (by omega)⟩
  next =>
    obtain hfloating | ⟨ds, heq, hds, hrest, rfl⟩ := readUnsigned_eq_ok h
    · exact .inl hfloating
    · exact .inr ⟨ds, _, heq, ⟨ds, hds, .inl ⟨rfl, rfl⟩⟩, hrest, by omega, ofSignificand_true _⟩

/-- A literal is read as the integer that it denotes, if that has 64 bits. -/
theorem readNumber_of_denotes {c : Char} {tail rest : List Char} {n : Int}
    (h : Denotes (c :: tail) n) (hrest : Stops rest) (hlow : -2 ^ 63 ≤ n) (hhigh : n < 2 ^ 64) :
    readNumber c (tail ++ rest) = .ok (.ofInt n, rest) := by
  obtain ⟨ds, hds, ⟨rfl, rfl⟩ | ⟨heq, rfl, hzero⟩⟩ := h
  · have hfits : Nat.ofDigitChars 10 (c :: tail) 0 ≤ maxSignificand := by
      simp only [maxSignificand, Nat.pow_eq]
      omega
    rw [readNumber, if_neg]
    · exact readUnsigned_of_isWhole hds hrest hfits true
    · rintro rfl
      cases hds.1.2 _ List.mem_cons_self
  · obtain ⟨rfl, rfl⟩ := List.cons.inj heq
    have hfits : Nat.ofDigitChars 10 tail 0 ≤ maxSignificand := by
      simp only [maxSignificand, Nat.pow_eq]
      omega
    rw [readNumber, if_pos rfl, readUnsigned_of_isWhole hds hrest hfits,
      ofSignificand_false (by omega) (by omega)]

/-! ## Decimal digits -/

theorem digitChar_digit {c : Char} (h : c.isDigit = true) :
    digit c < 10 ∧ Nat.digitChar (digit c) = c := by
  have hrange : 48 ≤ c.toNat ∧ c.toNat ≤ 57 := by
    simp only [Char.isDigit, Bool.and_eq_true, decide_eq_true_eq] at h
    exact ⟨UInt32.le_iff_toNat_le.mp h.1, UInt32.le_iff_toNat_le.mp h.2⟩
  have hdigits : ∀ n < 10, Nat.digitChar n = Char.ofNat (n + 48) := by decide
  refine ⟨by rw [digit]; omega, ?_⟩
  rw [digit, hdigits _ (by omega), Nat.sub_add_cancel hrange.1, Char.ofNat_toNat]

theorem toDigits_ofDigitChars {ds : List Char} (hds : ∀ c ∈ ds, c.isDigit = true) {n : Nat}
    (hn : 0 < n) : Nat.toDigits 10 (Nat.ofDigitChars 10 ds n) = Nat.toDigits 10 n ++ ds := by
  induction ds generalizing n with
  | nil => exact (List.append_nil _).symm
  | cons c ds ih =>
      obtain ⟨hlt, hchar⟩ := digitChar_digit (hds c List.mem_cons_self)
      have hdigits : Nat.toDigits 10 (10 * n + digit c) = Nat.toDigits 10 n ++ [c] := by
        rw [← Nat.toDigits_append_toDigits (by decide) hn hlt, Nat.toDigits_of_lt_base hlt, hchar]
      rw [Nat.ofDigitChars_cons]
      refine (ih (fun d hd => hds d (List.mem_cons_of_mem c hd)) (by omega)).trans ?_
      rw [show c.toNat - '0'.toNat = digit c from rfl, hdigits, List.append_assoc]
      rfl

/-- The digits of a natural number are the ones it is written with. -/
theorem IsWhole.toDigits_eq {ds : List Char} (h : IsWhole ds) :
    Nat.toDigits 10 (Nat.ofDigitChars 10 ds 0) = ds := by
  obtain ⟨hdigits, hlead⟩ := h
  obtain ⟨c, ds, rfl⟩ := List.exists_cons_of_ne_nil hdigits.1
  obtain ⟨hlt, hchar⟩ := digitChar_digit (hdigits.2 c List.mem_cons_self)
  by_cases hzero : c = '0'
  · subst hzero
    obtain rfl : ds = [] := (List.cons.inj (hlead rfl)).2
    rfl
  · have hpos : 0 < digit c := by
      refine Nat.pos_of_ne_zero fun hdigit => hzero ?_
      rw [← hchar, hdigit]
      rfl
    rw [ofDigitChars_cons_digit,
      toDigits_ofDigitChars (fun d hd => hdigits.2 d (List.mem_cons_of_mem c hd)) hpos,
      Nat.toDigits_of_lt_base hlt, hchar]
    rfl

/-- There is one literal for an integer: the text that it is written as. -/
theorem Denotes.eq_toString {literal : List Char} {n : Int} (h : Denotes literal n) :
    literal = (toString n).toList := by
  obtain ⟨ds, hds, ⟨rfl, rfl⟩ | ⟨rfl, rfl, hzero⟩⟩ := h
  · have hrepr : toString (Nat.ofDigitChars 10 literal 0 : Int) =
        String.ofList (Nat.toDigits 10 (Nat.ofDigitChars 10 literal 0)) := rfl
    rw [hrepr, String.toList_ofList, hds.toDigits_eq]
  · have hvalue := hds.toDigits_eq
    obtain ⟨m, hm⟩ := Nat.exists_eq_add_one_of_ne_zero (n := Nat.ofDigitChars 10 ds 0) (by omega)
    rw [hm] at hvalue ⊢
    have hrepr : toString (-(m + 1 : Nat) : Int) =
        "-" ++ String.ofList (Nat.toDigits 10 (m + 1)) := rfl
    rw [hrepr, hvalue]
    simp only [String.toList_append, String.toList_ofList]
    rfl

theorem head?_toDigits {n : Nat} (hn : n ≠ 0) : (Nat.toDigits 10 n).head? ≠ some '0' := by
  have hdigits : ∀ n < 10, Nat.digitChar n = '0' → n = 0 := by decide
  induction n using Nat.strongRecOn with
  | ind n ih =>
      rw [Nat.toDigits_eq_if (by decide)]
      split
      next hlt => exact fun h => hn (hdigits n hlt (Option.some.inj h))
      next hle =>
        have hfirst := ih (n / 10) (by omega) (by omega)
        have hne : Nat.toDigits 10 (n / 10) ≠ [] := Nat.toDigits_ne_nil
        obtain ⟨c, ds, hds⟩ := List.exists_cons_of_ne_nil hne
        rwa [hds] at hfirst ⊢

theorem isWhole_toDigits (n : Nat) : IsWhole (Nat.toDigits 10 n) := by
  refine ⟨⟨Nat.toDigits_ne_nil, fun c hc => Nat.isDigit_of_mem_toDigits (by decide) (by decide) hc⟩,
    fun hhead => ?_⟩
  by_cases hn : n = 0
  · subst hn
    rfl
  · exact absurd hhead (head?_toDigits hn)

/-- A natural number is what the digits denote that it is written with. -/
theorem denotes_toDigits (n : Nat) : Denotes (Nat.toDigits 10 n) n :=
  ⟨_, isWhole_toDigits n, .inl ⟨rfl, by rw [Nat.ofDigitChars_ten_toDigits]⟩⟩

/-- An integer has one literal: the text that it is written as. -/
theorem denotes_iff {literal : List Char} {n : Int} :
    Denotes literal n ↔ literal = (toString n).toList := by
  refine ⟨Denotes.eq_toString, ?_⟩
  rintro rfl
  cases n with
  | ofNat n =>
      have hrepr : toString (Int.ofNat n) = String.ofList (Nat.toDigits 10 n) := rfl
      rw [hrepr, String.toList_ofList]
      exact denotes_toDigits n
  | negSucc n =>
      have hrepr : toString (Int.negSucc n) = "-" ++ String.ofList (Nat.toDigits 10 (n + 1)) := rfl
      simp only [hrepr, String.toList_append, String.toList_ofList]
      refine ⟨_, isWhole_toDigits (n + 1), .inr ⟨rfl, ?_, Int.negSucc_ne_zero n⟩⟩
      rw [Nat.ofDigitChars_ten_toDigits]
      rfl

theorem Denotes.unique {literal : List Char} {m n : Int} (hm : Denotes literal m)
    (hn : Denotes literal n) : m = n := by
  obtain ⟨ds, hds, ⟨rfl, rfl⟩ | ⟨rfl, rfl, -⟩⟩ := hm
  · obtain ⟨ds, -, ⟨rfl, rfl⟩ | ⟨rfl, -, -⟩⟩ := hn
    · rfl
    · cases hds.1.2 _ List.mem_cons_self
  · obtain ⟨ds', hds', ⟨rfl, rfl⟩ | ⟨heq, rfl, -⟩⟩ := hn
    · cases hds'.1.2 _ List.mem_cons_self
    · obtain ⟨-, rfl⟩ := List.cons.inj heq
      rfl

/-- Two integers are never written alike. -/
theorem toString_inj {m n : Int} : toString m = toString n ↔ m = n := by
  refine ⟨fun h => ?_, fun h => by rw [h]⟩
  exact (denotes_iff.mpr rfl : Denotes (toString m).toList m).unique
    (denotes_iff.mpr (by rw [h]))

theorem Denotes.isNumber {literal : List Char} {n : Int} (h : Denotes literal n) :
    IsNumber literal := by
  obtain ⟨ds, hds, hsign⟩ := h
  have hunsigned : IsUnsigned ds := ⟨ds, [], [], by simp, hds, .inl rfl, .inl rfl⟩
  rcases hsign with ⟨rfl, -⟩ | ⟨rfl, -, -⟩
  · exact .inl hunsigned
  · exact .inr ⟨ds, rfl, hunsigned⟩

end SessionKeeper.Json
