import SessionKeeper.Environment
import SessionKeeper.Proofs.Json.Numeral
import SessionKeeper.Proofs.Json.Text

/-!
# Settings that variables go before

Five variables of the environment, each for one of the settings. The timeout and the backend are
spelled in a text that can be wrong; the others are taken as they are. A wrong text is refused with
the settings as a whole, the timeout first, and otherwise each setting comes from its own variable
alone, so that applying the variables once more changes nothing.
-/

namespace SessionKeeper

/-! ## Numbers -/

namespace Text

/-- A text spells a natural number of 64 bits: a plus sign or none, and decimal digits. -/
def SpellsNatural (s : String) (n : Nat) : Prop :=
  ∃ ds, (s.toList = ds ∨ s.toList = '+' :: ds) ∧ Json.AreDigits ds ∧
    n = Nat.ofDigitChars 10 ds 0 ∧ n < 2 ^ 64

variable {cs : List Char} {acc n : Nat} {s : String}

theorem readDigits_eq_ok_iff (hacc : acc < 2 ^ 64) :
    readDigits acc cs = .ok n ↔
      (∀ c ∈ cs, c.isDigit = true) ∧ n = Nat.ofDigitChars 10 cs acc ∧ n < 2 ^ 64 := by
  induction cs generalizing acc with
  | nil =>
      rw [readDigits, Except.ok.injEq]
      constructor
      · rintro rfl
        exact ⟨nofun, rfl, hacc⟩
      · rintro ⟨-, rfl, -⟩
        rfl
  | cons c cs ih =>
      have hnext : acc * 10 + digitValue c = 10 * acc + (c.toNat - '0'.toNat) := by
        rw [Nat.mul_comm]
        rfl
      rw [readDigits, List.forall_mem_cons, Nat.ofDigitChars_cons, ← hnext]
      split
      next hdigit =>
        dsimp only
        split
        next hfits => rw [ih hfits, and_iff_right hdigit]
        next hlarge =>
          -- what follows only makes the number greater
          refine ⟨nofun, fun ⟨_, hn, hlt⟩ => absurd ?_ hlarge⟩
          exact Nat.lt_of_le_of_lt (Json.le_ofDigitChars cs _) (hn ▸ hlt)
      next hother => exact ⟨nofun, fun ⟨⟨hdigit, _⟩, _⟩ => absurd hdigit hother⟩

theorem not_areDigits_plus {ds : List Char} : ¬ Json.AreDigits ('+' :: ds) :=
  fun h => absurd (h.2 '+' List.mem_cons_self) (by decide)

/-- A number is read exactly from the texts that spell it. -/
theorem readNatural_eq_ok_iff : readNatural s = .ok n ↔ SpellsNatural s n := by
  rw [readNatural, SpellsNatural]
  split
  next hs =>
    refine ⟨nofun, ?_⟩
    rintro ⟨ds, rfl | hds, hdigits, -⟩
    · exact absurd hs hdigits.1
    · rw [hs] at hds
      cases hds
  next hs =>
    refine ⟨nofun, ?_⟩
    rintro ⟨ds, rfl | hds, hdigits, -⟩
    · exact absurd (hs ▸ hdigits) not_areDigits_plus
    · rw [hs] at hds
      cases hds
      exact absurd rfl hdigits.1
  next ds hne hs =>
    rw [readDigits_eq_ok_iff (by decide)]
    constructor
    · rintro ⟨hdigits, hn, hlt⟩
      exact ⟨ds, .inr hs, ⟨hne, hdigits⟩, hn, hlt⟩
    · rintro ⟨ds', rfl | hds, hdigits, hn, hlt⟩
      · exact absurd (hs ▸ hdigits) not_areDigits_plus
      · obtain ⟨-, rfl⟩ := List.cons.inj (hs.symm.trans hds)
        exact ⟨hdigits.2, hn, hlt⟩
  next hempty hsign hplus =>
    rw [readDigits_eq_ok_iff (by decide)]
    constructor
    · rintro ⟨hdigits, hn, hlt⟩
      exact ⟨s.toList, .inl rfl, ⟨hempty, hdigits⟩, hn, hlt⟩
    · rintro ⟨ds, rfl | hds, hdigits, hn, hlt⟩
      · exact ⟨hdigits.2, hn, hlt⟩
      · exact absurd hds (hplus ds)

/-! ## Names -/

/-- Without white space around it, and with its ASCII letters lowered, a text is a name. -/
def ComesTo (s name : String) : Prop :=
  ∃ front core back, s.toList = front ++ core ++ back ∧ (∀ c ∈ front, isBlank c = true) ∧
    (∀ c ∈ back, isBlank c = true) ∧ core.map Char.toLower = name.toList

/-- No letter is white space, so lowering letters changes no white space. -/
theorem toLower_of_isBlank {c : Char} (h : isBlank c = true) : c.toLower = c := by
  delta Char.toLower
  split
  next hupper =>
    have hlow : 65 ≤ c.toNat := UInt32.le_iff_toNat_le.mp hupper.1
    have hhigh : c.toNat ≤ 90 := UInt32.le_iff_toNat_le.mp hupper.2
    simp only [isBlank, Bool.or_eq_true, Bool.and_eq_true, decide_eq_true_eq, beq_iff_eq] at h
    omega
  next => rfl

/-- What stands between white space is what trimming leaves, if it has none at its own ends. -/
theorem trimChars_append {front core back : List Char} (hfront : ∀ c ∈ front, isBlank c = true)
    (hback : ∀ c ∈ back, isBlank c = true) (hne : core ≠ [])
    (hcore : ∀ c ∈ core, isBlank c = false) : trimChars (front ++ core ++ back) = core := by
  have hkeep {ds : List Char} (rest : List Char) (hds : ds ≠ [])
      (hink : ∀ c ∈ ds, isBlank c = false) : (ds ++ rest).dropWhile isBlank = ds ++ rest := by
    obtain ⟨c, ds, rfl⟩ := List.exists_cons_of_ne_nil hds
    exact List.dropWhile_cons_of_neg (by simp [hink c List.mem_cons_self])
  have hlast : core.reverse.dropWhile isBlank = core.reverse := by
    have h := hkeep [] (mt List.reverse_eq_nil_iff.mp hne)
      fun c hc => hcore c (List.mem_reverse.mp hc)
    rwa [List.append_nil] at h
  rw [trimChars, List.append_assoc, List.dropWhile_append_of_pos hfront, hkeep back hne hcore,
    List.reverse_append, List.dropWhile_append_of_pos fun c hc => hback c (List.mem_reverse.mp hc),
    hlast, List.reverse_reverse]

/-- Trimming leaves what stands between white space. -/
theorem exists_trimChars (cs : List Char) :
    ∃ front back, cs = front ++ trimChars cs ++ back ∧ (∀ c ∈ front, isBlank c = true) ∧
      ∀ c ∈ back, isBlank c = true := by
  refine ⟨cs.takeWhile isBlank, ((cs.dropWhile isBlank).reverse.takeWhile isBlank).reverse, ?_,
    fun c hc => List.mem_takeWhile_imp hc, fun c hc => ?_⟩
  · rw [trimChars, List.append_assoc, ← List.reverse_append, List.takeWhile_append_dropWhile,
      List.reverse_reverse, List.takeWhile_append_dropWhile]
  · exact List.mem_takeWhile_imp (List.mem_reverse.mp hc)

/-- A name without white space is what a text is normalized to exactly if the text comes to it. -/
theorem normalized_eq_iff {name : String} (hne : name ≠ "")
    (hname : ∀ c ∈ name.toList, isBlank c = false) : normalized s = name ↔ ComesTo s name := by
  rw [normalized, ← String.toList_inj, String.toList_ofList]
  constructor
  · intro h
    obtain ⟨front, back, hs, hfront, hback⟩ := exists_trimChars s.toList
    exact ⟨front, _, back, hs, hfront, hback, h⟩
  · rintro ⟨front, core, back, hs, hfront, hback, hcore⟩
    rw [hs, trimChars_append hfront hback ?_ ?_, hcore]
    · rintro rfl
      exact hne (String.toList_inj.mp hcore.symm)
    · intro c hc
      by_contra hblank
      have hmem : c.toLower ∈ name.toList := hcore ▸ List.mem_map_of_mem hc
      rw [toLower_of_isBlank (by simpa using hblank)] at hmem
      exact hblank (hname c hmem)

end Text

namespace Backend

/-- The names of the backends. -/
inductive IsNamed : String → Backend → Prop
  | file : IsNamed "file" .file
  | keyring : IsNamed "keyring" .keychain
  | keychain : IsNamed "keychain" .keychain
  | memory : IsNamed "memory" .memory

/-- A text names a backend, whatever the case of its letters and the white space around it. -/
def IsNamedBy (s : String) (b : Backend) : Prop :=
  ∃ name, IsNamed name b ∧ Text.ComesTo s name

theorem mem_of_lookup {α : Type} {choices : List (String × α)} {name : String} {a : α}
    (h : choices.lookup name = some a) : (name, a) ∈ choices := by
  obtain ⟨before, behind, rfl, -⟩ := List.lookup_eq_some_iff.mp h
  exact List.mem_append_right _ List.mem_cons_self

theorem lookup_aliases_iff {name : String} {b : Backend} :
    aliases.lookup name = some b ↔ IsNamed name b := by
  constructor
  · intro h
    have hmem := mem_of_lookup h
    simp only [aliases, choices, label, List.cons_append, List.nil_append, List.mem_cons,
      Prod.mk.injEq, List.not_mem_nil, or_false] at hmem
    rcases hmem with ⟨rfl, rfl⟩ | ⟨rfl, rfl⟩ | ⟨rfl, rfl⟩ | ⟨rfl, rfl⟩
    · exact .file
    · exact .keyring
    · exact .memory
    · exact .keychain
  · rintro (_ | _ | _ | _) <;> rfl

theorem IsNamed.plain {name : String} {b : Backend} (h : IsNamed name b) :
    name ≠ "" ∧ ∀ c ∈ name.toList, Text.isBlank c = false := by
  cases h <;> simp [Text.isBlank]

/-- The backend of a text is the one that the text names. -/
theorem ofName_eq_ok_iff {s : String} {b : Backend} : ofName s = .ok b ↔ IsNamedBy s b := by
  have hlookup : ofName s = .ok b ↔ IsNamed (Text.normalized s) b := by
    rw [← lookup_aliases_iff, ofName]
    split
    next hfound => simp [hfound]
    next hnone => simp [hnone]
  rw [hlookup]
  constructor
  · intro h
    exact ⟨_, h, (Text.normalized_eq_iff h.plain.1 h.plain.2).mp rfl⟩
  · rintro ⟨name, hname, hcomes⟩
    rwa [(Text.normalized_eq_iff hname.plain.1 hname.plain.2).mpr hcomes]

end Backend

/-! ## Settings behind their variables -/

/-- A setting after a variable: what the text of the variable stands for, or what the setting was if
the variable is not set. -/
inductive Overrides {α : Type} (Text : String → α → Prop) : Option String → α → α → Prop
  | unset (a : α) : Overrides Text none a a
  | set {text : String} (a : α) {b : α} (h : Text text b) : Overrides Text (some text) a b

namespace Overrides

variable {α : Type} {Text : String → α → Prop} {text? : Option String} {a b : α}

/-- A second time the variable makes no difference. -/
theorem again (h : Overrides Text text? a b) : Overrides Text text? b b := by
  cases h with
  | unset => exact .unset a
  | set _ htext => exact .set b htext

theorem exists_iff (a : α) :
    (∃ b, Overrides Text text? a b) ↔ ∀ text, text? = some text → ∃ b, Text text b := by
  constructor
  · rintro ⟨b, _ | ⟨_, htext⟩⟩ text heq
    · cases heq
    · cases heq
      exact ⟨b, htext⟩
  · intro h
    cases text? with
    | none => exact ⟨a, .unset a⟩
    | some text =>
        obtain ⟨b, htext⟩ := h text rfl
        exact ⟨b, .set a htext⟩

end Overrides

namespace Settings

/-- The settings after variables: each comes from its own variable, or stays. -/
structure IsOverridden (look : String → Option String) (s u : Settings) : Prop where
  baseUrl : u.baseUrl = (look "ALLEASY_BASE_URL").getD s.baseUrl
  apiKey : u.apiKey = (look "ALLEASY_API_KEY").getD s.apiKey
  timeoutSeconds : Overrides Text.SpellsNatural (look "ALLEASY_TIMEOUT_SECS") s.timeoutSeconds
    u.timeoutSeconds
  backend : Overrides Backend.IsNamedBy (look "ALLEASY_STORE") s.backend u.backend
  dataDirectory : u.dataDirectory = ((look "ALLEASY_DATA_DIR").map Path.mk).or s.dataDirectory

/-- The text of the timeout is not set, or it spells a number. -/
def HasTimeout (look : String → Option String) : Prop :=
  ∀ text, look "ALLEASY_TIMEOUT_SECS" = some text → ∃ n, Text.SpellsNatural text n

/-- The text of the backend is not set, or it names one. -/
def HasBackend (look : String → Option String) : Prop :=
  ∀ name, look "ALLEASY_STORE" = some name → ∃ b, Backend.IsNamedBy name b

variable {look : String → Option String} {s u : Settings}

/-- What a variable makes of a setting, if its text can be read. -/
def readVariable {α : Type} (read : String → Except SettingsError α) (a : α) :
    Option String → Except SettingsError α
  | none => .ok a
  | some text => read text

theorem readVariable_eq_ok_iff {α : Type} {read : String → Except SettingsError α}
    {Text : String → α → Prop} (hread : ∀ text b, read text = .ok b ↔ Text text b)
    {text? : Option String} {a b : α} :
    readVariable read a text? = .ok b ↔ Overrides Text text? a b := by
  cases text? with
  | none =>
      rw [readVariable, Except.ok.injEq]
      constructor
      · rintro rfl
        exact .unset a
      · rintro ⟨⟩
        rfl
  | some text =>
      rw [readVariable, hread]
      constructor
      · exact .set a
      · rintro (_ | ⟨_, h⟩)
        exact h

/-- How the text of a timeout is read. -/
def readTimeout (text : String) : Except SettingsError Nat :=
  (Text.readNatural text).mapError (.badTimeout text)

/-- How the text of a backend is read. -/
def readBackend (name : String) : Except SettingsError Backend :=
  (Backend.ofName name).mapError .unknownBackend

theorem override_eq (s : Settings) (look : String → Option String) :
    s.override look =
      (readVariable readTimeout s.timeoutSeconds (look "ALLEASY_TIMEOUT_SECS")).bind fun timeout =>
        (readVariable readBackend s.backend (look "ALLEASY_STORE")).map fun backend =>
          { baseUrl := (look "ALLEASY_BASE_URL").getD s.baseUrl
            apiKey := (look "ALLEASY_API_KEY").getD s.apiKey
            timeoutSeconds := timeout
            backend := backend
            dataDirectory := ((look "ALLEASY_DATA_DIR").map Path.mk).or s.dataDirectory } := by
  rw [override]
  generalize look "ALLEASY_BASE_URL" = url?, look "ALLEASY_API_KEY" = key?,
    look "ALLEASY_TIMEOUT_SECS" = timeout?, look "ALLEASY_STORE" = store?,
    look "ALLEASY_DATA_DIR" = directory?
  -- which of the plain variables are set makes no difference to what is read
  cases url? <;> cases key? <;> cases directory? <;> cases timeout? with
  | none =>
      cases store? with
      | none => rfl
      | some name =>
          simp only [readVariable, readBackend]
          cases Backend.ofName name <;> rfl
  | some text =>
      simp only [readVariable, readTimeout]
      cases Text.readNatural text with
      | error e => rfl
      | ok timeout =>
          cases store? with
          | none => rfl
          | some name =>
              simp only [readBackend]
              cases Backend.ofName name <;> rfl

theorem readTimeout_eq_ok_iff (text : String) (n : Nat) :
    readTimeout text = .ok n ↔ Text.SpellsNatural text n := by
  rw [← Text.readNatural_eq_ok_iff, readTimeout]
  cases Text.readNatural text <;> simp [Except.mapError]

theorem readBackend_eq_ok_iff (name : String) (b : Backend) :
    readBackend name = .ok b ↔ Backend.IsNamedBy name b := by
  rw [← Backend.ofName_eq_ok_iff, readBackend]
  cases Backend.ofName name <;> simp [Except.mapError]

theorem bind_eq_ok {ε α β : Type} {x : Except ε α} {f : α → Except ε β} {b : β}
    (h : x.bind f = .ok b) : ∃ a, x = .ok a ∧ f a = .ok b := by
  cases x with
  | error e => cases h
  | ok a => exact ⟨a, rfl, h⟩

/-- Overriding succeeds with the settings of which each comes from its own variable. -/
theorem override_eq_ok_iff : s.override look = .ok u ↔ IsOverridden look s u := by
  rw [override_eq]
  constructor
  · intro h
    obtain ⟨timeout, htimeout, hrest⟩ := bind_eq_ok h
    obtain ⟨backend, hbackend, rfl⟩ := Json.map_eq_ok hrest
    exact ⟨rfl, rfl, (readVariable_eq_ok_iff readTimeout_eq_ok_iff).mp htimeout,
      (readVariable_eq_ok_iff readBackend_eq_ok_iff).mp hbackend, rfl⟩
  · rintro ⟨hurl, hkey, htimeout, hbackend, hdirectory⟩
    rw [(readVariable_eq_ok_iff readTimeout_eq_ok_iff).mpr htimeout,
      (readVariable_eq_ok_iff readBackend_eq_ok_iff).mpr hbackend, ← hurl, ← hkey, ← hdirectory]
    rfl

theorem exists_isOverridden_iff (s : Settings) (look : String → Option String) :
    (∃ u, IsOverridden look s u) ↔ HasTimeout look ∧ HasBackend look := by
  constructor
  · rintro ⟨u, h⟩
    exact ⟨(Overrides.exists_iff _).mp ⟨_, h.timeoutSeconds⟩,
      (Overrides.exists_iff _).mp ⟨_, h.backend⟩⟩
  · rintro ⟨htimeout, hbackend⟩
    obtain ⟨timeout, htimeout⟩ := (Overrides.exists_iff s.timeoutSeconds).mpr htimeout
    obtain ⟨backend, hbackend⟩ := (Overrides.exists_iff s.backend).mpr hbackend
    exact ⟨⟨_, _, timeout, backend, _⟩, rfl, rfl, htimeout, hbackend, rfl⟩

/-- Settings that variables went before are not changed by the same variables. -/
theorem IsOverridden.again (h : IsOverridden look s u) : IsOverridden look u u where
  baseUrl := by
    rw [h.baseUrl]
    cases look "ALLEASY_BASE_URL" <;> rfl
  apiKey := by
    rw [h.apiKey]
    cases look "ALLEASY_API_KEY" <;> rfl
  timeoutSeconds := h.timeoutSeconds.again
  backend := h.backend.again
  dataDirectory := by
    rw [h.dataDirectory]
    cases look "ALLEASY_DATA_DIR" <;> rfl

theorem override_of_badTimeout (s : Settings) {text : String}
    (hset : look "ALLEASY_TIMEOUT_SECS" = some text) (hbad : ∀ n, ¬ Text.SpellsNatural text n) :
    ∃ e, s.override look = .error (.badTimeout text e) := by
  cases hread : Text.readNatural text with
  | ok n => exact absurd (Text.readNatural_eq_ok_iff.mp hread) (hbad n)
  | error e =>
      refine ⟨e, ?_⟩
      rw [override_eq, hset, readVariable, readTimeout, hread]
      rfl

theorem override_of_unknownBackend (s : Settings) {name : String} (htimeout : HasTimeout look)
    (hset : look "ALLEASY_STORE" = some name) (hbad : ∀ b, ¬ Backend.IsNamedBy name b) :
    ∃ shown, s.override look = .error (.unknownBackend shown) := by
  obtain ⟨timeout, htimeout⟩ := (Overrides.exists_iff s.timeoutSeconds).mpr htimeout
  rw [← readVariable_eq_ok_iff readTimeout_eq_ok_iff] at htimeout
  cases hread : Backend.ofName name with
  | ok b => exact absurd (Backend.ofName_eq_ok_iff.mp hread) (hbad b)
  | error shown =>
      refine ⟨shown, ?_⟩
      rw [override_eq, htimeout, hset, readVariable, readBackend, hread]
      rfl

/-- What variables make of settings. They are accepted exactly if the timeout is not set or spells a
number of 64 bits and the backend is not set or is named; each setting is then that of its own
variable, or what it was. The same variables change nothing a second time. A wrong timeout is what
is reported, whatever the backend is; a wrong backend is reported if the timeout is not wrong. -/
theorem override_exact (s : Settings) (look : String → Option String) :
    ((∃ u, s.override look = .ok u) ↔ HasTimeout look ∧ HasBackend look) ∧
    (∀ u, s.override look = .ok u ↔ IsOverridden look s u) ∧
    (∀ u, s.override look = .ok u → u.override look = .ok u) ∧
    (∀ text, look "ALLEASY_TIMEOUT_SECS" = some text → (∀ n, ¬ Text.SpellsNatural text n) →
      ∃ e, s.override look = .error (.badTimeout text e)) ∧
    ∀ name, HasTimeout look → look "ALLEASY_STORE" = some name →
      (∀ b, ¬ Backend.IsNamedBy name b) →
      ∃ shown, s.override look = .error (.unknownBackend shown) := by
  refine ⟨?_, fun u => override_eq_ok_iff, fun u h => ?_, fun text => override_of_badTimeout s,
    fun name => override_of_unknownBackend s⟩
  · simp only [override_eq_ok_iff]
    exact exists_isOverridden_iff s look
  · rw [override_eq_ok_iff] at h ⊢
    exact h.again

namespace Sample

/-- Variables with awkward spellings of a timeout and of a backend. -/
def awkward (name : String) : Option String :=
  [("ALLEASY_TIMEOUT_SECS", "+0018446744073709551615"),
    ("ALLEASY_STORE", " KeyChain\u3000")].lookup name

/-- Variables with a timeout of one more, and a backend that there is not. -/
def wrong (name : String) : Option String :=
  [("ALLEASY_TIMEOUT_SECS", "18446744073709551616"), ("ALLEASY_STORE", "floppy")].lookup name

end Sample

/-- The greatest timeout is accepted with zeros in front of it and stays when the variables are
applied again; one more is what is reported, though the backend is wrong too. -/
theorem override_exact_of_extremes :
    (∃ u, initial.override Sample.awkward = .ok u ∧ u.timeoutSeconds = 18446744073709551615 ∧
      u.backend = .keychain ∧ u.override Sample.awkward = .ok u) ∧
    ∃ e, initial.override Sample.wrong = .error (.badTimeout "18446744073709551616" e) := by
  have haccepted : initial.override Sample.awkward =
      .ok { initial with timeoutSeconds := 18446744073709551615, backend := .keychain } := by
    decide +kernel
  have hlarge : Text.readNatural "18446744073709551616" = .error .tooLarge := by decide +kernel
  have hbad (n : Nat) : ¬ Text.SpellsNatural "18446744073709551616" n := by
    rw [← Text.readNatural_eq_ok_iff, hlarge]
    nofun
  obtain ⟨-, -, hagain, -⟩ := override_exact initial Sample.awkward
  obtain ⟨-, -, -, htimeout, -⟩ := override_exact initial Sample.wrong
  exact ⟨⟨_, haccepted, rfl, rfl, hagain _ haccepted⟩, htimeout _ rfl hbad⟩

end Settings

end SessionKeeper
