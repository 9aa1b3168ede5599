import SessionKeeper.Proofs.Api.Requests
import SessionKeeper.Proofs.Preference.Mode

/-!
# Toggling while the store fails

A toggle reads the mode and stores the other one. If it cannot store anything it says so, and what
was stored is left alone. If it cannot read what is stored it says nothing and takes the initial
mode for it. So a dark mode that cannot be read is stored again, and comes back as the new one.
-/

namespace SessionKeeper.Preference

open Program

variable {v w : Holdings} {turns : List (Turn clientSteps)}

/-- The mode that is stored: what a text stands for, or the initial mode where there is none that
can be understood. -/
def persisted (v : Holdings) : ColorMode :=
  modeOf (.ok (v.texts ColorMode.key))

/-- The holdings after a mode was stored. -/
def prefer (mode : ColorMode) (v : Holdings) : Holdings :=
  { v with texts := v.texts.put ColorMode.key mode.render }

@[simp] theorem persisted_prefer (mode : ColorMode) (v : Holdings) :
    persisted (prefer mode v) = mode := by
  simp only [persisted, prefer, Texts.put_self, modeOf, ColorMode.parse_render]
  rfl

/-- The mode that a toggle starts from: the stored one, unless it cannot be read. -/
def basis (v : Holdings) (turns : List (Turn clientSteps)) : ColorMode :=
  if turns.any Turn.isFailedRead then .initial else persisted v

/-! ## One operation -/

theorem runs_of_gives {α : Type} {a b : α} {op : Operation α} (hop : Gives a op)
    (h : Runs ClientStep.effect op v turns b w) :
    b = a ∧ w = v ∧ turns.any Turn.isFailedRead = false := by
  cases hop with
  | now =>
      obtain ⟨rfl, rfl, rfl⟩ := runs_pure.mp h
      exact ⟨rfl, rfl, rfl⟩
  | later event =>
      obtain ⟨_, u, rest, rfl, hreport, hrest⟩ := runs_ask.mp h
      obtain rfl : u = v := hreport
      obtain ⟨rfl, rfl, rfl⟩ := runs_pure.mp hrest
      exact ⟨rfl, rfl, rfl⟩

/-- Loading finds the stored mode, or the initial one if the store cannot be read. -/
theorem runs_load {mode : ColorMode} (h : Runs ClientStep.effect load v turns mode w) :
    mode = basis v turns ∧ w = v := by
  obtain ⟨resume, hload, hresume⟩ := exists_load_eq
  rw [hload] at h
  obtain ⟨answer, u, rest, rfl, hget, hrest⟩ := runs_ask.mp h
  obtain ⟨rfl, rfl, hquiet⟩ := runs_of_gives (hresume answer) hrest
  rw [basis, List.any_cons, hquiet]
  cases answer with
  | error e => exact ⟨rfl, hget⟩
  | ok text =>
      obtain ⟨rfl, rfl⟩ := hget
      exact ⟨rfl, rfl⟩

/-- A mode is stored, or the store says why not. -/
theorem runs_set {mode : ColorMode} {result : Except StoreError Unit}
    (h : Runs ClientStep.effect (set mode) v turns result w) :
    turns.any Turn.isFailedRead = false ∧
      (result = .ok () ∧ w = prefer mode v ∨ (∃ e, result = .error e) ∧ w = v) := by
  obtain ⟨written, u, first, rest, rfl, hset, hrest⟩ := runs_bind.mp h
  obtain ⟨rfl, heffect⟩ := runs_perform.mp hset
  cases written with
  | error e =>
      obtain rfl : u = v := heffect
      obtain ⟨rfl, rfl, rfl⟩ := runs_pure.mp hrest
      exact ⟨rfl, .inr ⟨⟨e, rfl⟩, rfl⟩⟩
  | ok _ =>
      obtain rfl : u = prefer mode v := heffect
      obtain ⟨tail, rfl, hdone⟩ := Operation.runs_report_bind hrest
      obtain ⟨rfl, rfl, rfl⟩ := runs_pure.mp hdone
      exact ⟨rfl, .inl ⟨rfl, rfl⟩⟩

/-- A toggle stores the opposite of the mode that it starts from, or nothing. -/
theorem runs_toggle {result : Except StoreError ColorMode}
    (h : Runs ClientStep.effect toggle v turns result w) :
    result = .ok (basis v turns).toggled ∧ w = prefer (basis v turns).toggled v ∨
      (∃ e, result = .error e) ∧ w = v := by
  obtain ⟨mode, u, first, rest, rfl, hload, hrest⟩ := runs_bind.mp h
  obtain ⟨rfl, rfl⟩ := runs_load hload
  obtain ⟨written, u', second, last, rfl, hset, hlast⟩ := runs_bind.mp hrest
  obtain ⟨hquiet, hwritten⟩ := runs_set hset
  -- only the first call of the store is a read
  have hbasis : last = [] → basis u (first ++ (second ++ last)) = basis u first := by
    rintro rfl
    rw [basis, basis, List.append_nil, List.any_append, hquiet, Bool.or_false]
  rcases hwritten with ⟨rfl, rfl⟩ | ⟨⟨e, rfl⟩, rfl⟩
  · obtain ⟨rfl, rfl, rfl⟩ := runs_pure.mp hlast
    rw [hbasis rfl]
    exact .inl ⟨rfl, rfl⟩
  · obtain ⟨rfl, rfl, rfl⟩ := runs_pure.mp hlast
    exact .inr ⟨⟨e, rfl⟩, rfl⟩

/-! ## Toggling -/

/-- What loading finds in a world whenever the store can be read. -/
def Finds {σ : Type} [Store σ] (w : World σ) (mode : ColorMode) : Prop :=
  ∀ faults answers, (load.turns (Exposed.handler σ) ⟨w, faults, answers⟩).any
    Turn.isFailedRead = false → (Exposed.run load ⟨w, faults, answers⟩).1 = mode

theorem finds_persisted {σ : Type} [Store σ] [LawfulStore σ] (x : Exposed σ) :
    Finds x.world (persisted x.holdings) := by
  intro faults answers hreads
  have hload := (runs_load (Exposed.runs_run load ⟨x.world, faults, answers⟩)).1
  rw [basis, hreads] at hload
  exact hload

/-- A toggle of a store of any content, whichever of its calls fail. If it gives a mode, that is the
opposite of the one that loading would have found, provided that the store could be read, or that
this was the initial mode; it is the opposite of the initial mode otherwise. Loading finds the mode
that was given afterwards. If the toggle fails, every text is as it was. -/
theorem toggle_outcome {σ : Type} [Store σ] [LawfulStore σ] {x y : Exposed σ}
    {result : Except StoreError ColorMode} {turns : List (Turn clientSteps)}
    (hrun : Exposed.run toggle x = (result, y))
    (hturns : toggle.turns (Exposed.handler σ) x = turns) :
    Finds x.world (persisted x.holdings) ∧
    (∀ m, result = .ok m →
      (m = (persisted x.holdings).toggled ↔
        turns.any Turn.isFailedRead = false ∨ persisted x.holdings = .initial) ∧
      (turns.any Turn.isFailedRead = true → m = ColorMode.initial.toggled) ∧
      Finds y.world m) ∧
    ∀ e, result = .error e → y.holdings.texts = x.holdings.texts := by
  have htoggle := runs_toggle (Exposed.runs_run toggle x)
  rw [hrun, hturns] at htoggle
  refine ⟨finds_persisted x, ?_, ?_⟩
  · rintro m rfl
    rcases htoggle with ⟨hm, hy⟩ | ⟨⟨e, he⟩, -⟩
    · obtain rfl := Except.ok.inj hm
      refine ⟨?_, fun hfailed => by rw [basis, if_pos hfailed], ?_⟩
      · rw [basis]
        cases turns.any Turn.isFailedRead <;> cases persisted x.holdings <;>
          simp [ColorMode.initial, ColorMode.toggled]
      · have hfinds := finds_persisted y
        rwa [show y.holdings = _ from hy, persisted_prefer] at hfinds
    · cases he
  · rintro e rfl
    rcases htoggle with ⟨hm, -⟩ | ⟨-, hy⟩
    · cases hm
    · exact congrArg Holdings.texts hy

namespace Sample

/-- A client whose store holds a text as the preference. -/
def preferring (text : String) (faults : List (Option StoreError)) : Exposed MemoryStore :=
  ⟨World.start ⟨SortedMap.empty.insert ColorMode.key text⟩ .unreachable, faults, []⟩

end Sample

/-- A text that is damaged counts as the initial mode, so loading finds the other one afterwards. -/
theorem toggle_outcome_of_damage :
    Finds (Exposed.run toggle (Sample.preferring "dark" [])).2.world .dark := by
  have hresult : (Exposed.run toggle (Sample.preferring "dark" [])).1 = .ok .dark := by
    decide +kernel
  exact ((toggle_outcome (Prod.ext hresult rfl) rfl).2.1 .dark rfl).2.2

/-- The dark mode is stored, but cannot be read for once: the toggle gives the dark mode. -/
theorem toggle_keeps_dark_of_failed_read :
    persisted (Sample.preferring ColorMode.dark.render [some .interrupted]).holdings = .dark ∧
      (Exposed.run toggle (Sample.preferring ColorMode.dark.render [some .interrupted])).1 =
        .ok .dark ∧
      ColorMode.dark ≠ (persisted
        (Sample.preferring ColorMode.dark.render [some .interrupted]).holdings).toggled := by
  refine ⟨?_, ?_, ?_⟩ <;> decide +kernel

end SessionKeeper.Preference
