import SessionKeeper.Program.Basic

/-!
# Runs of programs

A run of a program as a relation. What is known about the steps of an interface is given by their
effects: which answers a step may get in a state, and in which states it may leave things. A handler
that acts within these effects has no other runs, so what is shown about all runs holds for it.
-/

namespace SessionKeeper

/-- A step that was asked for, and its answer. -/
structure Turn (I : Interface) where
  step : I.Step
  answer : I.Answer step

/-- The answers that steps may get in a state, and the states they may lead to. -/
abbrev Effects (I : Interface) (V : Type) :=
  (step : I.Step) → V → I.Answer step → V → Prop

namespace Program

variable {I : Interface} {α β V W : Type} {E : Effects I V}

/-- A program, begun in a state, takes these turns and ends with a result in a state. -/
inductive Runs (E : Effects I V) : Program I α → V → List (Turn I) → α → V → Prop
  | done (a : α) (v : V) : Runs E (.done a) v [] a v
  | ask {step : I.Step} {resume : I.Answer step → Program I α} {v w u : V}
      {answer : I.Answer step} {turns : List (Turn I)} {a : α} (heffect : E step v answer w)
      (hrest : Runs E (resume answer) w turns a u) :
      Runs E (.ask step resume) v (⟨step, answer⟩ :: turns) a u

/-! ## Taking runs apart -/

theorem runs_pure {a b : α} {v w : V} {turns : List (Turn I)} :
    Runs E (pure a) v turns b w ↔ turns = [] ∧ b = a ∧ w = v := by
  constructor
  · intro h
    cases h
    exact ⟨rfl, rfl, rfl⟩
  · rintro ⟨rfl, rfl, rfl⟩
    exact .done ..

theorem runs_ask {step : I.Step} {resume : I.Answer step → Program I α} {a : α} {v w : V}
    {turns : List (Turn I)} :
    Runs E (.ask step resume) v turns a w ↔
      ∃ answer u rest, turns = ⟨step, answer⟩ :: rest ∧ E step v answer u ∧
        Runs E (resume answer) u rest a w := by
  constructor
  · intro h
    cases h with
    | ask heffect hrest => exact ⟨_, _, _, rfl, heffect, hrest⟩
  · rintro ⟨answer, u, rest, rfl, heffect, hrest⟩
    exact .ask heffect hrest

theorem runs_perform {step : I.Step} {answer : I.Answer step} {v w : V} {turns : List (Turn I)} :
    Runs E (perform step) v turns answer w ↔ turns = [⟨step, answer⟩] ∧ E step v answer w := by
  rw [perform, runs_ask]
  constructor
  · rintro ⟨given, u, rest, rfl, heffect, hrest⟩
    obtain ⟨rfl, rfl, rfl⟩ := runs_pure.mp hrest
    exact ⟨rfl, heffect⟩
  · rintro ⟨rfl, heffect⟩
    exact ⟨answer, w, [], rfl, heffect, .done ..⟩

/-- A run of one program after another is a run of the first and then one of the second. -/
theorem runs_bind {p : Program I α} {f : α → Program I β} {b : β} {v w : V}
    {turns : List (Turn I)} :
    Runs E (p >>= f) v turns b w ↔
      ∃ a u first rest, turns = first ++ rest ∧ Runs E p v first a u ∧
        Runs E (f a) u rest b w := by
  -- by induction on the first program: what its first step leaves of it is shorter
  induction p generalizing v turns with
  | done a =>
      constructor
      · intro h
        exact ⟨a, v, [], turns, rfl, .done .., h⟩
      · rintro ⟨c, u, first, rest, rfl, hfirst, hrest⟩
        obtain ⟨rfl, rfl, rfl⟩ := runs_pure.mp hfirst
        exact hrest
  | ask step resume ih =>
      rw [bind_eq_bind, bind_ask, runs_ask]
      constructor
      · rintro ⟨answer, u, tail, rfl, heffect, htail⟩
        obtain ⟨a, u', first, rest, rfl, hfirst, hrest⟩ := (ih answer).mp htail
        exact ⟨a, u', ⟨step, answer⟩ :: first, rest, rfl, .ask heffect hfirst, hrest⟩
      · rintro ⟨a, u, first, rest, rfl, hfirst, hrest⟩
        obtain ⟨answer, u', tail, rfl, heffect, htail⟩ := runs_ask.mp hfirst
        exact ⟨answer, u', tail ++ rest, rfl, heffect, (ih answer).mpr
          ⟨a, u, tail, rest, rfl, htail, hrest⟩⟩

/-- A run stays a run when less of the states is looked at. -/
theorem Runs.image {F : Effects I W} (view : V → W)
    (hview : ∀ {step v answer w}, E step v answer w → F step (view v) answer (view w))
    {p : Program I α} {v w : V} {turns : List (Turn I)} {a : α} (h : Runs E p v turns a w) :
    Runs F p (view v) turns a (view w) := by
  induction h with
  | done a v => exact .done a (view v)
  | ask heffect hrest ih => exact .ask (hview heffect) ih

/-! ## Runs of a handler -/

/-- The turns that a program takes when it is run to its end. -/
def turns (h : Handler I W) : Program I α → W → List (Turn I)
  | .done _, _ => []
  | .ask step resume, w =>
    ⟨step, (h.answer step w).1⟩ :: (resume (h.answer step w).1).turns h (h.answer step w).2

theorem turns_bind (h : Handler I W) (p : Program I α) (f : α → Program I β) (w : W) :
    (p >>= f).turns h w = p.turns h w ++ (f (p.run h w).1).turns h (p.run h w).2 := by
  induction p generalizing w with
  | done a => rfl
  | ask step resume ih => exact congrArg (⟨step, (h.answer step w).1⟩ :: ·) (ih _ _)

/-- Running a program to its end is one of its runs, if the handler acts within the effects. -/
theorem runs_run {h : Handler I W} (view : W → V)
    (hsound : ∀ step w, E step (view w) (h.answer step w).1 (view (h.answer step w).2))
    (p : Program I α) (w : W) :
    Runs E p (view w) (p.turns h w) (p.run h w).1 (view (p.run h w).2) := by
  induction p generalizing w with
  | done a => exact .done ..
  | ask step resume ih => exact .ask (hsound step w) (ih _ _)

/-! ## Where programs lead -/

/-- A program, begun in a state, can end with a result in a state. -/
def Leads (E : Effects I V) (p : Program I α) (v : V) (a : α) (w : V) : Prop :=
  ∃ turns, Runs E p v turns a w

theorem leads_pure {a b : α} {v w : V} : Leads E (pure a) v b w ↔ b = a ∧ w = v := by
  simp only [Leads, runs_pure, exists_eq_left]

theorem leads_ask {step : I.Step} {resume : I.Answer step → Program I α} {a : α} {v w : V} :
    Leads E (.ask step resume) v a w ↔
      ∃ answer u, E step v answer u ∧ Leads E (resume answer) u a w := by
  constructor
  · rintro ⟨turns, h⟩
    obtain ⟨answer, u, rest, -, heffect, hrest⟩ := runs_ask.mp h
    exact ⟨answer, u, heffect, rest, hrest⟩
  · rintro ⟨answer, u, heffect, rest, hrest⟩
    exact ⟨_, .ask heffect hrest⟩

theorem leads_perform {step : I.Step} {answer : I.Answer step} {v w : V} :
    Leads E (perform step) v answer w ↔ E step v answer w := by
  simp only [Leads, runs_perform, exists_eq_left]

theorem leads_bind {p : Program I α} {f : α → Program I β} {b : β} {v w : V} :
    Leads E (p >>= f) v b w ↔ ∃ a u, Leads E p v a u ∧ Leads E (f a) u b w := by
  constructor
  · rintro ⟨turns, h⟩
    obtain ⟨a, u, first, rest, -, hfirst, hrest⟩ := runs_bind.mp h
    exact ⟨a, u, ⟨first, hfirst⟩, rest, hrest⟩
  · rintro ⟨a, u, ⟨first, hfirst⟩, rest, hrest⟩
    exact ⟨first ++ rest, runs_bind.mpr ⟨a, u, first, rest, rfl, hfirst, hrest⟩⟩

/-- A step that can lead to one answer and state only. -/
theorem leads_perform_bind {step : I.Step} {answer : I.Answer step}
    {rest : I.Answer step → Program I β}
    {b : β} {u v w : V} (h : ∀ x y, E step v x y ↔ x = answer ∧ y = u) :
    Leads E (perform step >>= rest) v b w ↔ Leads E (rest answer) u b w := by
  simp only [leads_bind, leads_perform, h, and_assoc, exists_and_left, exists_eq_left]

/-- A run leads where its steps lead, if every step that goes as it should keeps a relation between
the world and the state. -/
theorem leads_of_related {h : Handler I W} {R : W → V → Prop} {allowed : Turn I → Prop}
    (hstep : ∀ step w v, R w v → allowed ⟨step, (h.answer step w).1⟩ →
      ∃ v', E step v (h.answer step w).1 v' ∧ R (h.answer step w).2 v')
    {p : Program I α} {w : W} {v : V} (hR : R w v) (hturns : ∀ turn ∈ p.turns h w, allowed turn) :
    ∃ v', Leads E p v (p.run h w).1 v' ∧ R (p.run h w).2 v' := by
  induction p generalizing w v with
  | done a => exact ⟨v, ⟨[], .done a v⟩, hR⟩
  | ask step resume ih =>
      obtain ⟨hturn, hrest⟩ := List.forall_mem_cons.mp hturns
      obtain ⟨u, heffect, hu⟩ := hstep step w v hR hturn
      obtain ⟨v', ⟨turns, hruns⟩, hv'⟩ := ih _ hu hrest
      exact ⟨v', ⟨_, .ask heffect hruns⟩, hv'⟩

/-! ## Worlds on the way -/

/-- The worlds that a run goes through, from the one it begins in to the one it ends in. -/
def worlds (h : Handler I W) : Program I α → W → List W
  | .done _, w => [w]
  | .ask step resume, w =>
    w :: (resume (h.answer step w).1).worlds h (h.answer step w).2

/-- Every world that a run goes through has a property. -/
def Throughout (h : Handler I W) (P : W → Prop) (p : Program I α) (w : W) : Prop :=
  ∀ v ∈ p.worlds h w, P v

namespace Throughout

variable {h : Handler I W} {P : W → Prop} {w : W}

theorem done (a : α) (hw : P w) : Throughout h P (.done a) w := by
  intro v hv
  rwa [List.mem_singleton.mp hv]

theorem ask {step : I.Step} {resume : I.Answer step → Program I α} (hw : P w)
    (hrest : Throughout h P (resume (h.answer step w).1) (h.answer step w).2) :
    Throughout h P (.ask step resume) w :=
  List.forall_mem_cons.mpr ⟨hw, hrest⟩

theorem bind {p : Program I α} {f : α → Program I β} (hp : Throughout h P p w)
    (hrest : Throughout h P (f (p.run h w).1) (p.run h w).2) : Throughout h P (p.bind f) w := by
  induction p generalizing w with
  | done a => exact hrest
  | ask step resume ih =>
      obtain ⟨hw, hp⟩ := List.forall_mem_cons.mp hp
      exact ask hw (ih _ hp hrest)

/-- The world that a run ends in is one that it goes through. -/
theorem run {p : Program I α} (hp : Throughout h P p w) : P (p.run h w).2 := by
  induction p generalizing w with
  | done a => exact hp w List.mem_cons_self
  | ask step resume ih => exact ih _ (List.forall_mem_cons.mp hp).2

end Throughout

end Program

end SessionKeeper
