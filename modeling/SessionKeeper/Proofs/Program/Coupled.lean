import SessionKeeper.Proofs.Program.Steps

/-!
# Two runs side by side

Two programs that run from related worlds. What is shown of them is a relation between the results
and the worlds at the ends, and such relations are put together as the programs are.
-/

namespace SessionKeeper

/-- Results that are both successes, with related values, or both errors, with related errors. -/
inductive Parallel {ε ε' α β : Type} (E : ε → ε' → Prop) (R : α → β → Prop) :
    Except ε α → Except ε' β → Prop
  | ok {a : α} {b : β} (h : R a b) : Parallel E R (.ok a) (.ok b)
  | error {e : ε} {e' : ε'} (h : E e e') : Parallel E R (.error e) (.error e')

namespace Parallel

variable {ε ε' α β : Type}

theorem refl {E : ε → ε → Prop} {R : α → α → Prop} (hE : ∀ e, E e e) (hR : ∀ a, R a a)
    (r : Except ε α) : Parallel E R r r := by
  cases r with
  | ok a => exact .ok (hR a)
  | error e => exact .error (hE e)

end Parallel

/-- Things that are the same whenever a condition holds. -/
def EqIf {α : Type} (condition : Prop) (a b : α) : Prop :=
  condition → a = b

theorem EqIf.refl {α : Type} {condition : Prop} (a : α) : EqIf condition a a :=
  fun _ => rfl

theorem EqIf.congr {α β : Type} {condition : Prop} {a b : α} (h : EqIf condition a b) (f : α → β) :
    EqIf condition (f a) (f b) :=
  fun hcondition => congrArg f (h hcondition)

/-- Results that are the same error, or successes with related values. -/
inductive Agree {ε α β : Type} (R : α → β → Prop) : Except ε α → Except ε β → Prop
  | ok {a : α} {b : β} (h : R a b) : Agree R (.ok a) (.ok b)
  | error (e : ε) : Agree R (.error e) (.error e)

namespace Agree

variable {ε α β : Type}

theorem refl {R : α → α → Prop} (h : ∀ a, R a a) (r : Except ε α) : Agree R r r := by
  cases r with
  | ok a => exact .ok (h a)
  | error e => exact .error e

theorem parallel {R : α → β → Prop} {E : ε → ε → Prop} (hE : ∀ e, E e e) {r : Except ε α}
    {s : Except ε β} (h : Agree R r s) : Parallel E R r s := by
  cases h with
  | ok h => exact .ok h
  | error e => exact .error (hE e)

/-- Errors that are the same in any case make results agree. -/
theorem of_parallel {R : α → β → Prop} {r : Except ε α} {s : Except ε β}
    (h : Parallel (EqIf True) R r s) : Agree R r s := by
  cases h with
  | ok h => exact .ok h
  | error h => exact h trivial ▸ .error _

theorem eq {r s : Except ε α} (h : Agree Eq r s) : r = s := by
  cases h with
  | ok h => rw [h]
  | error e => rfl

end Agree

namespace Program

variable {I : Interface} {α β γ δ W : Type}

/-- From related worlds the two programs come to related results and worlds. -/
def Coupled (h : Handler I W) (before : W → W → Prop) (p : Program I α) (q : Program I β)
    (after : α → β → W → W → Prop) : Prop :=
  ∀ v w, before v w → after (p.run h v).1 (q.run h w).1 (p.run h v).2 (q.run h w).2

namespace Coupled

variable {h : Handler I W} {before : W → W → Prop} {p : Program I α} {q : Program I β}

theorem done {after : α → β → W → W → Prop} {a : α} {b : β}
    (hafter : ∀ v w, before v w → after a b v w) :
    Coupled h before (.done a) (.done b) after :=
  hafter

/-- A step on each side, and whatever comes behind it. -/
theorem ask {step : I.Step} {other : I.Step} {resume : I.Answer step → Program I α}
    {resume' : I.Answer other → Program I β} {after : α → β → W → W → Prop}
    (between : I.Answer step → I.Answer other → W → W → Prop)
    (hstep : ∀ v w, before v w →
      between (h.answer step v).1 (h.answer other w).1 (h.answer step v).2 (h.answer other w).2)
    (hrest : ∀ a b, Coupled h (between a b) (resume a) (resume' b) after) :
    Coupled h before (.ask step resume) (.ask other resume') after :=
  fun v w hvw => hrest _ _ _ _ (hstep v w hvw)

theorem bind {between : α → β → W → W → Prop} {after : γ → δ → W → W → Prop}
    {f : α → Program I γ} {g : β → Program I δ} (hpq : Coupled h before p q between)
    (hfg : ∀ a b, Coupled h (between a b) (f a) (g b) after) :
    Coupled h before (p >>= f) (q >>= g) after := by
  intro v w hvw
  rw [bind_eq_bind, bind_eq_bind, run_bind, run_bind]
  exact hfg _ _ _ _ (hpq v w hvw)

end Coupled

/-- From related worlds the two programs come to related results, and the worlds stay related. -/
def Keeps (h : Handler I W) (S : W → W → Prop) (R : α → β → Prop) (p : Program I α)
    (q : Program I β) : Prop :=
  Coupled h S p q fun a b v w => R a b ∧ S v w

namespace Keeps

variable {h : Handler I W} {S : W → W → Prop} {R : α → β → Prop} {T : γ → δ → Prop}

theorem pure {a : α} {b : β} (hab : R a b) :
    Keeps h S R (Pure.pure a : Program I α) (Pure.pure b : Program I β) :=
  .done fun _ _ hvw => ⟨hab, hvw⟩

theorem bind {p : Program I α} {q : Program I β} {f : α → Program I γ} {g : β → Program I δ}
    (hpq : Keeps h S R p q) (hfg : ∀ a b, R a b → Keeps h S T (f a) (g b)) :
    Keeps h S T (p >>= f) (q >>= g) :=
  Coupled.bind hpq fun a b v w hab => hfg a b hab.1 v w hab.2

/-- What comes behind a result that is the same on both sides. -/
theorem next {p q : Program I α} {f : α → Program I γ} {g : α → Program I δ}
    (hpq : Keeps h S Eq p q) (hfg : ∀ a, Keeps h S T (f a) (g a)) :
    Keeps h S T (p >>= f) (q >>= g) :=
  hpq.bind fun a _ hab => hab ▸ hfg a

theorem mono {p : Program I α} {q : Program I β} {R' : α → β → Prop} (hpq : Keeps h S R p q)
    (hR : ∀ a b, R a b → R' a b) : Keeps h S R' p q :=
  fun v w hvw => ⟨hR _ _ (hpq v w hvw).1, (hpq v w hvw).2⟩

/-- Programs whose steps leave the worlds related, each by itself, come to any results. -/
theorem of_within {P : I.Step → Prop}
    (hleft : ∀ step v w, P step → S v w → S (h.answer step v).2 w)
    (hright : ∀ step v w, P step → S v w → S v (h.answer step w).2) {p : Program I α}
    {q : Program I β} (hp : p.Within P) (hq : q.Within P) :
    Keeps h S (fun _ _ => True) p q := by
  intro v w hvw
  have hv := hp.run_of_invariant (S · w) (fun step v hstep => hleft step v w hstep) hvw
  exact ⟨trivial,
    hq.run_of_invariant (S (p.run h v).2) (fun step u hstep => hright step _ u hstep) hv⟩

end Keeps

end Program

end SessionKeeper
