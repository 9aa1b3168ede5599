import SessionKeeper.Proofs.Program.Runs

/-!
# Programs that ask for certain steps only

Which steps a program can ask for, whatever is answered. In every run of the program its turns are
made of these steps.
-/

namespace SessionKeeper.Program

variable {I : Interface} {α β V : Type}

/-- Every step that the program can ask for is one of these. -/
inductive Within (P : I.Step → Prop) : Program I α → Prop
  | done (a : α) : Within P (.done a)
  | ask {step : I.Step} {resume : I.Answer step → Program I α} (hstep : P step)
      (hrest : ∀ answer, Within P (resume answer)) : Within P (.ask step resume)

namespace Within

variable {P Q : I.Step → Prop}

theorem pure (a : α) : Within P (pure a : Program I α) :=
  .done a

theorem perform {step : I.Step} (hstep : P step) : Within P (Program.perform step) :=
  .ask hstep fun _ => .done _

theorem bind {p : Program I α} {f : α → Program I β} (hp : p.Within P)
    (hf : ∀ a, (f a).Within P) : Within P (p >>= f) := by
  induction hp with
  | done a => exact hf a
  | ask hstep _ ih => exact .ask hstep ih

theorem mono {p : Program I α} (hp : p.Within P) (h : ∀ step, P step → Q step) : p.Within Q := by
  induction hp with
  | done a => exact .done a
  | ask hstep _ ih => exact .ask (h _ hstep) ih

/-- The turns of a run are made of the steps of the program. -/
theorem step_of_mem {E : Effects I V} {p : Program I α} (hp : p.Within P) {v w : V}
    {turns : List (Turn I)} {a : α} (h : Runs E p v turns a w) : ∀ t ∈ turns, P t.step := by
  induction h with
  | done => simp
  | ask heffect hrest ih =>
      cases hp with
      | ask hstep hothers => exact List.forall_mem_cons.mpr ⟨hstep, ih (hothers _)⟩

/-- What holds of a world and is kept by every step of a program holds when the program was run. -/
theorem run_of_invariant {W : Type} {h : Handler I W} (invariant : W → Prop)
    (hkeeps : ∀ step w, P step → invariant w → invariant (h.answer step w).2)
    {p : Program I α} (hp : p.Within P) {w : W} (hw : invariant w) : invariant (p.run h w).2 := by
  induction hp generalizing w with
  | done a => exact hw
  | ask hstep _ ih => exact ih _ (hkeeps _ w hstep hw)

/-- What every step of a program leaves alone in every state, the program leaves alone. -/
theorem view_eq {β : Type} {E : Effects I V} (view : V → β)
    (hview : ∀ {step v answer w}, P step → E step v answer w → view w = view v)
    {p : Program I α} (hp : p.Within P) {v w : V} {turns : List (Turn I)} {a : α}
    (h : Runs E p v turns a w) : view w = view v := by
  induction h with
  | done => rfl
  | ask heffect hrest ih =>
      cases hp with
      | ask hstep hothers => exact (ih (hothers _)).trans (hview hstep heffect)

end Within

end SessionKeeper.Program
