/-!
# Programs

An operation as the steps it asks for. A step names what is wanted and goes on with the answer, so
the same program can be run to its end at once, or step by step between those of others.
-/

namespace SessionKeeper

/-- A vocabulary of steps, and the type of the answer to each. -/
structure Interface where
  Step : Type
  Answer : Step → Type

/-- A computation that asks for steps of an interface. -/
inductive Program (I : Interface) (α : Type) where
  | done (result : α)
  | ask (step : I.Step) (resume : I.Answer step → Program I α)

/-- How the steps of an interface act on a world. A step that is blocked has to wait for others. -/
structure Handler (I : Interface) (W : Type) where
  answer : (step : I.Step) → W → I.Answer step × W
  isBlocked : I.Step → W → Bool

namespace Program

variable {I : Interface} {α β W : Type}

/-- Goes on with the result of a program. -/
protected def bind : Program I α → (α → Program I β) → Program I β
  | .done a, f => f a
  | .ask step resume, f => .ask step fun answer => (resume answer).bind f

instance : Monad (Program I) where
  pure := .done
  bind := Program.bind

/-- The program that asks for one step and gives its answer. -/
def perform (step : I.Step) : Program I (I.Answer step) :=
  .ask step .done

@[simp] theorem bind_done (a : α) (f : α → Program I β) : (Program.done a).bind f = f a := rfl

@[simp] theorem bind_ask (step : I.Step) (resume : I.Answer step → Program I α)
    (f : α → Program I β) :
    (Program.ask step resume).bind f = .ask step fun answer => (resume answer).bind f := rfl

theorem bind_assoc {γ : Type} (p : Program I α) (f : α → Program I β) (g : β → Program I γ) :
    (p.bind f).bind g = p.bind fun a => (f a).bind g := by
  induction p with
  | done a => rfl
  | ask step resume ih => simp only [bind_ask, ih]

@[simp] theorem bind_right_id (p : Program I α) : p.bind .done = p := by
  induction p with
  | done a => rfl
  | ask step resume ih => simp only [bind_ask, ih]

theorem bind_eq_bind (p : Program I α) (f : α → Program I β) : p >>= f = p.bind f := rfl

instance : LawfulMonad (Program I) :=
  LawfulMonad.mk' (Program I) bind_right_id (fun _ _ => rfl) bind_assoc

/-- The same program over an interface that has a step for each step of its own. -/
def translate {J : Interface} (step : I.Step → J.Step)
    (answer : (s : I.Step) → J.Answer (step s) → I.Answer s) : Program I α → Program J α
  | .done a => .done a
  | .ask s resume => .ask (step s) fun a => (resume (answer s a)).translate step answer

/-- Runs a program to its end, with no other in between. -/
def run (h : Handler I W) : Program I α → W → α × W
  | .done a, w => (a, w)
  | .ask step resume, w =>
    match h.answer step w with
    | (answer, w) => (resume answer).run h w

@[simp] theorem run_done (h : Handler I W) (a : α) (w : W) : (Program.done a).run h w = (a, w) :=
  rfl

theorem run_ask (h : Handler I W) (step : I.Step) (resume : I.Answer step → Program I α) (w : W) :
    (Program.ask step resume).run h w =
      (resume (h.answer step w).1).run h (h.answer step w).2 := rfl

theorem run_bind (h : Handler I W) (p : Program I α) (f : α → Program I β) (w : W) :
    (p.bind f).run h w = (f (p.run h w).1).run h (p.run h w).2 := by
  induction p generalizing w with
  | done a => rfl
  | ask step resume ih => simp only [bind_ask, run_ask, ih]

theorem run_map (h : Handler I W) (f : α → β) (p : Program I α) (w : W) :
    (f <$> p).run h w = (f (p.run h w).1, (p.run h w).2) := by
  rw [← bind_pure_comp]
  exact run_bind h p _ w

end Program

end SessionKeeper
