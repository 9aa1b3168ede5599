import Mathlib.Logic.Function.Basic
import SessionKeeper.Proofs.Manager.Serializable

/-!
# The loading flag

A manager says that it is loading from its start until the first exclusive operation has settled,
and from then on while the work of an exclusive operation is under way. The flag is a single one for
all operations. That one of them never lowers it for another comes from the order of its steps: it
is raised after the guard was taken, and lowered before the guard is given back.
-/

namespace SessionKeeper

/-- Something that goes on over one manager, next to others: a call of the client, or an expiry for
any error. -/
inductive Errand
  | call (call : Call)
  | expire (e : ApiError)

namespace Errand

/-- The operation of an errand. -/
def operation (c : ApiClient) : Errand → Operation Reply
  | .call made => made.operation c
  | .expire e => ManagerCall.operation c (.expire e)

/-- Whether an errand is a bootstrap, a sign-in, a registration or a sign-out. -/
def isExclusive : Errand → Bool
  | .call made => made.isExclusive
  | .expire _ => false

end Errand

namespace Task

variable {W α : Type}

/-- The work of an operation has settled: its result is certain, and at most the guard is left to be
given back. -/
inductive Settled : Task clientSteps W α → Prop
  | leaving (a : α) : Settled (.running (.ask .release fun _ => .done a))
  | ended (a : α) : Settled (.running (.done a))
  | finished (a : α) : Settled (.finished a)

/-- An operation has the guard. -/
def Holds {h : Handler clientSteps W} (G : Guard h) : Task clientSteps W α → Prop
  | .running q => G.Inside q
  | _ => False

theorem settled_of_result {task : Task clientSteps W α} (h : task.result?.isSome = true) :
    task.Settled := by
  cases task with
  | finished a => exact .finished a
  | _ => cases h

/-- Whether a task has begun. -/
def hasBegun : Task clientSteps W α → Bool
  | .waiting _ => false
  | _ => true

theorem hasBegun_of_settled {task : Task clientSteps W α} (h : task.Settled) :
    task.hasBegun = true := by
  cases h <;> rfl

/-- Whether a task is not under way: it has not begun, or it has finished. -/
def rests : Task clientSteps W α → Bool
  | .running _ => false
  | _ => true

theorem not_holds_of_rests {h : Handler clientSteps W} {G : Guard h}
    {task : Task clientSteps W α} (hrests : task.rests = true) : ¬ task.Holds G := by
  cases task with
  | running => cases hrests
  | _ => exact id

end Task

/-- The tasks of the errands that are exclusive. -/
def Pool.exclusive {W : Type} (errands : List Errand) (p : Pool clientSteps W Reply) :
    List (Task clientSteps W Reply) :=
  (errands.zip p.tasks).filterMap fun (errand, task) =>
    if errand.isExclusive then some task else none

theorem Pool.mem_exclusive {W : Type} {errands : List Errand} {p : Pool clientSteps W Reply}
    {task : Task clientSteps W Reply} :
    task ∈ p.exclusive errands ↔ ∃ (i : Nat) (errand : Errand), errands[i]? = some errand ∧
      errand.isExclusive = true ∧ p.tasks[i]? = some task := by
  rw [exclusive, List.mem_filterMap]
  constructor
  · rintro ⟨⟨errand, t⟩, hmem, hkept⟩
    obtain ⟨hexclusive, rfl⟩ := Option.ite_none_right_eq_some.mp hkept |>.imp_right Option.some.inj
    obtain ⟨i, hi⟩ := List.mem_iff_getElem?.mp hmem
    obtain ⟨herrand, htask⟩ := List.getElem?_zip_eq_some.mp hi
    exact ⟨i, errand, herrand, hexclusive, htask⟩
  · rintro ⟨i, errand, herrand, hexclusive, htask⟩
    exact ⟨(errand, task), List.mem_of_getElem? (List.getElem?_zip_eq_some.mpr ⟨herrand, htask⟩),
      if_pos hexclusive⟩

namespace Exposed

variable {σ : Type} [Store σ]

theorem held_of_inner {step : ClientStep} (h : step.Inner) (x : Exposed σ) :
    (answer step x).2.world.held = x.world.held := by
  rw [held_answer]
  cases step with
  | acquire => exact h.elim
  | release => exact h.elim
  | _ => rfl

theorem loading_answer (step : ClientStep) (x : Exposed σ) :
    (answer step x).2.world.loading =
      match step with
      | .setLoading busy => busy
      | _ => x.world.loading := by
  cases step with
  | get key => rw [answer]; split <;> rfl
  | set key value => rw [answer]; split <;> rfl
  | remove key => rw [answer]; split <;> rfl
  | send request => rw [answer]; split <;> rfl
  | _ => rfl

theorem loading_of_inner {step : ClientStep} (h : step.Inner) (x : Exposed σ) :
    (answer step x).2.world.loading = x.world.loading := by
  rw [loading_answer]
  cases step with
  | setLoading => exact h.elim
  | _ => rfl

end Exposed

/-! ## Phases -/

/-- How far an operation has come. An exclusive one takes the guard, raises the flag, works, lowers
the flag and gives the guard back; any other one works with the guard and without it. -/
inductive Phase
  | before
  | entering
  | busy
  | leaving
  | ended
  | idle
  | locked
  deriving DecidableEq

namespace Phase

/-- Whether the operation is exclusive. -/
def isExclusive : Phase → Bool
  | .idle => false
  | .locked => false
  | _ => true

/-- Whether the operation has the guard. -/
def hasGuard : Phase → Bool
  | .entering => true
  | .busy => true
  | .leaving => true
  | .locked => true
  | _ => false

/-- Whether the operation is exclusive and its work has settled. -/
def isSettled : Phase → Bool
  | .leaving => true
  | .ended => true
  | _ => false

theorem exclusive_of_settled {φ : Phase} (h : φ.isSettled = true) : φ.isExclusive = true := by
  cases φ with
  | leaving => rfl
  | ended => rfl
  | _ => cases h

/-- Whether the operation does its work in this phase. -/
def works : Phase → Bool
  | .busy => true
  | .idle => true
  | .locked => true
  | _ => false

/-- The steps of a phase, and the phases they lead to. -/
inductive Step : Phase → ClientStep → Phase → Prop
  | take : Step .before .acquire .entering
  | raise : Step .entering (.setLoading true) .busy
  | lower : Step .busy (.setLoading false) .leaving
  | give : Step .leaving .release .ended
  | lock : Step .idle .acquire .locked
  | unlock : Step .locked .release .idle
  | work {φ : Phase} {step : ClientStep} (hφ : φ.works = true) (hstep : step.Inner) :
      Step φ step φ

/-- A program goes on from a phase. -/
inductive Follows {α : Type} : Phase → Operation α → Prop
  | ended (a : α) : Follows .ended (.done a)
  | idle (a : α) : Follows .idle (.done a)
  | ask {φ ψ : Phase} {step : ClientStep} {resume : step.Answer → Operation α}
      (hstep : φ.Step step ψ) (hrest : ∀ answer, Follows ψ (resume answer)) :
      Follows φ (.ask step resume)

/-- The phase of a task, if there is one. -/
inductive Fits {W α : Type} : Phase → Option (Task clientSteps W α) → Prop
  | absent : Fits .idle none
  | waiting {φ : Phase} {start : W → Operation α} (hφ : φ = .before ∨ φ = .idle)
      (hstart : ∀ w, φ.Follows (start w)) : Fits φ (some (.waiting start))
  | running {φ : Phase} {q : Operation α} (hq : φ.Follows q) : Fits φ (some (.running q))
  | ended (a : α) : Fits .ended (some (.finished a))
  | idle (a : α) : Fits .idle (some (.finished a))

variable {α β : Type}

theorem Follows.bind {φ : Phase} (hφ : φ.works = true) {op : Operation α}
    (hop : op.Within ClientStep.Inner) {rest : α → Operation β}
    (hrest : ∀ a, φ.Follows (rest a)) : φ.Follows (op >>= rest) := by
  induction hop with
  | done a => exact hrest a
  | ask hstep _ ih => exact .ask (.work hφ hstep) ih

theorem follows_within {op : Operation α} (hop : op.Within ClientStep.Inner) :
    Phase.idle.Follows op := by
  rw [← bind_pure op]
  exact .bind rfl hop .idle

theorem follows_guarded {op : Operation α} (hop : op.Within ClientStep.Inner) (make : α → β) :
    Phase.idle.Follows (Manager.guarded op >>= fun a => pure (make a)) := by
  rw [Manager.guarded, bind_assoc]
  refine .ask .lock fun _ => ?_
  rw [Program.bind_done, bind_assoc]
  exact .bind rfl hop fun a => .ask .unlock fun _ => .idle _

theorem follows_exclusive {op : Operation α} (hop : op.Within ClientStep.Inner) (make : α → β) :
    Phase.before.Follows (Manager.exclusive op >>= fun a => pure (make a)) := by
  rw [Manager.exclusive, Manager.guarded, bind_assoc]
  refine .ask .take fun _ => ?_
  rw [Program.bind_done, bind_assoc, bind_assoc]
  refine .ask .raise fun _ => ?_
  rw [Program.bind_done, bind_assoc]
  exact .bind rfl hop fun a => .ask .lower fun _ => .ask .give fun _ => .ended _

theorem Follows.eq_done {q : Operation α} (h : Phase.ended.Follows q) : ∃ a, q = .done a := by
  cases h with
  | ended a => exact ⟨a, rfl⟩
  | ask hstep =>
      cases hstep with
      | work hφ => cases hφ

/-- An exclusive operation that has the guard gives it back with its last step. -/
theorem Follows.inside {σ : Type} [Store σ] {q : Operation α} {φ : Phase} (h : φ.Follows q)
    (hexclusive : φ.isExclusive = true) (hguard : φ.hasGuard = true) :
    (Exposed.guard σ).Inside q := by
  induction h with
  | ended a => cases hguard
  | idle a => cases hguard
  | ask hstep hrest ih =>
      cases hstep with
      | take => cases hguard
      | raise => exact .ask rfl rfl fun answer => ih answer rfl rfl
      | lower => exact .ask rfl rfl fun answer => ih answer rfl rfl
      | give => exact .last rfl rfl fun answer => (hrest answer).eq_done
      | lock => cases hguard
      | unlock => cases hexclusive
      | work hφ hstep =>
          exact .ask (Exposed.takes_of_inner hstep) (Exposed.gives_of_inner hstep) fun answer =>
            ih answer hexclusive hguard

/-- An exclusive operation does its work while it is busy. -/
theorem Fits.eq_busy {W : Type} {φ : Phase} {step : ClientStep}
    {resume : step.Answer → Operation α}
    (h : φ.Fits (some (.running (.ask step resume) : Task clientSteps W α)))
    (hexclusive : φ.isExclusive = true) (hinner : step.Inner) : φ = .busy := by
  cases h with
  | running hq =>
      cases hq with
      | ask hstep hrest =>
          cases hstep with
          | work hφ =>
              cases φ with
              | busy => rfl
              | idle => cases hexclusive
              | locked => cases hexclusive
              | _ => cases hφ
          | _ => exact hinner.elim

theorem Follows.eq_release {q : Operation α} (h : Phase.leaving.Follows q) :
    ∃ a, q = .ask .release fun _ => .done a := by
  cases h with
  | @ask _ _ _ resume hstep hrest =>
      cases hstep with
      | give =>
          obtain ⟨a, ha⟩ := (hrest ()).eq_done
          obtain rfl : resume = fun _ => .done a := funext fun _ => ha
          exact ⟨a, rfl⟩
      | work hφ => cases hφ

theorem Fits.settled {W : Type} {φ : Phase} {task : Task clientSteps W α}
    (h : φ.Fits (some task)) (hφ : φ.isSettled = true) : task.Settled := by
  cases h with
  | waiting hfirst => rcases hfirst with rfl | rfl <;> cases hφ
  | ended a => exact .finished a
  | idle a => cases hφ
  | running hq =>
      cases φ with
      | leaving =>
          obtain ⟨a, rfl⟩ := hq.eq_release
          exact .leaving a
      | ended =>
          obtain ⟨a, rfl⟩ := hq.eq_done
          exact .ended a
      | _ => cases hφ

/-- A task that is busy runs, and has the guard. -/
theorem Fits.holds {σ : Type} [Store σ] {task : Task clientSteps (Exposed σ) α}
    (h : Phase.busy.Fits (some task)) : task.Holds (Exposed.guard σ) := by
  cases h with
  | waiting hfirst => rcases hfirst with h | h <;> cases h
  | running hq => exact hq.inside rfl rfl

/-- A task is settled in no other phase. -/
theorem Fits.isSettled {W : Type} {φ : Phase} {task : Task clientSteps W α}
    (h : φ.Fits (some task)) (hexclusive : φ.isExclusive = true) (htask : task.Settled) :
    φ.isSettled = true := by
  cases htask with
  | leaving a =>
      cases h with
      | running hq =>
          cases hq with
          | ask hstep =>
              cases hstep with
              | give => rfl
              | unlock => cases hexclusive
              | work hφ hstep => exact hstep.elim
  | ended a =>
      cases h with
      | running hq =>
          cases hq with
          | ended => rfl
          | idle => cases hexclusive
  | finished a =>
      cases h with
      | ended => rfl
      | idle => cases hexclusive

end Phase

/-! ## The flag of a pool -/

namespace Pool

variable {σ : Type} {kinds : Nat → Bool} {phases : Nat → Phase} {holder : Option Nat}
  {p : Pool clientSteps (Exposed σ) Reply}

/-- The flag has to be up: an exclusive operation is busy, or none has settled. -/
def Raised (phases : Nat → Phase) : Prop :=
  (∃ i, phases i = .busy) ∨ ∀ i, (phases i).isSettled = false

/-- The pool stands in these phases: at most one operation has the guard, and the flag is up exactly
if an exclusive operation is busy or none has settled. -/
structure Standing (kinds : Nat → Bool) (phases : Nat → Phase) (holder : Option Nat)
    (p : Pool clientSteps (Exposed σ) Reply) : Prop where
  fits : ∀ i, (phases i).Fits p.tasks[i]?
  kind : ∀ i, (phases i).isExclusive = kinds i
  guard : ∀ i, (phases i).hasGuard = true ↔ holder = some i
  held : p.world.world.held = holder.isSome
  loading : p.world.world.loading = true ↔ Raised phases

/-- A move of one task, which leads it into some phase. -/
theorem Standing.shift (hp : Standing kinds phases holder p) {i : Nat} {φ : Phase}
    {task : Task clientSteps (Exposed σ) Reply} {y : Exposed σ} {holder' : Option Nat}
    (hi : i < p.tasks.length) (hfits : φ.Fits (some task))
    (hkind : φ.isExclusive = (phases i).isExclusive)
    (hguard : ∀ j, (Function.update phases i φ j).hasGuard = true ↔ holder' = some j)
    (hheld : y.world.held = holder'.isSome)
    (hloading : y.world.loading = true ↔ Raised (Function.update phases i φ)) :
    Standing kinds (Function.update phases i φ) holder' ⟨p.tasks.set i task, y⟩ := by
  refine ⟨fun j => ?_, fun j => ?_, hguard, hheld, hloading⟩
  · by_cases hij : i = j
    · subst hij
      rw [Function.update_self, List.getElem?_set_self hi]
      exact hfits
    · rw [Function.update_of_ne (Ne.symm hij), List.getElem?_set_ne hij]
      exact hp.fits j
  · by_cases hij : i = j
    · subst hij
      rw [Function.update_self, hkind, hp.kind]
    · rw [Function.update_of_ne (Ne.symm hij), hp.kind]

/-- A move that changes neither the phase nor what the flag and the guard are. -/
theorem Standing.stay (hp : Standing kinds phases holder p) {i : Nat}
    {task : Task clientSteps (Exposed σ) Reply} {y : Exposed σ} (hi : i < p.tasks.length)
    (hfits : (phases i).Fits (some task)) (hheld : y.world.held = p.world.world.held)
    (hloading : y.world.loading = p.world.world.loading) :
    Standing kinds phases holder ⟨p.tasks.set i task, y⟩ := by
  have hsame := Function.update_eq_self i phases
  refine hsame ▸ hp.shift hi hfits rfl ?_ ?_ ?_
  · rw [hsame]; exact hp.guard
  · rw [hheld]; exact hp.held
  · rw [hsame, hloading]; exact hp.loading

theorem raised_update {i : Nat} {φ : Phase} (hbusy : φ = .busy ↔ phases i = .busy)
    (hsettled : φ.isSettled = (phases i).isSettled) :
    Raised (Function.update phases i φ) ↔ Raised phases := by
  have hbusy' (j : Nat) : Function.update phases i φ j = .busy ↔ phases j = .busy := by
    by_cases hij : j = i
    · subst hij
      rw [Function.update_self, hbusy]
    · rw [Function.update_of_ne hij]
  have hsettled' (j : Nat) : (Function.update phases i φ j).isSettled = (phases j).isSettled := by
    by_cases hij : j = i
    · subst hij
      rw [Function.update_self, hsettled]
    · rw [Function.update_of_ne hij]
  simp only [Raised, hbusy', hsettled']

theorem Standing.guard_update (hp : Standing kinds phases holder p) {i : Nat} {φ : Phase}
    {holder' : Option Nat} (hφ : φ.hasGuard = true ↔ holder' = some i)
    (hothers : ∀ j, j ≠ i → (holder = some j ↔ holder' = some j)) (j : Nat) :
    (Function.update phases i φ j).hasGuard = true ↔ holder' = some j := by
  by_cases hij : j = i
  · subst hij
    rw [Function.update_self, hφ]
  · rw [Function.update_of_ne hij, hp.guard, hothers j hij]

theorem Standing.flag_update (hp : Standing kinds phases holder p) {i : Nat} {φ : Phase}
    {y : Exposed σ} (hloading : y.world.loading = p.world.world.loading)
    (hbusy : φ = .busy ↔ phases i = .busy) (hsettled : φ.isSettled = (phases i).isSettled) :
    y.world.loading = true ↔ Raised (Function.update phases i φ) := by
  rw [hloading, hp.loading, raised_update hbusy hsettled]

section

variable [Store σ] {i : Nat} {φ : Phase}

/-- Whoever takes the guard finds it free, and otherwise waits. -/
theorem Standing.take (hp : Standing kinds phases holder p) {resume : Unit → Operation Reply}
    (htask : p.tasks[i]? = some (.running (.ask .acquire resume)))
    (hrest : ∀ answer, φ.Follows (resume answer))
    (hkind : φ.isExclusive = (phases i).isExclusive) (hguard : φ.hasGuard = true)
    (hbusy : φ = .busy ↔ phases i = .busy) (hsettled : φ.isSettled = (phases i).isSettled) :
    ∃ phases' holder', Standing kinds phases' holder' (p.move (Exposed.handler σ) i) := by
  cases hheld : p.world.world.held with
  | true =>
      have hstuck : Task.stepProgram (Exposed.handler σ) (.ask .acquire resume) p.world = none :=
        if_pos hheld
      rw [Guard.move_of_stuck htask hstuck]
      exact ⟨phases, holder, hp⟩
  | false =>
      obtain rfl : holder = none :=
        Option.not_isSome_iff_eq_none.mp (by rw [← hp.held, hheld]; exact Bool.false_ne_true)
      rw [Guard.move_running (G := Exposed.guard σ) htask hheld]
      refine ⟨_, some i, hp.shift (Guard.lt_of_task htask) (.running (hrest _)) hkind
        (hp.guard_update ⟨fun _ => rfl, fun _ => hguard⟩ fun j hij => ?_) rfl
        (hp.flag_update rfl hbusy hsettled)⟩
      exact ⟨nofun, fun h => absurd (Option.some.inj h).symm hij⟩

/-- Whoever gives the guard back has it, so afterwards nobody has it. -/
theorem Standing.give (hp : Standing kinds phases holder p) {resume : Unit → Operation Reply}
    (htask : p.tasks[i]? = some (.running (.ask .release resume)))
    (hholder : (phases i).hasGuard = true) (hrest : ∀ answer, φ.Follows (resume answer))
    (hkind : φ.isExclusive = (phases i).isExclusive) (hguard : φ.hasGuard = false)
    (hbusy : φ = .busy ↔ phases i = .busy) (hsettled : φ.isSettled = (phases i).isSettled) :
    Standing kinds (Function.update phases i φ) none (p.move (Exposed.handler σ) i) := by
  obtain rfl : holder = some i := (hp.guard i).mp hholder
  rw [Guard.move_running (G := Exposed.guard σ) htask rfl]
  refine hp.shift (Guard.lt_of_task htask) (.running (hrest _)) hkind
    (hp.guard_update ⟨fun h => absurd (hguard.symm.trans h) nofun, nofun⟩ fun j hij => ?_) rfl
    (hp.flag_update rfl hbusy hsettled)
  exact ⟨fun h => absurd (Option.some.inj h).symm hij, nofun⟩

/-- Who raises the flag is busy from then on. -/
theorem Standing.raise (hp : Standing kinds phases holder p) {resume : Unit → Operation Reply}
    (htask : p.tasks[i]? = some (.running (.ask (.setLoading true) resume)))
    (hφ : phases i = .entering) (hrest : ∀ answer, Phase.busy.Follows (resume answer)) :
    Standing kinds (Function.update phases i .busy) holder (p.move (Exposed.handler σ) i) := by
  have hholder : holder = some i := (hp.guard i).mp (hφ ▸ rfl)
  rw [Guard.move_running (G := Exposed.guard σ) htask rfl]
  refine hp.shift (Guard.lt_of_task htask) (.running (hrest _)) (hφ ▸ rfl)
    (hp.guard_update ⟨fun _ => hholder, fun _ => rfl⟩ fun _ _ => .rfl) hp.held ?_
  exact ⟨fun _ => .inl ⟨i, Function.update_self ..⟩, fun _ => rfl⟩

/-- Who lowers the flag is the only one that was busy: the others do not have the guard. -/
theorem Standing.lower (hp : Standing kinds phases holder p) {resume : Unit → Operation Reply}
    (htask : p.tasks[i]? = some (.running (.ask (.setLoading false) resume)))
    (hφ : phases i = .busy) (hrest : ∀ answer, Phase.leaving.Follows (resume answer)) :
    Standing kinds (Function.update phases i .leaving) holder (p.move (Exposed.handler σ) i) := by
  obtain rfl : holder = some i := (hp.guard i).mp (hφ ▸ rfl)
  rw [Guard.move_running (G := Exposed.guard σ) htask rfl]
  refine hp.shift (Guard.lt_of_task htask) (.running (hrest _)) (hφ ▸ rfl)
    (hp.guard_update ⟨fun _ => rfl, fun _ => rfl⟩ fun _ _ => .rfl) hp.held ?_
  refine ⟨nofun, ?_⟩
  rintro (⟨j, hj⟩ | hnone)
  · by_cases hij : j = i
    · subst hij
      rw [Function.update_self] at hj
      cases hj
    · rw [Function.update_of_ne hij] at hj
      exact absurd (Option.some.inj ((hp.guard j).mp (hj ▸ rfl))).symm hij
  · have hi := hnone i
    rw [Function.update_self] at hi
    cases hi

/-- A task works on in its phase. -/
theorem Standing.work (hp : Standing kinds phases holder p) {step : ClientStep}
    {resume : step.Answer → Operation Reply}
    (htask : p.tasks[i]? = some (.running (.ask step resume))) (hstep : step.Inner)
    (hrest : ∀ answer, (phases i).Follows (resume answer)) :
    Standing kinds phases holder (p.move (Exposed.handler σ) i) := by
  have hopen : ((Exposed.guard σ).takes step && (Exposed.guard σ).isHeld p.world) = false := by
    rw [Exposed.takes_of_inner hstep, Bool.false_and]
  rw [Guard.move_running htask hopen]
  exact hp.stay (Guard.lt_of_task htask) (.running (hrest _)) (Exposed.held_of_inner hstep _)
    (Exposed.loading_of_inner hstep _)

/-- Every move leaves the pool standing in some phases. -/
theorem Standing.move (hp : Standing kinds phases holder p) (i : Nat) :
    ∃ phases' holder', Standing kinds phases' holder' (p.move (Exposed.handler σ) i) := by
  cases htask : p.tasks[i]? with
  | none =>
      rw [Pool.move, htask]
      exact ⟨phases, holder, hp⟩
  | some task =>
      have hi := Guard.lt_of_task htask
      have hfits := htask ▸ hp.fits i
      -- the phase of the task says which move it makes
      generalize hφ : phases i = φ at hfits
      cases hfits with
      | waiting hunsettled hstart =>
          rw [Guard.move_of_task htask rfl]
          exact ⟨phases, holder, hp.stay hi (hφ ▸ .running (hstart _)) rfl rfl⟩
      | ended a =>
          rw [Guard.move_of_stuck htask rfl]
          exact ⟨phases, holder, hp⟩
      | idle a =>
          rw [Guard.move_of_stuck htask rfl]
          exact ⟨phases, holder, hp⟩
      | running hq =>
          cases hq with
          | ended a =>
              rw [Guard.move_of_task htask rfl]
              exact ⟨phases, holder, hp.stay hi (hφ ▸ .ended a) rfl rfl⟩
          | idle a =>
              rw [Guard.move_of_task htask rfl]
              exact ⟨phases, holder, hp.stay hi (hφ ▸ .idle a) rfl rfl⟩
          | ask hstep hrest =>
              cases hstep with
              | take => exact hp.take htask hrest (hφ ▸ rfl) rfl (by simp [hφ]) (hφ ▸ rfl)
              | raise => exact ⟨_, _, hp.raise htask hφ hrest⟩
              | lower => exact ⟨_, _, hp.lower htask hφ hrest⟩
              | give =>
                  exact ⟨_, _, hp.give htask (hφ ▸ rfl) hrest (hφ ▸ rfl) rfl (by simp [hφ])
                    (hφ ▸ rfl)⟩
              | lock => exact hp.take htask hrest (hφ ▸ rfl) rfl (by simp [hφ]) (hφ ▸ rfl)
              | unlock =>
                  exact ⟨_, _, hp.give htask (hφ ▸ rfl) hrest (hφ ▸ rfl) rfl (by simp [hφ])
                    (hφ ▸ rfl)⟩
              | work hworks hinner => exact ⟨_, _, hp.work htask hinner (hφ ▸ hrest)⟩

/-- Under every schedule the pool stands in some phases. -/
theorem Standing.run (hp : Standing kinds phases holder p) (schedule : List Nat) :
    ∃ phases' holder', Standing kinds phases' holder' (p.run (Exposed.handler σ) schedule) := by
  induction schedule generalizing phases holder p with
  | nil => exact ⟨phases, holder, hp⟩
  | cons i schedule ih =>
      obtain ⟨phases₁, holder₁, hnext⟩ := hp.move i
      exact ih hnext

end

end Pool

/-! ## Errands at the same time -/

namespace Errand

/-- The phase in which an errand begins. -/
def firstPhase (errand : Errand) : Phase :=
  if errand.isExclusive then .before else .idle

theorem follows_expiry (e : ApiError) :
    Phase.idle.Follows (Manager.expireIfUnauthorized e >>= fun b => pure (Reply.flag b)) := by
  unfold Manager.expireIfUnauthorized
  split
  next =>
    exact Phase.follows_guarded (Manager.looks_dropSession.mono fun _ h => h.aside.ofSession.1) _
  next => exact .idle _

theorem follows_operation (c : ApiClient) (errand : Errand) :
    errand.firstPhase.Follows (errand.operation c) := by
  cases errand with
  | expire e => exact follows_expiry e
  | call made =>
      rw [firstPhase]
      split
      next hexclusive =>
        obtain ⟨β, work, make, hwork, hop⟩ := Call.exists_exclusive c hexclusive
        rw [operation, hop]
        exact Phase.follows_exclusive (hwork.mono fun _ => And.left) make
      next hmeek =>
        rw [Bool.not_eq_true] at hmeek
        by_cases hexpire : made = .expire
        · subst hexpire
          refine .ask (.work rfl trivial) fun e => ?_
          cases e with
          | none => exact .idle _
          | some e => exact follows_expiry e
        · exact Phase.follows_within (Call.inner_operation c hmeek hexpire)

/-- The first phases of some errands. Where there is none, nothing is done. -/
def firstPhases (errands : List Errand) (i : Nat) : Phase :=
  (errands[i]?.map firstPhase).getD .idle

theorem firstPhase_eq (errand : Errand) :
    errand.firstPhase = .before ∨ errand.firstPhase = .idle := by
  rw [firstPhase]
  split
  next => exact .inl rfl
  next => exact .inr rfl

theorem firstPhases_eq (errands : List Errand) (i : Nat) :
    firstPhases errands i = .before ∨ firstPhases errands i = .idle := by
  rw [firstPhases]
  cases errands[i]? with
  | none => exact .inr rfl
  | some errand => exact errand.firstPhase_eq

/-- Whether the errand of an index is exclusive. -/
def kinds (errands : List Errand) (i : Nat) : Bool :=
  errands[i]?.any isExclusive

/-- Errands that have not begun stand in their first phases. -/
theorem standing_start {σ : Type} (c : ApiClient) (errands : List Errand) {x : Exposed σ}
    (hnew : x.world.loading = true) (hfree : x.world.held = false) :
    Pool.Standing (kinds errands) (firstPhases errands) none
      (.start (errands.map (operation c)) x) := by
  refine ⟨fun i => ?_, fun i => ?_, fun i => ?_, hfree, ⟨fun _ => .inr fun i => ?_, fun _ => hnew⟩⟩
  · rw [firstPhases, Pool.start, List.map_map, List.getElem?_map]
    cases errands[i]? with
    | none => exact .absent
    | some errand => exact .waiting errand.firstPhase_eq fun _ => errand.follows_operation c
  · rw [firstPhases, kinds]
    cases errands[i]? with
    | none => rfl
    | some errand =>
        rw [Option.map_some, Option.getD_some, firstPhase, Option.any_some]
        cases errand.isExclusive <;> rfl
  · rcases firstPhases_eq errands i with h | h <;> simp [h, Phase.hasGuard]
  · rcases firstPhases_eq errands i with h | h <;> rw [h] <;> rfl

/-- The phase of an exclusive task. -/
theorem exists_phase {σ : Type} {errands : List Errand} {phases : Nat → Phase}
    {holder : Option Nat} {p : Pool clientSteps (Exposed σ) Reply}
    {task : Task clientSteps (Exposed σ) Reply}
    (hp : Pool.Standing (kinds errands) phases holder p) (htask : task ∈ p.exclusive errands) :
    ∃ i, (phases i).isExclusive = true ∧ (phases i).Fits (some task) := by
  obtain ⟨i, errand, herrand, hexclusive, hi⟩ := Pool.mem_exclusive.mp htask
  refine ⟨i, ?_, hi ▸ hp.fits i⟩
  rw [hp.kind, kinds, herrand]
  exact hexclusive

/-- The task of an exclusive phase. -/
theorem exists_task {σ : Type} {errands : List Errand} {phases : Nat → Phase}
    {holder : Option Nat} {p : Pool clientSteps (Exposed σ) Reply}
    (hp : Pool.Standing (kinds errands) phases holder p) {i : Nat}
    (hi : (phases i).isExclusive = true) :
    ∃ task ∈ p.exclusive errands, (phases i).Fits (some task) := by
  have hkind := hp.kind i
  have hfits := hp.fits i
  rw [hi, kinds] at hkind
  cases htask : p.tasks[i]? with
  | none =>
      rw [htask] at hfits
      generalize phases i = φ at hfits hi
      cases hfits
      cases hi
  | some task =>
      rw [htask] at hfits
      cases herrand : errands[i]? with
      | none => simp [herrand] at hkind
      | some errand =>
          rw [herrand, Option.any_some] at hkind
          exact ⟨task, Pool.mem_exclusive.mpr ⟨i, errand, herrand, hkind.symm, htask⟩, hfits⟩

/-- The loading flag. Errands go on at the same time over one manager that was just started; the
store may fail in any steps, and the server may answer anything. After any moves of theirs: the flag
is up if no exclusive errand has settled; it is up at every step of the work of an exclusive errand;
and it is down if one has settled and none has the guard, whoever else may have it. -/
theorem loading_of_run {σ : Type} [Store σ] (c : ApiClient) (errands : List Errand)
    (x : Exposed σ) (hnew : x.world.loading = true) (hfree : x.world.held = false)
    (schedule : List Nat) {p : Pool clientSteps (Exposed σ) Reply}
    (hp : (Pool.start (errands.map (operation c)) x).run (Exposed.handler σ) schedule = p) :
    ((∀ task ∈ p.exclusive errands, ¬ task.Settled) → p.world.world.loading = true) ∧
      (∀ (step : ClientStep) (resume : step.Answer → Operation Reply),
        .running (.ask step resume) ∈ p.exclusive errands → step.Inner →
        p.world.world.loading = true) ∧
      ((∃ task ∈ p.exclusive errands, task.Settled) →
        (∀ task ∈ p.exclusive errands, ¬ task.Holds (Exposed.guard σ)) →
        p.world.world.loading = false) := by
  subst hp
  obtain ⟨phases, holder, hlast⟩ := (standing_start c errands hnew hfree).run schedule
  refine ⟨fun hnone => ?_, fun step resume htask hinner => ?_, ?_⟩
  · refine hlast.loading.mpr (.inr fun i => ?_)
    by_contra hsettled
    rw [Bool.not_eq_false] at hsettled
    obtain ⟨task, hmem, hfits⟩ := exists_task hlast (Phase.exclusive_of_settled hsettled)
    exact hnone task hmem (hfits.settled hsettled)
  · obtain ⟨i, hexclusive, hfits⟩ := exists_phase hlast htask
    exact hlast.loading.mpr (.inl ⟨i, hfits.eq_busy hexclusive hinner⟩)
  · rintro ⟨task, hmem, htask⟩ hothers
    by_contra hloading
    rw [Bool.not_eq_false] at hloading
    rcases hlast.loading.mp hloading with ⟨i, hbusy⟩ | hnone
    · obtain ⟨other, hother, hfits⟩ := exists_task hlast (i := i) (hbusy ▸ rfl)
      exact hothers other hother (hbusy ▸ hfits).holds
    · obtain ⟨i, hexclusive, hfits⟩ := exists_phase hlast hmem
      exact absurd ((hnone i).symm.trans (hfits.isSettled hexclusive htask)) nofun

end Errand

namespace Sample

/-- Somebody signs in; meanwhile the error of a refused token gets to the manager, and somebody
signs out. -/
def crowd : List Errand :=
  [.call (.signIn credentials), .expire (.ofStatus 401 ""), .call .signOut]

/-- The crowd after some moves. -/
def crowdAfter (schedule : List Nat) : Pool clientSteps (Exposed MemoryStore) Reply :=
  (Pool.start (crowd.map (Errand.operation client)) (sound [grant])).run
    (Exposed.handler MemoryStore) schedule

end Sample

/-- Before anybody has settled the flag is up, also while the expiry has the guard. When the sign-in
has settled and the expiry has the guard, the flag is down. -/
theorem Errand.loading_of_crowd :
    ((Sample.crowdAfter [1, 1]).world.world.held = true ∧
        (Sample.crowdAfter [1, 1]).world.world.loading = true) ∧
      (Sample.crowdAfter (List.replicate 40 0 ++ [1, 1])).world.world.held = true ∧
        (Sample.crowdAfter (List.replicate 40 0 ++ [1, 1])).world.world.loading = false := by
  have hnew : (Sample.sound [Sample.grant]).world.loading = true := rfl
  have hfree : (Sample.sound [Sample.grant]).world.held = false := rfl
  have hearly := loading_of_run Sample.client Sample.crowd _ hnew hfree [1, 1]
    (p := Sample.crowdAfter [1, 1]) rfl
  have hlate := loading_of_run Sample.client Sample.crowd _ hnew hfree
    (List.replicate 40 0 ++ [1, 1]) (p := Sample.crowdAfter (List.replicate 40 0 ++ [1, 1])) rfl
  refine ⟨⟨by decide +kernel, hearly.1 fun task hmem hsettled => ?_⟩, by decide +kernel,
    hlate.2.2 ?_ fun task hmem => ?_⟩
  · have hbegun : ((Sample.crowdAfter [1, 1]).exclusive Sample.crowd).any Task.hasBegun =
        false := by
      decide +kernel
    exact List.any_eq_false.mp hbegun task hmem (Task.hasBegun_of_settled hsettled)
  · have hresult : ((Sample.crowdAfter (List.replicate 40 0 ++ [1, 1])).exclusive
        Sample.crowd).any (fun task => task.result?.isSome) = true := by
      decide +kernel
    obtain ⟨task, hmem, htask⟩ := List.any_eq_true.mp hresult
    exact ⟨task, hmem, Task.settled_of_result htask⟩
  · have hrests : ((Sample.crowdAfter (List.replicate 40 0 ++ [1, 1])).exclusive
        Sample.crowd).all Task.rests = true := by
      decide +kernel
    exact Task.not_holds_of_rests (List.all_eq_true.mp hrests task hmem)

end SessionKeeper
