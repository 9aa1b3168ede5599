import SessionKeeper.Proofs.Manager.Backed
import SessionKeeper.Proofs.Manager.Work
import SessionKeeper.Proofs.Program.Guard

/-!
# Calls of one manager at the same time

The calls of a manager take turns by its guard, which each of them holds from its first step to its
last. So calls that are made at the same time do what they do when they are made one after another,
and between them the session in memory is one that is stored.
-/

namespace SessionKeeper

/-! ## The guard of the manager -/

namespace Exposed

variable {σ α : Type} [Store σ]

theorem held_answer (step : ClientStep) (x : Exposed σ) :
    (answer step x).2.world.held =
      match step with
      | .acquire => true
      | .release => false
      | _ => x.world.held := by
  cases step with
  | get key => rw [answer]; split <;> rfl
  | set key value => rw [answer]; split <;> rfl
  | remove key => rw [answer]; split <;> rfl
  | send request => rw [answer]; split <;> rfl
  | _ => rfl

/-- The guard of the manager. -/
def guard (σ : Type) [Store σ] : Guard (handler σ) where
  takes
    | .acquire => true
    | _ => false
  gives
    | .release => true
    | _ => false
  isHeld x := x.world.held
  isBlocked_eq step x := by cases step <;> rfl
  isHeld_answer step x := by
    refine (held_answer step x).trans ?_
    cases step <;> rfl

end Exposed

/-! ## What holds the guard -/

namespace Exposed

variable {σ α : Type} [Store σ]

theorem takes_of_inner {step : ClientStep} (h : step.Inner) :
    (guard σ).takes step = false := by
  cases step with
  | acquire => exact h.elim
  | _ => rfl

theorem gives_of_inner {step : ClientStep} (h : step.Inner) :
    (guard σ).gives step = false := by
  cases step with
  | release => exact h.elim
  | _ => rfl

/-- The work of an operation leaves the guard alone. -/
theorem quiet_of_inner {op : Operation α} (hop : op.Within ClientStep.Inner) :
    (guard σ).Quiet op := by
  induction hop with
  | done a => exact .done a
  | ask hstep _ ih => exact .ask (takes_of_inner hstep) (gives_of_inner hstep) ih

end Exposed

namespace Manager

open Guard

variable {σ α : Type} [Store σ]

/-- An operation that is run under the guard takes it first and gives it back last. -/
theorem outside_guarded {op : Operation α} (hop : (Exposed.guard σ).Quiet op) :
    (Exposed.guard σ).Outside (guarded op) := by
  refine .ask rfl fun _ => ?_
  exact hop.inside fun a => .last rfl rfl fun _ => ⟨a, rfl⟩

theorem outside_exclusive {op : Operation α} (hop : (Exposed.guard σ).Quiet op) :
    (Exposed.guard σ).Outside (exclusive op) := by
  refine outside_guarded ?_
  exact .bind (.perform rfl rfl) fun _ => .bind hop fun _ =>
    .bind (.perform rfl rfl) fun _ => .pure _

theorem outside_expireIfUnauthorized (e : ApiError) :
    (Exposed.guard σ).Outside (expireIfUnauthorized e) := by
  unfold expireIfUnauthorized
  split
  next =>
    exact outside_guarded
      (Exposed.quiet_of_inner (looks_dropSession.mono fun _ h => h.aside.ofSession.1))
  next => exact .done _

end Manager

theorem Call.outside_operation {σ : Type} [Store σ] (c : ApiClient) (call : Call)
    (h : call.isExclusive = true) : (Exposed.guard σ).Outside (call.operation c) := by
  obtain ⟨β, work, make, hwork, hop⟩ := exists_exclusive c h
  rw [hop]
  exact (Manager.outside_exclusive
    (Exposed.quiet_of_inner (hwork.mono fun _ => And.left))).map make

/-- Each call of the manager holds the guard from its first step to its last. An expiry for an error
that is not about the token takes no step at all. -/
theorem ManagerCall.outside_operation {σ : Type} [Store σ] (c : ApiClient) (call : ManagerCall) :
    (Exposed.guard σ).Outside (call.operation c) := by
  cases call with
  | bootstrap => exact Call.outside_operation c .bootstrap rfl
  | signIn credentials => exact Call.outside_operation c (.signIn credentials) rfl
  | registerUser credentials name =>
      exact Call.outside_operation c (.registerUser credentials name) rfl
  | signOut => exact Call.outside_operation c .signOut rfl
  | expire e => exact (Manager.outside_expireIfUnauthorized e).map _

/-! ## Calls at the same time -/

namespace Exposed

variable {σ κ : Type} [Store σ]

theorem runAll_operation (operation : κ → Operation Reply) (calls : List κ) (x : Exposed σ) :
    Program.runAll (handler σ) (calls.map operation) x =
      ((records operation calls x).map Record.reply, after operation calls x) := by
  induction calls generalizing x with
  | nil => rfl
  | cons call calls ih =>
      rw [List.map_cons, Program.runAll, ih]
      rfl

theorem filterMap_operation (operation : κ → Operation Reply) (calls : List κ)
    (order : List Nat) :
    order.filterMap ((calls.map operation)[·]?) =
      (order.filterMap (calls[·]?)).map operation := by
  rw [List.map_filterMap]
  simp only [List.getElem?_map]

end Exposed

/-- Calls of one manager that are made at the same time take turns. However their steps are
interleaved, if all of them finish then they give the replies and leave the world of making them one
after another, first in the order in which they took the guard; and from one state in which nobody
has the guard to another, a session in memory stays one that is stored. The store may fail in any
steps, and the server may answer anything. -/
theorem ManagerCall.calls_take_turns {σ : Type} [Store σ] [LawfulStore σ] (c : ApiClient)
    (calls : List ManagerCall) (x : Exposed σ) (hfree : x.world.held = false) :
    (∀ (schedule : List Nat) (p : Pool clientSteps (Exposed σ) Reply) (replies : List Reply),
      (Pool.start (calls.map (operation c)) x).run (Exposed.handler σ) schedule = p →
      Pool.results? p.tasks = some replies →
      ∃ order : List Nat, order.Perm (List.range calls.length) ∧
        (Exposed.guard σ).takers schedule (.start (calls.map (operation c)) x) <+: order ∧
        (Exposed.records (operation c) (order.filterMap (calls[·]?)) x).map Record.reply =
          order.filterMap (replies[·]?) ∧
        Exposed.after (operation c) (order.filterMap (calls[·]?)) x = p.world) ∧
    (∀ (earlier later : List Nat) (p q : Pool clientSteps (Exposed σ) Reply),
      (Pool.start (calls.map (operation c)) x).run (Exposed.handler σ) earlier = p →
      p.run (Exposed.handler σ) later = q →
      p.world.world.held = false → q.world.world.held = false →
      p.world.holdings.Backed → q.world.holdings.Backed) := by
  have hops : ∀ op ∈ calls.map (operation c), (Exposed.guard σ).Outside op := by
    intro op hop
    obtain ⟨call, -, rfl⟩ := List.mem_map.mp hop
    exact outside_operation c call
  constructor
  · rintro schedule p replies rfl hreplies
    obtain ⟨order, hperm, hprefix, hruns⟩ :=
      (Exposed.guard σ).serializable hops hfree schedule hreplies
    rw [List.length_map] at hperm
    rw [Exposed.filterMap_operation, Exposed.runAll_operation, Prod.mk.injEq] at hruns
    exact ⟨order, hperm, hprefix, hruns⟩
  · rintro earlier later p q hp rfl hbefore hafter hbacked
    have hworld := (Exposed.guard σ).world_of_free hops hfree earlier later hp hbefore hafter
    rw [Exposed.filterMap_operation, Exposed.runAll_operation] at hworld
    -- between the two states the calls run one after another, and each keeps the session stored
    rw [hworld]
    refine Exposed.after_invariant (fun _ => True) ?_ (fun _ _ => trivial) hbacked
    intro call _ v turns reply w hruns _ hv
    exact backed_of_outcome (runs_operation hruns) hv

namespace Sample

/-- Somebody signs in while somebody signs out. -/
def rivals : Pool clientSteps (Exposed MemoryStore) Reply :=
  .start ([ManagerCall.signIn credentials, .signOut].map (ManagerCall.operation client)) start

/-- The first begins, but the second is quicker to take the guard. -/
def schedule : List Nat :=
  0 :: 1 :: 1 :: (List.replicate 30 [0, 1]).flatten

end Sample

/-- Of two rivals the one that took the guard is served first. -/
theorem ManagerCall.rivals_take_turns :
    ∃ order : List Nat, order.Perm [0, 1] ∧ [1, 0] <+: order ∧
      Exposed.after (operation Sample.client)
        (order.filterMap ([ManagerCall.signIn Sample.credentials, .signOut][·]?)) Sample.start =
      (Sample.rivals.run (Exposed.handler MemoryStore) Sample.schedule).world := by
  have hfree : Sample.start.world.held = false := rfl
  have hfinished : (Pool.results? (Sample.rivals.run (Exposed.handler MemoryStore)
      Sample.schedule).tasks).isSome = true := by
    decide +kernel
  have htakers : (Exposed.guard MemoryStore).takers Sample.schedule Sample.rivals = [1, 0] := by
    decide +kernel
  obtain ⟨replies, hreplies⟩ := Option.isSome_iff_exists.mp hfinished
  obtain ⟨order, hperm, hprefix, -, hworld⟩ :=
    (calls_take_turns Sample.client [.signIn Sample.credentials, .signOut] Sample.start hfree).1
      Sample.schedule _ replies rfl hreplies
  exact ⟨order, hperm, htakers ▸ hprefix, hworld⟩

end SessionKeeper
