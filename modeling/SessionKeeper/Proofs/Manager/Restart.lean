import Mathlib.Control.Monad.Basic
import SessionKeeper.Proofs.Manager.History
import SessionKeeper.Proofs.Session

/-!
# Starting again

The session in memory is the one that is stored, after any operations that begin with a bootstrap.
So a new client over the same store finds who was signed in. All that can break this is a removal
that fails when the server has refused the token.
-/

namespace SessionKeeper

namespace Holdings

/-- The session in memory is what is stored as a session. -/
def InStep (v : Holdings) : Prop :=
  v.stored = .ok v.session

theorem stored_put_render (v : Holdings) (s : Session) :
    stored ⟨v.texts.put Session.key s.render, some s⟩ = .ok (some s) := by
  simp [stored, Session.ofStored, Session.render_ne_empty, Session.parse_render, Except.map]

theorem stored_forget (v : Holdings) : v.forget.stored = .ok none := by
  simp [stored, Session.ofStored, forget]

theorem inStep_forget_leave (v : Holdings) : v.forget.leave.InStep :=
  v.forget.leave.stored_forget

end Holdings

namespace ManagerCall

theorem inStep_of_entry {v w : Holdings} {turns : List (Turn clientSteps)}
    {result : Except Error Session} (h : Manager.Entry v turns result w)
    (hremoval : turns.any Turn.isRefusal = true → turns.any Turn.isFailedRemoval = false)
    (hv : v.InStep) : w.InStep := by
  cases h with
  | established s => exact Holdings.stored_put_render v s
  | failed => exact hv
  | forgotten => exact v.inStep_forget_leave
  | kept hrefusal hfailed => simp [hremoval hrefusal] at hfailed

/-- No call but an expiry takes memory and store out of step, unless the server refuses the token
and the removal fails. -/
theorem inStep_of_outcome {v w : Holdings} {turns : List (Turn clientSteps)} {call : ManagerCall}
    {reply : Reply} (h : Outcome v turns call reply w) (hcall : ∀ e, call ≠ .expire e)
    (hremoval : turns.any Turn.isRefusal = true → turns.any Turn.isFailedRemoval = false)
    (hv : v.InStep) : w.InStep := by
  cases h with
  | bootstrap hrestoration =>
      cases hrestoration with
      | nothing => exact hv
      | restored hsilent hstored => exact hstored
      | failed => exact hv
  | signIn hentry => exact inStep_of_entry hentry hremoval hv
  | registerUser hentry => exact inStep_of_entry hentry hremoval hv
  | signOut hdeparture =>
      cases hdeparture with
      | signedOut => exact v.inStep_forget_leave
      | failed => exact hv
  | expire => exact absurd rfl (hcall _)

end ManagerCall

namespace Exposed

variable {σ : Type} [Store σ] [LawfulStore σ]

/-- A bootstrap that succeeds gives what is stored. -/
theorem stored_of_bootstrap {x : Exposed σ} {found : Option Session}
    (h : (run Manager.bootstrap x).1 = .ok found) : x.holdings.stored = .ok found := by
  have hruns := runs_run Manager.bootstrap x
  rw [h] at hruns
  generalize (run Manager.bootstrap x).2.holdings = w at hruns
  cases Manager.runs_bootstrap hruns with
  | nothing hsilent hstored => exact hstored
  | restored hsilent hstored => exact hstored

/-- The first bootstrap of a new client brings memory and store in step, if it succeeds. -/
theorem inStep_of_bootstrap {x : Exposed σ} {found : Option Session}
    (hnew : x.world.session = none) (h : (run Manager.bootstrap x).1 = .ok found) :
    (run Manager.bootstrap x).2.holdings.InStep := by
  have hruns := runs_run Manager.bootstrap x
  rw [h] at hruns
  generalize (run Manager.bootstrap x).2.holdings = w at hruns
  cases Manager.runs_bootstrap hruns with
  | nothing hsilent hstored => exact hstored.trans (congrArg Except.ok hnew.symm)
  | restored hsilent hstored => exact hstored

end Exposed

namespace World

variable {σ : Type} [Store σ]

theorem run_exclusive {α : Type} (op : Operation α) (w : World σ) :
    ((Manager.exclusive op).run w).1 = (op.run { w with held := true, loading := true }).1 := by
  simp only [Manager.exclusive, Manager.guarded, Program.bind_eq_bind, Operation.run,
    Program.run_bind]
  rfl

theorem run_get_bind {α : Type} {w : World σ} {text : Option String}
    (hget : Store.get Session.key w.store = .ok text)
    (rest : Except StoreError (Option String) → Operation α) :
    (Operation.get Session.key >>= rest : Operation α).run w = (rest (.ok text)).run w := by
  rw [← hget]
  rfl

/-- Where the store can be read, a bootstrap finds the session that is stored. -/
theorem bootstrap_of_get {w : World σ} {text : Option String} {found : Option Session}
    (hget : Store.get Session.key w.store = .ok text)
    (hstored : Session.ofStored text = .ok found) : (Manager.bootstrap.run w).1 = .ok found := by
  rw [Session.ofStored] at hstored
  rw [Manager.bootstrap, run_exclusive, Manager.restore,
    run_get_bind (w := { w with held := true, loading := true }) hget]
  dsimp only
  split
  next hempty =>
    rw [if_pos hempty] at hstored
    cases hstored
    rfl
  next hfull =>
    rw [if_neg hfull] at hstored
    split
    next e he =>
      rw [he] at hstored
      cases hstored
    next s hs =>
      rw [hs] at hstored
      cases hstored
      rfl

/-- Where the store can be read, a client is authenticated if a session is stored. -/
theorem isAuthenticated_of_get {w : World σ} {text : Option String} {found : Option Session}
    (hget : Store.get Session.key w.store = .ok text)
    (hstored : Session.ofStored text = .ok found) :
    (Auth.isAuthenticated.run w).1 = found.isSome := by
  rw [Auth.isAuthenticated, run_get_bind hget]
  cases text with
  | none =>
      cases hstored
      rfl
  | some stored =>
      change (stored != "") = _
      by_cases hempty : stored = ""
      · subst hempty
        cases hstored
        rfl
      · rw [Session.ofStored, Option.getD_some, if_neg hempty] at hstored
        cases hparse : Session.parse stored with
        | error e =>
            rw [hparse] at hstored
            cases hstored
        | ok s =>
            rw [hparse] at hstored
            cases hstored
            simpa using hempty

end World

/-- A restart finds who is signed in. Whatever was stored, if the first bootstrap of a client
succeeds, then after any further calls but expiries a new client over the same store restores the
session in memory, unless its own bootstrap fails; and where the store can be read it does not fail,
and the client is authenticated if somebody is signed in. The store may fail in any calls, and the
server may answer anything, as long as no removal fails when the server has refused the token. -/
theorem ManagerCall.restart_restores_current {σ : Type} [Store σ] [LawfulStore σ] (c : ApiClient)
    (store : σ) (network : Http.Network) (faults : List (Option StoreError))
    (answers : List Http.Answer) (calls : List ManagerCall) {x : Exposed σ}
    {found : Option Session}
    (hfirst : Exposed.run Manager.bootstrap ⟨World.start store network, faults, answers⟩ =
      (.ok found, x))
    (hcalls : ∀ e, .expire e ∉ calls)
    (hremoval : ∀ r ∈ Exposed.records (operation c) calls x,
      r.turns.any Turn.isRefusal = true → r.turns.any Turn.isFailedRemoval = false) :
    (∀ faults answers restored,
      (Exposed.run Manager.bootstrap
        ((Exposed.after (operation c) calls x).restart faults answers)).1 = .ok restored →
      restored = (Manager.current.run (Exposed.after (operation c) calls x).world).1) ∧
    (∀ text,
      Store.get Session.key (Exposed.after (operation c) calls x).world.store = .ok text →
      (Manager.bootstrap.run (Exposed.after (operation c) calls x).world.restart).1 =
        .ok (Manager.current.run (Exposed.after (operation c) calls x).world).1 ∧
      (Auth.isAuthenticated.run (Exposed.after (operation c) calls x).world).1 =
        (Manager.current.run (Exposed.after (operation c) calls x).world).1.isSome) := by
  have hx : x.holdings.InStep := by
    have hbootstrap := Exposed.inStep_of_bootstrap (x := ⟨World.start store network, _, _⟩) rfl
      (congrArg Prod.fst hfirst)
    rwa [hfirst] at hbootstrap
  have hlast : (Exposed.after (operation c) calls x).holdings.InStep := by
    refine Exposed.after_invariant (fun r => r.turns.any Turn.isRefusal = true →
      r.turns.any Turn.isFailedRemoval = false) ?_ hremoval hx
    intro call hmem v turns reply w hruns hallowed hv
    refine inStep_of_outcome (runs_operation hruns) ?_ hallowed hv
    rintro e rfl
    exact hcalls e hmem
  -- from here on it does not matter how the last world was reached
  generalize Exposed.after (operation c) calls x = y at hlast ⊢
  constructor
  · intro faults answers restored hrestored
    have hstored := Exposed.stored_of_bootstrap hrestored
    exact Except.ok.inj (hstored.symm.trans hlast)
  · intro text hget
    -- a read that succeeds finds the text that the invariant speaks of
    have htext : text = LawfulStore.texts y.world.store Session.key :=
      LawfulStore.texts_of_get hget
    have hstored : Session.ofStored text = .ok y.world.session := htext ▸ hlast
    exact ⟨World.bootstrap_of_get (w := y.world.restart) hget hstored,
      World.isAuthenticated_of_get hget hstored⟩

/-- The first sign-in is refused, the second granted, registering cannot be stored, and signing out
fails: the restart finds the session that was granted. -/
theorem ManagerCall.restart_restores_granted :
    (Manager.bootstrap.run (Exposed.after (operation Sample.client) Sample.calls
      Sample.bootstrapped).world.restart).1 = .ok (some ⟨"1", "mail", none, "t"⟩) := by
  have hfirst : (Exposed.run Manager.bootstrap Sample.start).1 = .ok none := by
    decide +kernel
  have hcalls : ∀ e, .expire e ∉ Sample.calls := by
    simp [Sample.calls]
  have hremoval : ∀ r ∈ Exposed.records (operation Sample.client) Sample.calls Sample.bootstrapped,
      r.turns.any Turn.isRefusal = true → r.turns.any Turn.isFailedRemoval = false := by
    decide +kernel
  have hrestored := ((restart_restores_current Sample.client _ _ _ _ Sample.calls
    (Prod.ext hfirst rfl) hcalls hremoval).2 _ rfl).1
  refine hrestored.trans ?_
  decide +kernel

end SessionKeeper
