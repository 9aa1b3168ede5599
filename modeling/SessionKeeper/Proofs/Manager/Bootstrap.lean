import SessionKeeper.Proofs.Api.History
import SessionKeeper.Proofs.Manager.Expiry

/-!
# What a bootstrap answers

A bootstrap that finds a session takes it into memory, and one that finds none leaves memory as it
is. So its answer is who is signed in, unless the stored session was removed while the one in memory
stayed. A history tells whether that is so: a logout does it, and a call of the API whose token is
refused.
-/

namespace SessionKeeper

/-! ## Who is in memory -/

namespace Past

/-- The session that a deed gave, which is then in memory. -/
def given? (p : Past) : Option Session :=
  match p.reply? with
  | some (.restored (.ok found)) => found
  | some (.established (.ok s)) => some s
  | _ => none

/-- Whether a deed takes the session out of memory: a new start, a sign-out that succeeded, an
expiry that found somebody, or credentials that were refused. -/
def leaves (p : Past) : Bool :=
  match p.deed, p.reply? with
  | .restart, _ => true
  | .expire _, some (.flag dropped) => dropped
  | .call .expire, some (.flag dropped) => dropped
  | .call .signOut, some (.signedOut (.ok ())) => true
  | _, some (.established (.error _)) => p.turns.any Turn.isRefusal
  | _, _ => false

end Past

/-- Who a history leaves in memory, and whether a stored session was removed after the latest
session was given. -/
structure Standing where
  session : Option Session
  removed : Bool

namespace Standing

/-- How things stand with a new client. -/
def start : Standing :=
  ⟨none, false⟩

/-- How things stand after one more deed. -/
def next (t : Standing) (p : Past) : Standing :=
  match p.given? with
  | some s => ⟨some s, false⟩
  | none => ⟨if p.leaves then none else t.session, t.removed || p.removes⟩

/-- How a history leaves things. -/
def ofHistory (past : List Past) : Standing :=
  past.foldl next start

/-- Whether somebody is in memory whose stored session was removed. -/
def isStranded (t : Standing) : Bool :=
  t.session.isSome && t.removed

/-- The holdings are as things stand: after a removal nothing is stored, and without one what is in
memory is stored. -/
structure Describes (t : Standing) (v : Holdings) : Prop where
  session : v.session = t.session
  account : v.Accounted t.removed

variable {t : Standing} {p : Past} {v w : Holdings}

theorem describes_given {s : Session} (hgiven : p.given? = some s) (hsession : w.session = some s)
    (hbacked : w.Backed) : (t.next p).Describes w := by
  rw [next, hgiven]
  exact ⟨hsession, nofun, fun _ => hbacked⟩

/-- A deed that gives no session takes the stored one away, or the one in memory, as its record
tells. -/
theorem Describes.next (h : t.Describes v) (hgiven : p.given? = none)
    (htexts : w.texts Session.key = if p.removes then none else v.texts Session.key)
    (hsession : w.session = if p.leaves then none else v.session) : (t.next p).Describes w := by
  rw [Standing.next, hgiven]
  refine ⟨h.session ▸ hsession, fun hremoved => ?_, fun hremoved s hs => ?_⟩
  · rw [htexts]
    split
    next => rfl
    next hkept => exact h.account.gone (by simpa [hkept] using hremoved)
  · obtain ⟨hbefore, hkept⟩ := Bool.or_eq_false_iff.mp hremoved
    rw [hkept, if_neg Bool.false_ne_true] at htexts
    rw [hsession] at hs
    split at hs
    next => cases hs
    next => exact htexts ▸ h.account.backed hbefore s hs

end Standing

/-! ## One call -/

/-- A call of the API takes the stored session away if its token was refused and no removal failed,
and leaves the one in memory. -/
theorem ApiClient.Outcome.sessions {α : Type} {v w : Holdings} {turns : List (Turn clientSteps)}
    {result : Except ApiError α} (h : Outcome v turns result w) :
    (w.texts Session.key =
      if turns.any Turn.isRefusal && !turns.any Turn.isFailedRemoval then none
      else v.texts Session.key) ∧ w.session = v.session := by
  cases h with
  | plain hsilent => simp [hsilent.1]
  | forgotten hrefusal hremoval =>
      rw [hrefusal, hremoval]
      exact ⟨Texts.drop_self Session.key v.texts, rfl⟩
  | kept hrefusal hremoval => simp [hremoval]

/-- Credentials that are refused do the same to the stored session, and leave none in memory. -/
theorem Manager.Entry.sessions_of_error {v w : Holdings} {turns : List (Turn clientSteps)}
    {e : Error} (h : Entry v turns (.error e) w) :
    (w.texts Session.key =
      if turns.any Turn.isRefusal && !turns.any Turn.isFailedRemoval then none
      else v.texts Session.key) ∧
      w.session = if turns.any Turn.isRefusal then none else v.session := by
  cases h with
  | failed hsilent => simp [hsilent.1]
  | forgotten hrefusal hremoval =>
      rw [hrefusal, hremoval]
      exact ⟨Texts.drop_self Session.key v.texts, rfl⟩
  | kept hrefusal hremoval =>
      rw [hrefusal, hremoval]
      exact ⟨rfl, rfl⟩

/-- A step that asks nothing of the network, and leaves alone the stored session and the one in
memory. -/
def ClientStep.Unmoving (step : ClientStep) : Prop :=
  step.Local ∧ ∀ session, step ≠ .writeSession session

theorem ClientStep.Unmoving.session_eq {step : ClientStep} (h : step.Unmoving) {v w : Holdings}
    {answer : step.Answer} (heffect : step.effect v answer w) : w.session = v.session := by
  cases step with
  | writeSession session => exact absurd rfl (h.2 session)
  | readSession => rw [heffect.2]
  | get key =>
      cases answer with
      | error e => rw [heffect]
      | ok text => rw [heffect.2]
  | set key value => cases answer <;> rw [heffect]
  | remove key => cases answer <;> rw [heffect]
  | _ => rw [heffect]

theorem Preference.unmoving_of_ofPreference {step : ClientStep} (h : step.OfPreference) :
    step.Unmoving := by
  refine ⟨local_of_ofPreference h, ?_⟩
  rintro session rfl
  exact h

theorem Auth.unmoving_isAuthenticated : isAuthenticated.Within ClientStep.Unmoving := by
  refine .bind (.perform ⟨trivial, nofun⟩) fun stored => ?_
  split
  next => exact .pure _
  next => exact .pure _
  next => exact .bind (.perform ⟨trivial, nofun⟩) fun _ => .pure _

/-- A local call that is neither a bootstrap nor an expiry leaves the session alone. -/
theorem Call.unmoving_operation (c : ApiClient) {call : Call} (hlocal : call.isLocal = true)
    (hbootstrap : call ≠ .bootstrap) (hexpire : call ≠ .expire) :
    (call.operation c).Within ClientStep.Unmoving := by
  cases call with
  | bootstrap => exact absurd rfl hbootstrap
  | expire => exact absurd rfl hexpire
  | current => exact .bind (.perform ⟨trivial, nofun⟩) fun _ => .pure _
  | isSignedIn =>
      exact .bind (.bind (.perform ⟨trivial, nofun⟩) fun _ => .pure _) fun _ => .pure _
  | isLoading => exact .bind (.perform ⟨trivial, nofun⟩) fun _ => .pure _
  | isAuthenticated => exact .bind Auth.unmoving_isAuthenticated fun _ => .pure _
  | loadMode =>
      exact (ofPreference_operation c rfl).mono fun _ => Preference.unmoving_of_ofPreference
  | toggleMode =>
      exact (ofPreference_operation c rfl).mono fun _ => Preference.unmoving_of_ofPreference
  | setMode mode =>
      exact (ofPreference_operation c rfl).mono fun _ => Preference.unmoving_of_ofPreference
  | getKey key => exact .bind (.perform ⟨trivial, nofun⟩) fun _ => .pure _
  | setKey key value => exact .bind (.perform ⟨bne_iff_ne.mp hlocal, nofun⟩) fun _ => .pure _
  | removeKey key => exact .bind (.perform ⟨bne_iff_ne.mp hlocal, nofun⟩) fun _ => .pure _
  | _ => cases hlocal

namespace Standing

open Program

variable {d : Deed} {t : Standing} {v w : Holdings} {turns : List (Turn clientSteps)}

theorem describes_of_restoration {result : Except Error (Option Session)}
    (h : Manager.Restoration v turns result w) (ht : t.Describes v) :
    (t.next ⟨.call .bootstrap, some (.restored result), turns⟩).Describes w := by
  have hremoves := Past.removes_eq (p := ⟨.call .bootstrap, some (.restored result), turns⟩)
    nofun nofun
  cases h with
  | nothing hsilent => exact ht.next rfl (by rw [hremoves, hsilent.1]; rfl) rfl
  | restored hsilent hstored => exact describes_given rfl rfl (Holdings.backed_of_stored hstored)
  | failed hsilent => exact ht.next rfl (by rw [hremoves, hsilent.1]; rfl) rfl

theorem describes_of_entry {result : Except Error Session} (h : Manager.Entry v turns result w)
    (hd : (∃ credentials, d = .call (.signIn credentials)) ∨
      ∃ credentials name, d = .call (.registerUser credentials name))
    (ht : t.Describes v) : (t.next ⟨d, some (.established result), turns⟩).Describes w := by
  cases result with
  | ok s =>
      cases h with
      | established => exact describes_given rfl rfl (v.backed_put_render s)
  | error e =>
      have hremoves := Past.removes_eq (p := ⟨d, some (.established (.error e)), turns⟩) nofun
        (by rcases hd with ⟨_, rfl⟩ | ⟨_, _, rfl⟩ <;> nofun)
      have hleaves : Past.leaves ⟨d, some (.established (.error e)), turns⟩ =
          turns.any Turn.isRefusal := by
        rcases hd with ⟨_, rfl⟩ | ⟨_, _, rfl⟩ <;> rfl
      obtain ⟨htexts, hsession⟩ := h.sessions_of_error
      exact ht.next rfl (by rw [hremoves]; exact htexts) (by rw [hleaves]; exact hsession)

theorem describes_of_departure {result : Except Error Unit}
    (h : Manager.Departure v turns result w) (ht : t.Describes v) :
    (t.next ⟨.call .signOut, some (.signedOut result), turns⟩).Describes w := by
  cases h with
  | signedOut => exact ht.next rfl (Texts.drop_self Session.key v.texts) rfl
  | @failed e hrefusal =>
      have hremoves := Past.removes_eq
        (p := ⟨.call .signOut, some (.signedOut (.error e)), turns⟩) (by simp) (by simp)
      exact ht.next rfl (by rw [hremoves, hrefusal]; rfl) rfl

theorem describes_of_logout {result : Except StoreError Unit}
    (h : Runs ClientStep.effect Auth.logout v turns result w) (ht : t.Describes v) :
    (t.next ⟨.call .logout, some (.changed result), turns⟩).Describes w := by
  obtain ⟨rfl, heffect⟩ := runs_perform.mp h
  cases result with
  | ok _ =>
      obtain rfl : w = v.forget := heffect
      exact ht.next rfl (Texts.drop_self Session.key v.texts) rfl
  | error e =>
      obtain rfl : w = v := heffect
      exact ht.next rfl rfl rfl

/-- A call of the API may take the stored session away, and leaves the one in memory. -/
theorem describes_of_outcome {α : Type} {result : Except ApiError α} {reply : Reply}
    (h : ApiClient.Outcome v turns result w)
    (hgiven : Past.given? ⟨d, some reply, turns⟩ = none)
    (hleaves : Past.leaves ⟨d, some reply, turns⟩ = false)
    (hsignOut : reply ≠ .signedOut (.ok ())) (hlogout : d ≠ .call .logout) (ht : t.Describes v) :
    (t.next ⟨d, some reply, turns⟩).Describes w := by
  have hremoves := Past.removes_eq (p := ⟨d, some reply, turns⟩) (by simpa using hsignOut) hlogout
  obtain ⟨htexts, hsession⟩ := h.sessions
  exact ht.next hgiven (by rw [hremoves]; exact htexts) (by rw [hleaves]; exact hsession)

theorem describes_of_expiry {e : ApiError} {dropped : Bool}
    (h : Runs ClientStep.effect (Manager.expireIfUnauthorized e) v turns dropped w)
    {others : List (Turn clientSteps)} (halike : Turn.Alike turns others)
    (hd : d = .expire e ∨ d = .call .expire) (ht : t.Describes v) :
    (t.next ⟨d, some (.flag dropped), others⟩).Describes w := by
  obtain ⟨hdropped, rfl, hsilent⟩ := Manager.runs_expireIfUnauthorized h
  have hleaves : Past.leaves ⟨d, some (.flag dropped), others⟩ = dropped := by
    rcases hd with rfl | rfl <;> rfl
  have hremoves := Past.removes_eq (p := ⟨d, some (.flag dropped), others⟩) nofun
    (by rcases hd with rfl | rfl <;> nofun)
  refine ht.next rfl ?_ ?_
  · rw [hremoves, (halike.silent hsilent).1, Bool.false_and, if_neg Bool.false_ne_true]
    split <;> rfl
  · rw [hleaves, hdropped]
    cases e.isUnauthorized with
    | false => rfl
    | true =>
        cases hsession : v.session with
        | none => rfl
        | some s => rfl

theorem describes_of_unmoving {op : Operation Reply} (hop : op.Within ClientStep.Unmoving)
    {reply : Reply} (h : Runs ClientStep.effect op v turns reply w)
    (hgiven : Past.given? ⟨d, some reply, turns⟩ = none)
    (hleaves : Past.leaves ⟨d, some reply, turns⟩ = false)
    (hsignOut : reply ≠ .signedOut (.ok ())) (hlogout : d ≠ .call .logout) (ht : t.Describes v) :
    (t.next ⟨d, some reply, turns⟩).Describes w := by
  obtain ⟨htexts, hrefusal⟩ := runs_local (hop.mono fun _ h => h.1) h
  refine ht.next hgiven ?_ ?_
  · rw [Past.removes_eq (by simpa using hsignOut) hlogout, hrefusal]
    exact htexts
  · rw [hleaves]
    exact hop.view_eq Holdings.session (fun hstep heffect => hstep.session_eq heffect) h

/-- Every call that does not meddle leaves things as its record tells. -/
theorem describes_of_operation {c : ApiClient} {call : Call} {reply : Reply}
    (hmeddles : (Deed.call call).meddles = false)
    (h : Runs ClientStep.effect (call.operation c) v turns reply w) (ht : t.Describes v) :
    (t.next ⟨.call call, some reply, turns⟩).Describes w := by
  cases call with
  | bootstrap =>
      obtain ⟨result, rfl, hop⟩ := ManagerCall.runs_reply h
      exact describes_of_restoration (Manager.runs_bootstrap hop) ht
  | signIn credentials =>
      obtain ⟨result, rfl, hop⟩ := ManagerCall.runs_reply h
      exact describes_of_entry (Manager.runs_signIn hop) (.inl ⟨_, rfl⟩) ht
  | registerUser credentials name =>
      obtain ⟨result, rfl, hop⟩ := ManagerCall.runs_reply h
      exact describes_of_entry (Manager.runs_registerUser hop) (.inr ⟨_, _, rfl⟩) ht
  | signOut =>
      obtain ⟨result, rfl, hop⟩ := ManagerCall.runs_reply h
      exact describes_of_departure (Manager.runs_signOut hop) ht
  | logout =>
      obtain ⟨result, rfl, hop⟩ := ManagerCall.runs_reply h
      exact describes_of_logout hop ht
  | login credentials =>
      obtain ⟨result, rfl, hop⟩ := ManagerCall.runs_reply h
      exact describes_of_outcome (Manager.runs_login hop) rfl rfl (by simp) (by simp) ht
  | register credentials =>
      obtain ⟨result, rfl, hop⟩ := ManagerCall.runs_reply h
      exact describes_of_outcome (Manager.runs_register hop) rfl rfl (by simp) (by simp) ht
  | get path =>
      obtain ⟨result, rfl, hop⟩ := ManagerCall.runs_reply h
      exact describes_of_outcome (ApiClient.runs_call hop) rfl rfl (by simp) (by simp) ht
  | post path body =>
      obtain ⟨result, rfl, hop⟩ := ManagerCall.runs_reply h
      exact describes_of_outcome (ApiClient.runs_call hop) rfl rfl (by simp) (by simp) ht
  | expire =>
      obtain ⟨e?, u, first, rest, rfl, hlast, hrest⟩ := runs_bind.mp h
      obtain ⟨rfl, rfl⟩ := runs_perform.mp hlast
      split at hrest
      next =>
        obtain ⟨rfl, rfl, rfl⟩ := runs_pure.mp hrest
        exact ht.next rfl rfl rfl
      next =>
        obtain ⟨dropped, rfl, hop⟩ := ManagerCall.runs_reply hrest
        exact describes_of_expiry hop (Turn.alike_append ⟨rfl, rfl⟩ _) (.inr rfl) ht
  | setKey key value =>
      obtain ⟨result, rfl, -⟩ := ManagerCall.runs_reply h
      have hlocal : Call.isLocal (.setKey key value) = true := by
        simpa [Deed.meddles, Call.isLocal] using hmeddles
      have hop := Call.unmoving_operation c hlocal (by simp) (by simp)
      exact describes_of_unmoving hop h rfl rfl (by simp) (by simp) ht
  | removeKey key =>
      obtain ⟨result, rfl, -⟩ := ManagerCall.runs_reply h
      have hlocal : Call.isLocal (.removeKey key) = true := by
        simpa [Deed.meddles, Call.isLocal] using hmeddles
      have hop := Call.unmoving_operation c hlocal (by simp) (by simp)
      exact describes_of_unmoving hop h rfl rfl (by simp) (by simp) ht
  | _ =>
      obtain ⟨answer, rfl, -⟩ := ManagerCall.runs_reply h
      refine describes_of_unmoving ?_ h rfl rfl (by simp) (by simp) ht
      exact Call.unmoving_operation c rfl (by simp) (by simp)

/-- What counts of a deed does not change with turns that are alike. -/
theorem next_alike {reply? : Option Reply} {others : List (Turn clientSteps)}
    (halike : Turn.Alike turns others) :
    t.next ⟨d, reply?, others⟩ = t.next ⟨d, reply?, turns⟩ := by
  have hremoves : Past.removes ⟨d, reply?, others⟩ = Past.removes ⟨d, reply?, turns⟩ := by
    unfold Past.removes
    rw [halike.1, halike.2]
  have hleaves : Past.leaves ⟨d, reply?, others⟩ = Past.leaves ⟨d, reply?, turns⟩ := by
    unfold Past.leaves
    rw [halike.1]
  rw [next, next, hremoves, hleaves]
  rfl

end Standing

/-! ## Every history -/

namespace Deed

variable {σ : Type} [Store σ]

/-- The world after deeds were done one after another. -/
def after (c : ApiClient) (ds : List Deed) (x : Exposed σ) : Exposed σ :=
  ds.foldl (fun x d => (d.run c x).2) x

variable [LawfulStore σ] {c : ApiClient} {t : Standing}

theorem describes_run {d : Deed} {x : Exposed σ} (hmeddles : d.meddles = false)
    (hx : t.Describes x.holdings) : (t.next (d.run c x).1).Describes (d.run c x).2.holdings := by
  cases d with
  | call made =>
      obtain ⟨inner, halike, hop⟩ := Call.runs_noting (Exposed.runs_run (made.noting c) x)
      rw [run, operation?, Standing.next_alike halike]
      exact Standing.describes_of_operation hmeddles hop hx
  | expire e =>
      obtain ⟨dropped, hreply, hop⟩ := ManagerCall.runs_reply
        (Exposed.runs_run (ManagerCall.operation c (.expire e)) x)
      rw [run, operation?]
      dsimp only
      rw [hreply]
      exact Standing.describes_of_expiry hop ⟨rfl, rfl⟩ (.inl rfl) hx
  | restart => exact hx.next rfl rfl rfl

/-- At the end of a history the holdings are as it tells. -/
theorem describes_after {ds : List Deed} {x : Exposed σ} (hmeddles : ∀ d ∈ ds, d.meddles = false)
    (hx : t.Describes x.holdings) :
    ((history c ds x).foldl Standing.next t).Describes (after c ds x).holdings := by
  induction ds generalizing x t with
  | nil => exact hx
  | cons d ds ih =>
      exact ih (fun e he => hmeddles e (List.mem_cons_of_mem _ he))
        (describes_run (hmeddles d List.mem_cons_self) hx)

end Deed

/-! ## Bootstrapping after a history -/

namespace Exposed

variable {σ : Type} [Store σ]

theorem store_answer {step : ClientStep} (hstep : step.changesStore = false) (x : Exposed σ) :
    (answer step x).2.world.store = x.world.store := by
  cases step with
  | set => cases hstep
  | remove => cases hstep
  | get key =>
      rw [answer]
      split <;> rfl
  | send request =>
      rw [answer]
      split <;> rfl
  | _ => rfl

/-- A bootstrap leaves the store alone, however it ends. -/
theorem store_bootstrap (x : Exposed σ) :
    (run Manager.bootstrap x).2.world.store = x.world.store := by
  have hsteps : Manager.bootstrap.Within fun step : ClientStep => step.changesStore = false :=
    Manager.within_exclusive (Manager.looks_restore.mono fun _ h => h.calm.2) rfl rfl fun _ => rfl
  exact hsteps.run_of_invariant (fun y : Exposed σ => y.world.store = x.world.store)
    (fun step y hstep hy => (store_answer hstep y).trans hy) rfl

end Exposed

namespace Manager

variable {σ : Type} [Store σ] [LawfulStore σ]

/-- What a bootstrap answers, and who is signed in then, after any deeds with a new client, any
answers of the server and any failures of the store. It never changes the store. What it finds is
who is signed in, except after a history that has left somebody in memory whose stored session was
removed: then it finds nobody, and they stay signed in. -/
theorem found_eq_current_iff (c : ApiClient) {new x y : Exposed σ}
    (hnew : new.world.session = none) {ds : List Deed} (hmeddles : ∀ d ∈ ds, d.meddles = false)
    (hx : Deed.after c ds new = x) {standing : Standing}
    (hstanding : Standing.ofHistory (Deed.history c ds new) = standing)
    {result : Except Error (Option Session)} (hrun : Exposed.run bootstrap x = (result, y)) :
    y.world.store = x.world.store ∧ ∀ found, result = .ok found →
      (y.world.session = found ↔ standing.isStranded = false) ∧
      (standing.isStranded = true → found = none ∧ y.world.session = standing.session) := by
  have hstart : Standing.start.Describes new.holdings :=
    ⟨hnew, nofun, fun _ s hs => nomatch hs.symm.trans hnew⟩
  have hdescribes : standing.Describes x.holdings :=
    hx ▸ hstanding ▸ Deed.describes_after hmeddles hstart
  have hruns := Exposed.runs_run bootstrap x
  rw [hrun] at hruns
  have hstore := Exposed.store_bootstrap x
  rw [hrun] at hstore
  refine ⟨hstore, ?_⟩
  rintro found rfl
  have hsession : y.world.session = y.holdings.session := rfl
  rw [hsession]
  generalize y.holdings = w at hruns
  cases runs_bootstrap hruns with
  | nothing hsilent hstored =>
      have hcurrent := hdescribes.session
      rw [hcurrent]
      refine ⟨⟨fun hnobody => by rw [Standing.isStranded, hnobody]; rfl, fun hsafe => ?_⟩,
        fun _ => ⟨rfl, rfl⟩⟩
      cases hheld : standing.session with
      | none => rfl
      | some s =>
          -- nobody's stored session was removed, so the one in memory would have been found
          have hremoved : standing.removed = false := by
            simpa [Standing.isStranded, hheld] using hsafe
          have hfound := (hdescribes.account.backed hremoved).stored (hcurrent.trans hheld)
          cases hfound.symm.trans hstored
  | restored hsilent hstored =>
      have hsafe : standing.isStranded = false := by
        cases hremoved : standing.removed with
        | false => rw [Standing.isStranded, hremoved, Bool.and_false]
        | true =>
            rw [Holdings.stored, Session.ofStored, hdescribes.account.gone hremoved] at hstored
            cases hstored
      exact ⟨⟨fun _ => hsafe, fun _ => rfl⟩, fun hstranded => by simp [hsafe] at hstranded⟩

/-- What somebody does who signs in, logs out behind the manager's back and signs in again. -/
def returning : List Deed :=
  [.call (.signIn Sample.credentials), .call .logout, .call (.signIn Sample.credentials)]

/-- Once they are back, a bootstrap finds them and changes nothing. -/
theorem found_eq_current_iff_of_return :
    (Exposed.run bootstrap (Deed.after Sample.client returning
        (Sample.sound [Sample.grant, Sample.grant]))).2.world.session =
      some ⟨"1", "mail", none, "t"⟩ := by
  have hmeddles : ∀ d ∈ returning, d.meddles = false := by
    simp [returning, Deed.meddles]
  have hsafe : (Standing.ofHistory (Deed.history Sample.client returning
      (Sample.sound [Sample.grant, Sample.grant]))).isStranded = false := by
    decide +kernel
  have hfound : (Exposed.run bootstrap (Deed.after Sample.client returning
      (Sample.sound [Sample.grant, Sample.grant]))).1 = .ok (some ⟨"1", "mail", none, "t"⟩) := by
    decide +kernel
  have hnew : (Sample.sound [Sample.grant, Sample.grant]).world.session = none := rfl
  -- the runs are settled above: from here on only their results have names
  obtain ⟨standing, hstanding⟩ : ∃ standing, Standing.ofHistory (Deed.history Sample.client
      returning (Sample.sound [Sample.grant, Sample.grant])) = standing := ⟨_, rfl⟩
  obtain ⟨x, hx⟩ : ∃ x, Deed.after Sample.client returning
      (Sample.sound [Sample.grant, Sample.grant]) = x := ⟨_, rfl⟩
  rw [hstanding] at hsafe
  rw [hx] at hfound ⊢
  exact ((found_eq_current_iff Sample.client hnew hmeddles hx hstanding
    (Prod.ext hfound rfl)).2 _ rfl).1.mpr hsafe

/-- Nothing fails and somebody who signed in logs out by the API. Then a bootstrap finds nobody, yet
they are still signed in. -/
theorem not_current_of_logout :
    (Exposed.run bootstrap (Deed.after Sample.client (returning.take 2)
        (Sample.sound [Sample.grant]))).1 = .ok none ∧
      (Exposed.run bootstrap (Deed.after Sample.client (returning.take 2)
        (Sample.sound [Sample.grant]))).2.world.session = some ⟨"1", "mail", none, "t"⟩ := by
  constructor
  all_goals decide +kernel

end Manager

end SessionKeeper
