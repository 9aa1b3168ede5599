import Mathlib.Control.Monad.Basic
import SessionKeeper.Proofs.Manager.Backed
import SessionKeeper.Proofs.Manager.Restart

/-!
# Expiring sessions

The stored session is removed when the server refuses the token, the one in memory only when the
error of the refusal is handed to the manager. If a session is taken into memory between the two,
the expiry drops that session from memory and leaves it in the store. So after an expiry nothing is
stored exactly if the latest refusal came after the latest call that gave a session.
-/

namespace SessionKeeper

/-- A call of the manager, or a call of the API by its client. -/
inductive ClientCall
  | manager (call : ManagerCall)
  | get (path : String)
  | post (path : String) (body : Json.Value)

/-- The operation of a call. -/
def ClientCall.operation (c : ApiClient) : ClientCall → Operation Reply
  | .manager call => call.operation c
  | .get path => Call.operation c (.get path)
  | .post path body => Call.operation c (.post path body)

/-! ## Refusals and sessions -/

/-- Whether a call gave a session, which is then in memory. -/
def Reply.givesSession : Reply → Bool
  | .restored (.ok (some _)) => true
  | .established (.ok _) => true
  | _ => false

/-- Whether the latest refusal came after the latest call that gave a session, after one more
call. -/
def Record.refusedAfter (refused : Bool) (r : Record ClientCall) : Bool :=
  if r.reply.givesSession then false else refused || r.turns.any Turn.isRefusal

/-- Whether the server refused the token after the latest call that gave a session. -/
def Record.refusedLast (records : List (Record ClientCall)) : Bool :=
  records.foldl refusedAfter false

theorem Record.refusedAfter_of_session {refused : Bool} {r : Record ClientCall}
    (hreply : r.reply.givesSession = true) : refusedAfter refused r = false :=
  if_pos hreply

theorem Record.refusedAfter_of_refusal {refused : Bool} {r : Record ClientCall}
    (hreply : r.reply.givesSession = false) (hturns : r.turns.any Turn.isRefusal = true) :
    refusedAfter refused r = true := by
  simp [refusedAfter, hreply, hturns]

theorem Record.refusedAfter_of_silent {refused : Bool} {r : Record ClientCall}
    (hreply : r.reply.givesSession = false) (hturns : r.turns.any Turn.isRefusal = false) :
    refusedAfter refused r = refused := by
  simp [refusedAfter, hreply, hturns]

/-- After a refusal nothing is stored, and without one what is in memory is stored. -/
structure Holdings.Accounted (refused : Bool) (v : Holdings) : Prop where
  gone : refused = true → v.texts Session.key = none
  backed : refused = false → v.Backed

namespace Holdings

theorem Accounted.forget (v : Holdings) : v.forget.Accounted true :=
  ⟨fun _ => Texts.drop_self Session.key v.texts, nofun⟩

theorem Accounted.leave {refused : Bool} {v : Holdings} (h : v.Accounted refused) :
    v.leave.Accounted refused :=
  ⟨h.gone, fun _ => v.backed_leave⟩

end Holdings

/-! ## One call -/

namespace ManagerCall

theorem accounted_of_entry {v w : Holdings} {turns : List (Turn clientSteps)} {refused : Bool}
    {call : ClientCall} {result : Except Error Session} (h : Manager.Entry v turns result w)
    (hremoval : turns.any Turn.isRefusal = true → turns.any Turn.isFailedRemoval = false)
    (hv : v.Accounted refused) :
    w.Accounted (Record.refusedAfter refused ⟨call, .established result, turns⟩) := by
  cases h with
  | established s =>
      rw [Record.refusedAfter_of_session rfl]
      exact ⟨nofun, fun _ => v.backed_put_render s⟩
  | failed hsilent =>
      rw [Record.refusedAfter_of_silent rfl hsilent.1]
      exact hv
  | forgotten hrefusal =>
      rw [Record.refusedAfter_of_refusal rfl hrefusal]
      exact (Holdings.Accounted.forget v).leave
  | kept hrefusal hfailed => simp [hremoval hrefusal] at hfailed

theorem accounted_of_outcome {v w : Holdings} {turns : List (Turn clientSteps)} {refused : Bool}
    {call : ManagerCall} {reply : Reply} (h : Outcome v turns call reply w)
    (hremoval : turns.any Turn.isRefusal = true → turns.any Turn.isFailedRemoval = false)
    (hv : v.Accounted refused) :
    w.Accounted (Record.refusedAfter refused ⟨.manager call, reply, turns⟩) := by
  cases h with
  | bootstrap hrestoration =>
      cases hrestoration with
      | nothing hsilent =>
          rw [Record.refusedAfter_of_silent rfl hsilent.1]
          exact hv
      | restored hsilent hstored =>
          rw [Record.refusedAfter_of_session rfl]
          exact ⟨nofun, fun _ => Holdings.backed_of_stored hstored⟩
      | failed hsilent =>
          rw [Record.refusedAfter_of_silent rfl hsilent.1]
          exact hv
  | signIn hentry => exact accounted_of_entry hentry hremoval hv
  | registerUser hentry => exact accounted_of_entry hentry hremoval hv
  | signOut hdeparture =>
      cases hdeparture with
      | signedOut hsilent =>
          rw [Record.refusedAfter_of_silent rfl hsilent.1]
          -- with neither a text nor a session left, both accounts are true
          exact ⟨fun _ => Texts.drop_self Session.key v.texts, fun _ => v.forget.backed_leave⟩
      | failed hrefusal =>
          rw [Record.refusedAfter_of_silent rfl hrefusal]
          exact hv
  | @expire e hsilent =>
      rw [Record.refusedAfter_of_silent rfl hsilent.1]
      split
      next => exact hv.leave
      next => exact hv

end ManagerCall

namespace ClientCall

open Program

theorem accounted_of_call {v w : Holdings} {turns : List (Turn clientSteps)} {refused : Bool}
    {call : ClientCall} {result : Except ApiError Json.Value}
    (h : ApiClient.Outcome v turns result w)
    (hremoval : turns.any Turn.isRefusal = true → turns.any Turn.isFailedRemoval = false)
    (hv : v.Accounted refused) :
    w.Accounted (Record.refusedAfter refused ⟨call, .value result, turns⟩) := by
  cases h with
  | plain hsilent =>
      rw [Record.refusedAfter_of_silent rfl hsilent.1]
      exact hv
  | forgotten hrefusal =>
      rw [Record.refusedAfter_of_refusal rfl hrefusal]
      exact .forget v
  | kept hrefusal hfailed => simp [hremoval hrefusal] at hfailed

/-- Every call keeps account of what is stored, unless the server refuses the token and the removal
fails. -/
theorem accounted_of_runs {c : ApiClient} {call : ClientCall} {v w : Holdings}
    {turns : List (Turn clientSteps)} {reply : Reply} {refused : Bool}
    (h : Runs ClientStep.effect (call.operation c) v turns reply w)
    (hremoval : turns.any Turn.isRefusal = true → turns.any Turn.isFailedRemoval = false)
    (hv : v.Accounted refused) :
    w.Accounted (Record.refusedAfter refused ⟨call, reply, turns⟩) := by
  cases call with
  | manager call =>
      exact ManagerCall.accounted_of_outcome (ManagerCall.runs_operation h) hremoval hv
  | get path =>
      obtain ⟨result, rfl, hcall⟩ := ManagerCall.runs_reply h
      exact accounted_of_call (ApiClient.runs_call hcall) hremoval hv
  | post path body =>
      obtain ⟨result, rfl, hcall⟩ := ManagerCall.runs_reply h
      exact accounted_of_call (ApiClient.runs_call hcall) hremoval hv

/-! ## Histories of calls -/

theorem accounted_after {σ : Type} [Store σ] [LawfulStore σ] {c : ApiClient}
    {calls : List ClientCall} {x : Exposed σ} {refused : Bool}
    (hremoval : ∀ r ∈ Exposed.records (operation c) calls x,
      r.turns.any Turn.isRefusal = true → r.turns.any Turn.isFailedRemoval = false)
    (hx : x.holdings.Accounted refused) :
    (Exposed.after (operation c) calls x).holdings.Accounted
      ((Exposed.records (operation c) calls x).foldl Record.refusedAfter refused) := by
  induction calls generalizing x refused with
  | nil => exact hx
  | cons call calls ih =>
      refine ih (fun r hr => hremoval r (List.mem_cons_of_mem _ hr)) ?_
      exact accounted_of_runs (Exposed.runs_run (call.operation c) x)
        (hremoval _ List.mem_cons_self) hx

/-- What an expiry leaves behind. If it drops a session from memory, then nothing is stored exactly
if the server refused the token after the latest call that gave a session. Otherwise the dropped
session is still stored, and a new client restores it. This is for any calls of a new manager and of
its client and any error handed to the expiry; the store may fail, as long as no removal fails when
the server has refused the token. -/
theorem stored_after_expiry {σ : Type} [Store σ] [LawfulStore σ] (c : ApiClient)
    {new x y : Exposed σ} (hnew : new.world.session = none) (calls : List ClientCall)
    {records : List (Record ClientCall)} (e : ApiError)
    (hx : Exposed.after (operation c) calls new = x)
    (hrecords : Exposed.records (operation c) calls new = records)
    (hremoval : ∀ r ∈ records, r.turns.any Turn.isRefusal = true →
      r.turns.any Turn.isFailedRemoval = false)
    (hexpired : Exposed.run (Manager.expireIfUnauthorized e) x = (true, y)) :
    (y.holdings.texts Session.key = none ↔ Record.refusedLast records = true) ∧
      (Record.refusedLast records = false →
        ∃ s, x.world.session = some s ∧ y.holdings.stored = .ok (some s) ∧
          ∀ text, Store.get Session.key y.world.store = .ok text →
            (Manager.bootstrap.run y.world.restart).1 = .ok (some s)) := by
  subst hrecords
  have hstart : new.holdings.Accounted false :=
    ⟨nofun, fun _ s hs => nomatch hs.symm.trans hnew⟩
  have haccount : x.holdings.Accounted
      (Record.refusedLast (Exposed.records (operation c) calls new)) :=
    hx ▸ accounted_after hremoval hstart
  have hruns := Exposed.runs_run (Manager.expireIfUnauthorized e) x
  rw [hexpired] at hruns
  obtain ⟨hdropped, hy, -⟩ := Manager.runs_expireIfUnauthorized hruns
  obtain ⟨hunauthorized, hsession⟩ := Bool.and_eq_true_iff.mp hdropped.symm
  rw [if_pos hunauthorized] at hy
  obtain ⟨s, hs⟩ := Option.isSome_iff_exists.mp hsession
  -- the expiry changes no text, so the account of the calls before it still tells what is stored
  have htexts : y.holdings.texts = x.holdings.texts := (congrArg Holdings.texts hy :)
  cases hrefused : Record.refusedLast (Exposed.records (operation c) calls new) with
  | true =>
      refine ⟨⟨fun _ => rfl, fun _ => ?_⟩, nofun⟩
      rw [htexts]
      exact haccount.gone hrefused
  | false =>
      have hbacked := haccount.backed hrefused
      have hstored : y.holdings.stored = .ok (some s) := by
        rw [Holdings.stored, htexts]
        exact hbacked.stored hs
      refine ⟨⟨fun hgone => ?_, nofun⟩, fun _ => ⟨s, hs, hstored, fun text hget => ?_⟩⟩
      · obtain ⟨text, htext, -⟩ := hbacked s hs
        rw [htexts, htext] at hgone
        cases hgone
      · have htext : text = LawfulStore.texts y.world.store Session.key :=
          LawfulStore.texts_of_get hget
        exact World.bootstrap_of_get (w := y.world.restart) hget (htext ▸ hstored)

/-- Somebody signs in, and the token is refused later: the expiry finds nothing stored. -/
theorem stored_after_expiry_of_refusal :
    (Exposed.run (Manager.expireIfUnauthorized (.ofStatus 401 ""))
      (Exposed.after (operation Sample.client)
        [.manager (.signIn Sample.credentials), .get "profile"]
        (Sample.sound [Sample.grant, Sample.refusal]))).2.holdings.texts Session.key = none := by
  have hremoval : ∀ r ∈ Exposed.records (operation Sample.client)
      [.manager (.signIn Sample.credentials), .get "profile"]
      (Sample.sound [Sample.grant, Sample.refusal]),
      r.turns.any Turn.isRefusal = true → r.turns.any Turn.isFailedRemoval = false := by
    decide +kernel
  have hrefused : Record.refusedLast (Exposed.records (operation Sample.client)
      [.manager (.signIn Sample.credentials), .get "profile"]
      (Sample.sound [Sample.grant, Sample.refusal])) = true := by
    decide +kernel
  have hexpired : (Exposed.run (Manager.expireIfUnauthorized (.ofStatus 401 ""))
      (Exposed.after (operation Sample.client)
        [.manager (.signIn Sample.credentials), .get "profile"]
        (Sample.sound [Sample.grant, Sample.refusal]))).1 = true := by
    decide +kernel
  have hnew : (Sample.sound [Sample.grant, Sample.refusal]).world.session = none := rfl
  -- the runs are settled above: from here on only their results have names
  obtain ⟨x, hx⟩ : ∃ x, Exposed.after (operation Sample.client)
      [.manager (.signIn Sample.credentials), .get "profile"]
      (Sample.sound [Sample.grant, Sample.refusal]) = x := ⟨_, rfl⟩
  obtain ⟨records, hrecords⟩ : ∃ records, Exposed.records (operation Sample.client)
      [.manager (.signIn Sample.credentials), .get "profile"]
      (Sample.sound [Sample.grant, Sample.refusal]) = records := ⟨_, rfl⟩
  rw [hx] at hexpired ⊢
  rw [hrecords] at hremoval hrefused
  exact (stored_after_expiry Sample.client hnew _ _ hx hrecords hremoval
    (Prod.ext hexpired rfl)).1.mpr hrefused

/-- A client whose token is refused, and to which somebody signs in before the error of the refusal
gets to the manager. -/
def lateClient : Exposed MemoryStore :=
  Exposed.after (operation Sample.client) [.get "profile", .manager (.signIn Sample.credentials)]
    (Sample.sound [Sample.refusal, Sample.grant])

/-- No call of the store fails and the expiry drops the new session from memory. Yet it stays in the
store, and a new client restores it. -/
theorem not_gone_after_late_expiry :
    ((Exposed.run (operation Sample.client (.get "profile"))
        (Sample.sound [Sample.refusal, Sample.grant])).1.apiError?) = some (.ofStatus 401 "") ∧
      (Exposed.run (Manager.expireIfUnauthorized (.ofStatus 401 "")) lateClient).1 = true ∧
      (Exposed.run (Manager.expireIfUnauthorized (.ofStatus 401 ""))
        lateClient).2.holdings.texts Session.key ≠ none ∧
      (Manager.bootstrap.run (Exposed.run (Manager.expireIfUnauthorized (.ofStatus 401 ""))
        lateClient).2.world.restart).1 = .ok (some ⟨"1", "mail", none, "t"⟩) := by
  refine ⟨?_, ?_, ?_, ?_⟩
  all_goals decide +kernel

end ClientCall

end SessionKeeper
