import SessionKeeper.Proofs.Api.Requests
import SessionKeeper.Proofs.Manager.History

/-!
# Histories of a client

Everything that can be done with a client, one after another: its calls, expiries for any error, and
new starts over the same store. A history tells the latest session that a sign-in or registration
gave and that was not removed since. As long as the library alone writes the session, this is the
one that is stored.
-/

namespace SessionKeeper

/-- Something that is done with a client: a call, an expiry for any error, or a new start over the
same store. -/
inductive Deed
  | call (call : Call)
  | expire (e : ApiError)
  | restart

/-- A deed that was done: its reply, if it has one, and the turns it took. -/
structure Past where
  deed : Deed
  reply? : Option Reply
  turns : List (Turn clientSteps)

namespace Deed

/-- Whether a deed changes what is stored as a session without the library's doing. -/
def meddles : Deed → Bool
  | .call (.setKey key _) => key == Session.key
  | .call (.removeKey key) => key == Session.key
  | _ => false

/-- The operation of a deed. A new start is none. -/
def operation? (c : ApiClient) : Deed → Option (Operation Reply)
  | .call made => some (made.noting c)
  | .expire e => some (ManagerCall.operation c (.expire e))
  | .restart => none

variable {σ : Type} [Store σ]

/-- Does a deed. -/
def run (c : ApiClient) (d : Deed) (x : Exposed σ) : Past × Exposed σ :=
  match d.operation? c with
  | some op => (⟨d, some (Exposed.run op x).1, op.turns (Exposed.handler σ) x⟩,
      (Exposed.run op x).2)
  | none => (⟨d, none, []⟩, x.restart x.faults x.answers)

/-- The account of deeds that are done one after another. -/
def history (c : ApiClient) : List Deed → Exposed σ → List Past
  | [], _ => []
  | d :: ds, x => (d.run c x).1 :: history c ds (d.run c x).2

end Deed

/-! ## The latest session -/

namespace Past

/-- The session that a sign-in or registration gave. -/
def established? (p : Past) : Option Session :=
  match p.reply? with
  | some (.established (.ok s)) => some s
  | _ => none

/-- Whether the stored session was removed: by a sign-out or logout that succeeded, or because the
server refused the token and the removal did not fail. -/
def removes (p : Past) : Bool :=
  match p.deed, p.reply? with
  | .call .signOut, some (.signedOut (.ok ())) => true
  | .call .logout, some (.changed (.ok ())) => true
  | _, _ => p.turns.any Turn.isRefusal && !p.turns.any Turn.isFailedRemoval

/-- The latest session after one more deed. -/
def latestAfter (latest : Option Session) (p : Past) : Option Session :=
  match p.established? with
  | some s => some s
  | none => if p.removes then none else latest

/-- The latest session that a sign-in or registration gave, if it was not removed since. -/
def latest (ps : List Past) : Option Session :=
  ps.foldl latestAfter none

end Past

/-! ## What a call does to the stored session -/

open Program

theorem ClientStep.Local.texts_eq {step : ClientStep} (hlocal : step.Local) {v w : Holdings}
    {answer : step.Answer} (h : step.effect v answer w) :
    w.texts Session.key = v.texts Session.key := by
  cases step with
  | set key value =>
      cases answer with
      | error e => rw [h]
      | ok _ =>
          rw [h]
          exact if_neg (Ne.symm hlocal)
  | remove key =>
      cases answer with
      | error e => rw [h]
      | ok _ =>
          rw [h]
          exact if_neg (Ne.symm hlocal)
  | readSession => rw [h.2]
  | writeSession => rw [h]
  | get key =>
      cases answer with
      | error e => rw [h]
      | ok text => rw [h.2]
  | _ => rw [h]

theorem ClientStep.Local.not_isRefusal {t : Turn clientSteps} (h : t.step.Local) :
    t.isRefusal = false := by
  obtain ⟨step, answer⟩ := t
  cases step with
  | receive => exact h.elim
  | _ => rfl

section

variable {α : Type} {v w : Holdings} {turns : List (Turn clientSteps)}

/-- What is done locally leaves the stored session alone. -/
theorem runs_local {op : Operation α} (hop : op.Within ClientStep.Local) {a : α}
    (h : Runs ClientStep.effect op v turns a w) :
    w.texts Session.key = v.texts Session.key ∧ turns.any Turn.isRefusal = false := by
  refine ⟨hop.view_eq (fun v => v.texts Session.key)
    (fun hstep heffect => hstep.texts_eq heffect) h, ?_⟩
  rw [List.any_eq_false]
  intro t ht
  rw [ClientStep.Local.not_isRefusal (hop.step_of_mem h t ht)]
  exact Bool.false_ne_true

theorem Call.runs_noting {c : ApiClient} {call : Call} {reply : Reply}
    (h : Runs ClientStep.effect (call.noting c) v turns reply w) :
    ∃ inner, Turn.Alike inner turns ∧
      Runs ClientStep.effect (call.operation c) v inner reply w := by
  obtain ⟨answered, u, first, rest, rfl, hop, hrest⟩ := runs_bind.mp h
  split at hrest
  next =>
    obtain ⟨rfl, rfl, rfl⟩ := runs_pure.mp hrest
    exact ⟨first, by rw [List.append_nil]; exact ⟨rfl, rfl⟩, hop⟩
  next e _ =>
    obtain ⟨_, u', noted, rest, rfl, hnote, hdone⟩ := runs_bind.mp hrest
    obtain ⟨rfl, rfl⟩ := runs_perform.mp hnote
    obtain ⟨rfl, rfl, rfl⟩ := runs_pure.mp hdone
    have halike : Turn.Alike first ([] ++ (first ++ [⟨.noteError e, ()⟩])) :=
      Turn.alike_around ⟨rfl, rfl⟩ ⟨rfl, rfl⟩ first
    exact ⟨first, halike, hop⟩

end

/-! ## The stored session is the latest one -/

namespace Past

variable {d : Deed} {reply? : Option Reply} {turns : List (Turn clientSteps)}
  {latest : Option Session} {v w : Holdings}

/-- The latest session is the one that is stored. -/
def Stored (latest : Option Session) (v : Holdings) : Prop :=
  v.texts Session.key = latest.map Session.render

theorem Stored.established (v : Holdings) (s : Session) :
    Stored (latestAfter latest ⟨d, some (.established (.ok s)), turns⟩)
      ⟨v.texts.put Session.key s.render, some s⟩ := by
  simp [Stored, latestAfter, established?]

theorem Stored.removed {p : Past} (hp : p.established? = none) (hremoved : p.removes = true)
    (hw : w.texts Session.key = none) : Stored (latestAfter latest p) w := by
  rw [Stored, hw, latestAfter, hp]
  dsimp only
  rw [if_pos hremoved]
  rfl

theorem Stored.kept {p : Past} (h : Stored latest v) (hp : p.established? = none)
    (hremoved : p.removes = false) (hw : w.texts Session.key = v.texts Session.key) :
    Stored (latestAfter latest p) w := by
  rw [Stored, hw, latestAfter, hp]
  dsimp only
  rw [hremoved, if_neg Bool.false_ne_true]
  exact h

/-- A deed whose reply says nothing of signing out removes the session exactly by a refusal. -/
theorem removes_eq {p : Past} (hsignOut : p.reply? ≠ some (.signedOut (.ok ())))
    (hlogout : p.deed ≠ .call .logout) :
    p.removes = (p.turns.any Turn.isRefusal && !p.turns.any Turn.isFailedRemoval) := by
  unfold removes
  split
  next h => exact absurd h hsignOut
  next h _ => exact absurd h hlogout
  next => rfl

theorem stored_of_outcome {α : Type} {result : Except ApiError α} {reply : Reply}
    (h : ApiClient.Outcome v turns result w)
    (hreply : established? ⟨d, some reply, turns⟩ = none)
    (hsignOut : reply ≠ .signedOut (.ok ())) (hlogout : d ≠ .call .logout)
    (hv : Stored latest v) : Stored (latestAfter latest ⟨d, some reply, turns⟩) w := by
  have hremoves := removes_eq (p := ⟨d, some reply, turns⟩) (by simpa using hsignOut) hlogout
  cases h with
  | plain hsilent =>
      exact hv.kept hreply (by rw [hremoves, hsilent.1, Bool.false_and]) rfl
  | forgotten hrefusal hremoval =>
      exact .removed hreply (by rw [hremoves, hrefusal, hremoval]; rfl)
        (Texts.drop_self Session.key v.texts)
  | kept hrefusal hremoval =>
      exact hv.kept hreply (by rw [hremoves, hremoval]; simp) rfl

theorem stored_of_entry {result : Except Error Session} (h : Manager.Entry v turns result w)
    (hlogout : d ≠ .call .logout) (hv : Stored latest v) :
    Stored (latestAfter latest ⟨d, some (.established result), turns⟩) w := by
  have hremoves := removes_eq (p := ⟨d, some (.established result), turns⟩) nofun hlogout
  cases h with
  | established s => exact .established v s
  | failed hsilent =>
      exact hv.kept rfl (by rw [hremoves, hsilent.1, Bool.false_and]) rfl
  | forgotten hrefusal hremoval =>
      exact .removed rfl (by rw [hremoves, hrefusal, hremoval]; rfl)
        (Texts.drop_self Session.key v.texts)
  | kept hrefusal hremoval =>
      exact hv.kept rfl (by rw [hremoves, hremoval]; simp) rfl

theorem stored_of_departure {result : Except Error Unit} (h : Manager.Departure v turns result w)
    (hv : Stored latest v) :
    Stored (latestAfter latest ⟨.call .signOut, some (.signedOut result), turns⟩) w := by
  cases h with
  | signedOut => exact .removed rfl rfl (Texts.drop_self Session.key v.texts)
  | failed hrefusal =>
      refine hv.kept rfl ?_ rfl
      change (turns.any Turn.isRefusal && !turns.any Turn.isFailedRemoval) = false
      rw [hrefusal, Bool.false_and]

theorem stored_of_logout {result : Except StoreError Unit}
    (h : Runs ClientStep.effect Auth.logout v turns result w) (hv : Stored latest v) :
    Stored (latestAfter latest ⟨.call .logout, some (.changed result), turns⟩) w := by
  obtain ⟨rfl, heffect⟩ := runs_perform.mp h
  cases result with
  | ok _ =>
      obtain rfl : w = v.forget := heffect
      exact .removed rfl rfl (Texts.drop_self Session.key v.texts)
  | error e =>
      obtain rfl : w = v := heffect
      exact hv.kept rfl rfl rfl

/-- What is done locally and is no sign-in leaves the latest session. -/
theorem stored_of_local {op : Operation Reply} (hop : op.Within ClientStep.Local) {reply : Reply}
    (h : Runs ClientStep.effect op v turns reply w)
    (hreply : established? ⟨d, some reply, turns⟩ = none)
    (hsignOut : reply ≠ .signedOut (.ok ())) (hlogout : d ≠ .call .logout)
    (hv : Stored latest v) : Stored (latestAfter latest ⟨d, some reply, turns⟩) w := by
  obtain ⟨htexts, hrefusal⟩ := runs_local hop h
  refine hv.kept hreply ?_ htexts
  rw [removes_eq (by simpa using hsignOut) hlogout, hrefusal, Bool.false_and]

/-- Every call that does not meddle keeps the latest session the one that is stored. -/
theorem stored_of_operation {c : ApiClient} {call : Call} {reply : Reply}
    (hmeddles : (Deed.call call).meddles = false)
    (h : Runs ClientStep.effect (call.operation c) v turns reply w) (hv : Stored latest v) :
    Stored (latestAfter latest ⟨.call call, some reply, turns⟩) w := by
  cases call with
  | signIn credentials =>
      obtain ⟨result, rfl, hop⟩ := ManagerCall.runs_reply h
      exact stored_of_entry (Manager.runs_signIn hop) nofun hv
  | registerUser credentials name =>
      obtain ⟨result, rfl, hop⟩ := ManagerCall.runs_reply h
      exact stored_of_entry (Manager.runs_registerUser hop) nofun hv
  | signOut =>
      obtain ⟨result, rfl, hop⟩ := ManagerCall.runs_reply h
      exact stored_of_departure (Manager.runs_signOut hop) hv
  | logout =>
      obtain ⟨result, rfl, hop⟩ := ManagerCall.runs_reply h
      exact stored_of_logout hop hv
  | login credentials =>
      obtain ⟨result, rfl, hop⟩ := ManagerCall.runs_reply h
      exact stored_of_outcome (Manager.runs_login hop) rfl nofun nofun hv
  | register credentials =>
      obtain ⟨result, rfl, hop⟩ := ManagerCall.runs_reply h
      exact stored_of_outcome (Manager.runs_register hop) rfl nofun nofun hv
  | get path =>
      obtain ⟨result, rfl, hop⟩ := ManagerCall.runs_reply h
      exact stored_of_outcome (ApiClient.runs_call hop) rfl nofun nofun hv
  | post path body =>
      obtain ⟨result, rfl, hop⟩ := ManagerCall.runs_reply h
      exact stored_of_outcome (ApiClient.runs_call hop) rfl nofun nofun hv
  | setKey key value =>
      obtain ⟨result, rfl, -⟩ := ManagerCall.runs_reply h
      have hlocal : Call.isLocal (.setKey key value) = true := by
        simpa [Deed.meddles, Call.isLocal] using hmeddles
      exact stored_of_local (Call.local_operation c hlocal) h rfl nofun nofun hv
  | removeKey key =>
      obtain ⟨result, rfl, -⟩ := ManagerCall.runs_reply h
      have hlocal : Call.isLocal (.removeKey key) = true := by
        simpa [Deed.meddles, Call.isLocal] using hmeddles
      exact stored_of_local (Call.local_operation c hlocal) h rfl nofun nofun hv
  | expire =>
      obtain ⟨hreply, hsignOut⟩ : established? ⟨.call .expire, some reply, turns⟩ = none ∧
          reply ≠ .signedOut (.ok ()) := by
        obtain ⟨e, u, first, rest, rfl, -, hrest⟩ := runs_bind.mp h
        split at hrest
        next =>
          obtain ⟨-, rfl, -⟩ := runs_pure.mp hrest
          exact ⟨rfl, nofun⟩
        next =>
          obtain ⟨dropped, rfl, -⟩ := ManagerCall.runs_reply hrest
          exact ⟨rfl, nofun⟩
      exact stored_of_local (Call.local_operation c rfl) h hreply hsignOut nofun hv
  | _ =>
      obtain ⟨answer, rfl, -⟩ := ManagerCall.runs_reply h
      exact stored_of_local (Call.local_operation c rfl) h rfl nofun nofun hv

/-- What counts of a deed does not change with turns that are alike. -/
theorem latestAfter_alike {others : List (Turn clientSteps)} (halike : Turn.Alike turns others) :
    latestAfter latest ⟨d, reply?, others⟩ = latestAfter latest ⟨d, reply?, turns⟩ := by
  have hremoves : removes ⟨d, reply?, others⟩ = removes ⟨d, reply?, turns⟩ := by
    unfold removes
    rw [halike.1, halike.2]
  rw [latestAfter, latestAfter, hremoves]
  rfl

end Past

/-! ## Every history -/

namespace Deed

variable {σ : Type} [Store σ] [LawfulStore σ] {c : ApiClient} {latest : Option Session}

theorem stored_run {d : Deed} {x : Exposed σ} (hmeddles : d.meddles = false)
    (hx : Past.Stored latest x.holdings) :
    Past.Stored (Past.latestAfter latest (d.run c x).1) (d.run c x).2.holdings := by
  cases d with
  | call made =>
      have hruns := Exposed.runs_run (made.noting c) x
      obtain ⟨inner, halike, hop⟩ := Call.runs_noting hruns
      rw [run, operation?, Past.latestAfter_alike halike]
      exact Past.stored_of_operation hmeddles hop hx
  | expire e =>
      have hruns := Exposed.runs_run (ManagerCall.operation c (.expire e)) x
      obtain ⟨dropped, hreply, -⟩ := ManagerCall.runs_reply hruns
      have hlocal : (ManagerCall.operation c (.expire e)).Within ClientStep.Local :=
        .bind (Manager.local_expireIfUnauthorized e) fun _ => .pure _
      refine Past.stored_of_local hlocal hruns ?_ ?_ nofun hx
      · rw [hreply]
        rfl
      · rw [hreply]
        nofun
  | restart => exact hx

/-- At every point of a history the latest session is the one that is stored. -/
theorem stored_before {ds : List Deed} {x : Exposed σ} (hmeddles : ∀ d ∈ ds, d.meddles = false)
    (hx : Past.Stored latest x.holdings) {earlier later : List Past} {p : Past}
    (hsplit : history c ds x = earlier ++ p :: later) :
    ∃ d ∈ ds, ∃ y : Exposed σ, (d.run c y).1 = p ∧
      Past.Stored (earlier.foldl Past.latestAfter latest) y.holdings := by
  induction ds generalizing x latest earlier with
  | nil =>
      rw [history] at hsplit
      simp at hsplit
  | cons d ds ih =>
      rw [history] at hsplit
      cases earlier with
      | nil =>
          obtain ⟨hp, -⟩ := List.cons.inj hsplit
          exact ⟨d, List.mem_cons_self, x, hp, hx⟩
      | cons q earlier =>
          obtain ⟨rfl, hrest⟩ := List.cons.inj hsplit
          obtain ⟨e, he, y, hy⟩ := ih (fun e he => hmeddles e (List.mem_cons_of_mem _ he))
            (stored_run (hmeddles d List.mem_cons_self) hx) hrest
          exact ⟨e, List.mem_cons_of_mem _ he, y, hy⟩

end Deed

end SessionKeeper
