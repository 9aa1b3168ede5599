import SessionKeeper.Call
import SessionKeeper.Proofs.Manager.Outcomes

/-!
# Histories of calls

Calls made one after another in an exposed world, with a record of what each of them did. An
invariant of the holdings that every run of a single call keeps holds after all of them.
-/

namespace SessionKeeper

/-- A call of the manager. An expiry may be for any error. -/
inductive ManagerCall
  | bootstrap
  | signIn (credentials : Credentials)
  | registerUser (credentials : Credentials) (name : Option String)
  | signOut
  | expire (e : ApiError)

/-- A call that was made: what it gave, and the turns it took. -/
structure Record (κ : Type) where
  call : κ
  reply : Reply
  turns : List (Turn clientSteps)

/-- The operation of a call of the manager. -/
def ManagerCall.operation (c : ApiClient) : ManagerCall → Operation Reply
  | .bootstrap => Call.operation c .bootstrap
  | .signIn credentials => Call.operation c (.signIn credentials)
  | .registerUser credentials name => Call.operation c (.registerUser credentials name)
  | .signOut => Call.operation c .signOut
  | .expire e => return .flag (← Manager.expireIfUnauthorized e)

namespace Exposed

variable {σ κ : Type} [Store σ]

/-- The world after calls were made one after another. -/
def after (operation : κ → Operation Reply) (calls : List κ) (x : Exposed σ) : Exposed σ :=
  calls.foldl (fun x call => (run (operation call) x).2) x

/-- The records of calls that are made one after another. -/
def records (operation : κ → Operation Reply) : List κ → Exposed σ → List (Record κ)
  | [], _ => []
  | call :: calls, x =>
    ⟨call, (run (operation call) x).1, (operation call).turns (handler σ) x⟩ ::
      records operation calls (run (operation call) x).2

/-- An invariant that every run of a call keeps, as long as its record is allowed, holds after any
calls with allowed records. -/
theorem after_invariant [LawfulStore σ] {operation : κ → Operation Reply}
    {invariant : Holdings → Prop} (allowed : Record κ → Prop) {calls : List κ}
    (hcall : ∀ call ∈ calls, ∀ v turns reply w,
      Program.Runs ClientStep.effect (operation call) v turns reply w →
      allowed ⟨call, reply, turns⟩ → invariant v → invariant w)
    {x : Exposed σ} (hrecords : ∀ r ∈ records operation calls x, allowed r)
    (hstart : invariant x.holdings) : invariant (after operation calls x).holdings := by
  induction calls generalizing x with
  | nil => exact hstart
  | cons call calls ih =>
      refine ih (fun c hc => hcall c (List.mem_cons_of_mem _ hc))
        (fun r hr => hrecords r (List.mem_cons_of_mem _ hr)) ?_
      exact hcall call List.mem_cons_self _ _ _ _ (runs_run (operation call) x)
        (hrecords _ List.mem_cons_self) hstart

end Exposed

namespace ManagerCall

open Program

/-- How a call of the manager can end. -/
inductive Outcome (v : Holdings) (turns : List (Turn clientSteps)) :
    ManagerCall → Reply → Holdings → Prop
  | bootstrap {result : Except Error (Option Session)} {w : Holdings}
      (h : Manager.Restoration v turns result w) : Outcome v turns .bootstrap (.restored result) w
  | signIn {credentials : Credentials} {result : Except Error Session} {w : Holdings}
      (h : Manager.Entry v turns result w) :
      Outcome v turns (.signIn credentials) (.established result) w
  | registerUser {credentials : Credentials} {name : Option String}
      {result : Except Error Session} {w : Holdings} (h : Manager.Entry v turns result w) :
      Outcome v turns (.registerUser credentials name) (.established result) w
  | signOut {result : Except Error Unit} {w : Holdings}
      (h : Manager.Departure v turns result w) : Outcome v turns .signOut (.signedOut result) w
  | expire {e : ApiError} (hsilent : Turn.Silent turns) :
      Outcome v turns (.expire e) (.flag (e.isUnauthorized && v.session.isSome))
        (if e.isUnauthorized then v.leave else v)

/-- A reply is made from the result of an operation. -/
theorem runs_reply {α : Type} {op : Operation α} {make : α → Reply} {v w : Holdings}
    {turns : List (Turn clientSteps)} {reply : Reply}
    (h : Runs ClientStep.effect (op >>= fun a => pure (make a)) v turns reply w) :
    ∃ a, reply = make a ∧ Runs ClientStep.effect op v turns a w := by
  obtain ⟨a, u, first, rest, rfl, hop, hdone⟩ := runs_bind.mp h
  obtain ⟨rfl, rfl, rfl⟩ := runs_pure.mp hdone
  exact ⟨a, rfl, (List.append_nil first).symm ▸ hop⟩

theorem runs_operation {c : ApiClient} {call : ManagerCall} {v w : Holdings}
    {turns : List (Turn clientSteps)} {reply : Reply}
    (h : Runs ClientStep.effect (call.operation c) v turns reply w) :
    Outcome v turns call reply w := by
  cases call with
  | bootstrap =>
      obtain ⟨result, rfl, hop⟩ := runs_reply h
      exact .bootstrap (Manager.runs_bootstrap hop)
  | signIn credentials =>
      obtain ⟨result, rfl, hop⟩ := runs_reply h
      exact .signIn (Manager.runs_signIn hop)
  | registerUser credentials name =>
      obtain ⟨result, rfl, hop⟩ := runs_reply h
      exact .registerUser (Manager.runs_registerUser hop)
  | signOut =>
      obtain ⟨result, rfl, hop⟩ := runs_reply h
      exact .signOut (Manager.runs_signOut hop)
  | expire e =>
      obtain ⟨dropped, rfl, hop⟩ := runs_reply h
      obtain ⟨rfl, rfl, hsilent⟩ := Manager.runs_expireIfUnauthorized hop
      exact .expire hsilent

end ManagerCall

/-! ## Concrete histories -/

namespace Sample

/-- A client for concrete histories. -/
def client : ApiClient :=
  ⟨"http://1", "key", .direct⟩

/-- Somebody who signs in. -/
def credentials : Credentials :=
  ⟨"mail", "password"⟩

/-- An answer that grants a token. -/
def grant : Http.Answer :=
  .received 200 (.ok "\x7b\"token\":\"t\"\x7d")

/-- An answer that refuses the token. -/
def refusal : Http.Answer :=
  .received 401 (.error .cutShort)

/-- A new client over an empty memory. Its first request will be refused and two will be granted;
of its calls to the store the sixth to the eighth will fail. -/
def start : Exposed MemoryStore :=
  ⟨World.start .new .unreachable, List.replicate 5 none ++ List.replicate 3 (some .interrupted),
    [refusal, grant, grant]⟩

/-- A new client over an empty memory that never fails. -/
def sound (answers : List Http.Answer) : Exposed MemoryStore :=
  ⟨World.start .new .unreachable, [], answers⟩

/-- The client after its first bootstrap. -/
def bootstrapped : Exposed MemoryStore :=
  (Exposed.run Manager.bootstrap start).2

/-- What it is asked to do then. -/
def calls : List ManagerCall :=
  [.signIn credentials, .signIn credentials, .registerUser credentials none, .signOut]

end Sample

end SessionKeeper
