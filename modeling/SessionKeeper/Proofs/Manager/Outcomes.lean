import SessionKeeper.Manager
import SessionKeeper.Proofs.Api.Client

/-!
# What the operations of the manager leave behind

How each operation of the manager can end, whatever the store and the server do. The store is
changed before the session in memory in each of them, and a refused token takes the session out of
memory even if its removal from the store failed.
-/

namespace SessionKeeper

/-- The session that a stored text holds. A text that is empty holds none, like one that is
missing. -/
def Session.ofStored (text : Option String) : Except Json.Error (Option Session) :=
  if text.getD "" = "" then .ok none else (Session.parse (text.getD "")).map some

/-- What is stored as a session. -/
def Holdings.stored (v : Holdings) : Except Json.Error (Option Session) :=
  Session.ofStored (v.texts Session.key)

namespace Manager

open Program

variable {α : Type} {v w : Holdings} {turns : List (Turn clientSteps)}

/-! ## Taking turns -/

theorem runs_guarded {op : Operation α} {a : α}
    (h : Runs ClientStep.effect (guarded op) v turns a w) :
    ∃ inner, Turn.Alike inner turns ∧ Runs ClientStep.effect op v inner a w := by
  obtain ⟨_, u, first, rest, rfl, hacquire, hrest⟩ := runs_bind.mp h
  obtain ⟨rfl, rfl⟩ := runs_perform.mp hacquire
  obtain ⟨b, u', inner, rest, rfl, hop, hlast⟩ := runs_bind.mp hrest
  obtain ⟨_, u, last, rest, rfl, hrelease, hdone⟩ := runs_bind.mp hlast
  obtain ⟨rfl, rfl⟩ := runs_perform.mp hrelease
  obtain ⟨rfl, rfl, rfl⟩ := runs_pure.mp hdone
  exact ⟨inner, Turn.alike_around ⟨rfl, rfl⟩ ⟨rfl, rfl⟩ inner, hop⟩

theorem runs_exclusive {op : Operation α} {a : α}
    (h : Runs ClientStep.effect (exclusive op) v turns a w) :
    ∃ inner, Turn.Alike inner turns ∧ Runs ClientStep.effect op v inner a w := by
  obtain ⟨outer, halike, houter⟩ := runs_guarded h
  obtain ⟨_, u, first, rest, rfl, hbusy, hrest⟩ := runs_bind.mp houter
  obtain ⟨rfl, rfl⟩ := runs_perform.mp hbusy
  obtain ⟨b, u', inner, rest, rfl, hop, hlast⟩ := runs_bind.mp hrest
  obtain ⟨_, u, last, rest, rfl, hidle, hdone⟩ := runs_bind.mp hlast
  obtain ⟨rfl, rfl⟩ := runs_perform.mp hidle
  obtain ⟨rfl, rfl, rfl⟩ := runs_pure.mp hdone
  have hinner : Turn.Alike inner
      ([⟨.setLoading true, ()⟩] ++ (inner ++ [⟨.setLoading false, ()⟩])) :=
    Turn.alike_around ⟨rfl, rfl⟩ ⟨rfl, rfl⟩ inner
  exact ⟨inner, ⟨hinner.1.trans halike.1, hinner.2.trans halike.2⟩, hop⟩

/-! ## Dropping the session -/

theorem runs_dropSession {dropped : Bool}
    (h : Runs ClientStep.effect dropSession v turns dropped w) :
    dropped = v.session.isSome ∧ w = v.leave ∧ Turn.Silent turns := by
  obtain ⟨session, u, first, rest, rfl, hread, hrest⟩ := runs_bind.mp h
  obtain ⟨rfl, rfl, rfl⟩ := runs_perform.mp hread
  cases hsession : u.session with
  | none =>
      rw [hsession] at hrest
      obtain ⟨rfl, rfl, rfl⟩ := runs_pure.mp hrest
      refine ⟨rfl, ?_, rfl, rfl⟩
      -- with nobody signed in there is nothing to leave
      rw [Holdings.leave, ← hsession]
  | some s =>
      rw [hsession] at hrest
      obtain ⟨rest, rfl, hreported⟩ := Operation.runs_writeSession_bind hrest
      obtain ⟨rest, rfl, hdone⟩ := Operation.runs_report_bind hreported
      obtain ⟨rfl, rfl, rfl⟩ := runs_pure.mp hdone
      exact ⟨rfl, rfl, rfl, rfl⟩

/-- Expiring drops the session if the error is that of a refused token, and nothing otherwise. -/
theorem runs_expireIfUnauthorized {e : ApiError} {dropped : Bool}
    (h : Runs ClientStep.effect (expireIfUnauthorized e) v turns dropped w) :
    dropped = (e.isUnauthorized && v.session.isSome) ∧
      w = (if e.isUnauthorized then v.leave else v) ∧ Turn.Silent turns := by
  unfold expireIfUnauthorized at h
  split at h
  next hunauthorized =>
    obtain ⟨inner, halike, hinner⟩ := runs_guarded h
    obtain ⟨rfl, rfl, hsilent⟩ := runs_dropSession hinner
    rw [hunauthorized, Bool.true_and, if_pos rfl]
    exact ⟨rfl, rfl, halike.silent hsilent⟩
  next hother =>
    obtain ⟨rfl, rfl, rfl⟩ := runs_pure.mp h
    rw [if_neg hother, Bool.eq_false_iff.mpr hother]
    exact ⟨rfl, rfl, rfl, rfl⟩

theorem runs_rejected {message email : String} {e : ApiError} {result : Except Error α}
    (h : Runs ClientStep.effect (rejected message email e) v turns result w) :
    result = .error (.api e) ∧ w = (if e.isUnauthorized then v.leave else v) ∧
      Turn.Silent turns := by
  obtain ⟨rest, rfl, hrest⟩ := Operation.runs_report_bind h
  split at hrest
  next hunauthorized =>
    obtain ⟨_, u', first, rest, rfl, hdrop, hrest⟩ := runs_bind.mp hrest
    obtain ⟨-, rfl, hsilent⟩ := runs_dropSession hdrop
    obtain ⟨rfl, rfl, rfl⟩ := runs_pure.mp hrest
    rw [if_pos hunauthorized]
    exact ⟨rfl, rfl, .append ⟨rfl, rfl⟩ (hsilent.append ⟨rfl, rfl⟩)⟩
  next hother =>
    obtain ⟨rfl, rfl, rfl⟩ := runs_pure.mp hrest
    rw [if_neg hother]
    exact ⟨rfl, rfl, rfl, rfl⟩

/-! ## Restoring -/

/-- How restoring the stored session can end. -/
inductive Restoration (v : Holdings) (turns : List (Turn clientSteps)) :
    Except Error (Option Session) → Holdings → Prop
  | nothing (hsilent : Turn.Silent turns) (hstored : v.stored = .ok none) :
      Restoration v turns (.ok none) v
  | restored {s : Session} (hsilent : Turn.Silent turns) (hstored : v.stored = .ok (some s)) :
      Restoration v turns (.ok (some s)) { v with session := some s }
  | failed {e : Error} (hsilent : Turn.Silent turns) : Restoration v turns (.error e) v

theorem Restoration.alike {others : List (Turn clientSteps)}
    {result : Except Error (Option Session)} (h : Restoration v turns result w)
    (halike : Turn.Alike turns others) : Restoration v others result w := by
  cases h with
  | nothing hsilent hstored => exact .nothing (halike.silent hsilent) hstored
  | restored hsilent hstored => exact .restored (halike.silent hsilent) hstored
  | failed hsilent => exact .failed (halike.silent hsilent)

theorem runs_restore {result : Except Error (Option Session)}
    (h : Runs ClientStep.effect restore v turns result w) : Restoration v turns result w := by
  obtain ⟨read, u, first, rest, rfl, hget, hread⟩ := runs_bind.mp h
  obtain ⟨rfl, heffect⟩ := runs_perform.mp hget
  cases read with
  | error e =>
      obtain rfl : u = v := heffect
      obtain ⟨rfl, rfl, rfl⟩ := runs_pure.mp hread
      exact .failed ⟨rfl, rfl⟩
  | ok stored =>
      obtain ⟨rfl, rfl⟩ := heffect
      dsimp only at hread
      split at hread
      next hempty =>
        obtain ⟨rest, rfl, hdone⟩ := Operation.runs_report_bind hread
        obtain ⟨rfl, rfl, rfl⟩ := runs_pure.mp hdone
        exact .nothing ⟨rfl, rfl⟩ (by rw [Holdings.stored, Session.ofStored, if_pos hempty])
      next hfull =>
        split at hread
        next e he =>
          obtain ⟨rfl, rfl, rfl⟩ := runs_pure.mp hread
          exact .failed ⟨rfl, rfl⟩
        next s hs =>
          obtain ⟨rest, rfl, hreported⟩ := Operation.runs_report_bind hread
          obtain ⟨rest, rfl, hdone⟩ := Operation.runs_writeSession_bind hreported
          obtain ⟨rfl, rfl, rfl⟩ := runs_pure.mp hdone
          refine .restored ⟨rfl, rfl⟩ ?_
          rw [Holdings.stored, Session.ofStored, if_neg hfull, hs]
          rfl

/-- Bootstrapping takes what is stored as a session into memory. -/
theorem runs_bootstrap {result : Except Error (Option Session)}
    (h : Runs ClientStep.effect bootstrap v turns result w) : Restoration v turns result w := by
  obtain ⟨inner, halike, hinner⟩ := runs_exclusive h
  exact (runs_restore hinner).alike halike

/-! ## Signing in and registering -/

/-- How signing in or registering can end. -/
inductive Entry (v : Holdings) (turns : List (Turn clientSteps)) :
    Except Error Session → Holdings → Prop
  | established (s : Session) (hsilent : Turn.Silent turns) :
      Entry v turns (.ok s) ⟨v.texts.put Session.key s.render, some s⟩
  | failed {e : Error} (hsilent : Turn.Silent turns) : Entry v turns (.error e) v
  | forgotten {e : Error} (hrefusal : turns.any Turn.isRefusal = true)
      (hremoval : turns.any Turn.isFailedRemoval = false) : Entry v turns (.error e) v.forget.leave
  | kept {e : Error} (hrefusal : turns.any Turn.isRefusal = true)
      (hremoval : turns.any Turn.isFailedRemoval = true) : Entry v turns (.error e) v.leave

theorem Entry.alike {others : List (Turn clientSteps)} {result : Except Error Session}
    (h : Entry v turns result w) (halike : Turn.Alike turns others) : Entry v others result w := by
  cases h with
  | established s hsilent => exact .established s (halike.silent hsilent)
  | failed hsilent => exact .failed (halike.silent hsilent)
  | forgotten hrefusal hremoval => exact .forgotten (halike.1 ▸ hrefusal) (halike.2 ▸ hremoval)
  | kept hrefusal hremoval => exact .kept (halike.1 ▸ hrefusal) (halike.2 ▸ hremoval)

/-- A session that could not be stored does not get into memory. -/
theorem runs_establish {s : Session} {result : Except Error Session}
    (h : Runs ClientStep.effect (establish s) v turns result w) : Entry v turns result w := by
  obtain ⟨written, u, first, rest, rfl, hset, hrest⟩ := runs_bind.mp h
  obtain ⟨rfl, heffect⟩ := runs_perform.mp hset
  cases written with
  | error e =>
      obtain rfl : u = v := heffect
      obtain ⟨rfl, rfl, rfl⟩ := runs_pure.mp hrest
      exact .failed ⟨rfl, rfl⟩
  | ok _ =>
      obtain rfl : u = { v with texts := v.texts.put Session.key s.render } := heffect
      obtain ⟨rest, rfl, hreported⟩ := Operation.runs_writeSession_bind hrest
      obtain ⟨rest, rfl, hdone⟩ := Operation.runs_report_bind hreported
      obtain ⟨rfl, rfl, rfl⟩ := runs_pure.mp hdone
      exact .established s ⟨rfl, rfl⟩

/-- Signing in and registering end alike: what the server grants is established, and an error of the
call is rejected. -/
theorem entry_of_call {call : Operation (Except ApiError α)}
    {rest : Except ApiError α → Operation (Except Error Session)} {granted : α → Session}
    {message email : String} {result : Except Error Session}
    (hcall : ∀ {turns a u}, Runs ClientStep.effect call v turns a u →
      ApiClient.Outcome v turns a u)
    (hok : ∀ response, rest (.ok response) = establish (granted response))
    (herror : ∀ e, rest (.error e) = rejected message email e)
    (h : Runs ClientStep.effect (call >>= rest) v turns result w) : Entry v turns result w := by
  obtain ⟨answered, u, first, last, rfl, hfirst, hlast⟩ := runs_bind.mp h
  cases hcall hfirst with
  | plain hsilent hother =>
      cases answered with
      | ok response =>
          rw [hok] at hlast
          exact (runs_establish hlast).alike (Turn.alike_append hsilent last)
      | error e =>
          rw [herror] at hlast
          obtain ⟨rfl, rfl, hrejected⟩ := runs_rejected hlast
          -- the server did not refuse the token, so the session in memory stays
          rw [hother e rfl]
          exact .failed (hsilent.append hrejected)
  | forgotten hrefusal hremoval hunauthorized =>
      rw [herror] at hlast
      obtain ⟨rfl, rfl, hrejected⟩ := runs_rejected hlast
      rw [hunauthorized]
      refine .forgotten ?_ ?_
      · rw [List.any_append, hrefusal, Bool.true_or]
      · rw [List.any_append, hremoval, hrejected.2, Bool.or_self]
  | kept hrefusal hremoval hunauthorized =>
      rw [herror] at hlast
      obtain ⟨rfl, rfl, hrejected⟩ := runs_rejected hlast
      rw [hunauthorized]
      refine .kept ?_ ?_
      · rw [List.any_append, hrefusal, Bool.true_or]
      · rw [List.any_append, hremoval, Bool.true_or]

theorem runs_login {c : ApiClient} {credentials : Credentials}
    {result : Except ApiError LoginResponse}
    (h : Runs ClientStep.effect (Auth.login c credentials) v turns result w) :
    ApiClient.Outcome v turns result w := by
  obtain ⟨rest, rfl, hpost⟩ := Operation.runs_report_bind h
  exact (ApiClient.runs_call hpost).behind ⟨rfl, rfl⟩

theorem runs_register {c : ApiClient} {credentials : Credentials}
    {result : Except ApiError RegisterResponse}
    (h : Runs ClientStep.effect (Auth.register c credentials) v turns result w) :
    ApiClient.Outcome v turns result w := by
  obtain ⟨rest, rfl, hpost⟩ := Operation.runs_report_bind h
  exact (ApiClient.runs_call hpost).behind ⟨rfl, rfl⟩

theorem runs_signIn {c : ApiClient} {credentials : Credentials} {result : Except Error Session}
    (h : Runs ClientStep.effect (signIn c credentials) v turns result w) :
    Entry v turns result w := by
  obtain ⟨inner, halike, hinner⟩ := runs_exclusive h
  exact (entry_of_call runs_login (fun _ => rfl) (fun _ => rfl) hinner).alike halike

theorem runs_registerUser {c : ApiClient} {credentials : Credentials} {name : Option String}
    {result : Except Error Session}
    (h : Runs ClientStep.effect (registerUser c credentials name) v turns result w) :
    Entry v turns result w := by
  obtain ⟨inner, halike, hinner⟩ := runs_exclusive h
  exact (entry_of_call runs_register (fun _ => rfl) (fun _ => rfl) hinner).alike halike

/-! ## Signing out -/

/-- How signing out can end. -/
inductive Departure (v : Holdings) (turns : List (Turn clientSteps)) :
    Except Error Unit → Holdings → Prop
  | signedOut (hsilent : Turn.Silent turns) : Departure v turns (.ok ()) v.forget.leave
  | failed {e : Error} (hrefusal : turns.any Turn.isRefusal = false) :
      Departure v turns (.error e) v

theorem Departure.alike {others : List (Turn clientSteps)} {result : Except Error Unit}
    (h : Departure v turns result w) (halike : Turn.Alike turns others) :
    Departure v others result w := by
  cases h with
  | signedOut hsilent => exact .signedOut (halike.silent hsilent)
  | failed hrefusal => exact .failed (halike.1 ▸ hrefusal)

/-- Signing out removes the stored session and then the one in memory, or neither. -/
theorem runs_signOut {result : Except Error Unit}
    (h : Runs ClientStep.effect signOut v turns result w) : Departure v turns result w := by
  obtain ⟨inner, halike, hinner⟩ := runs_exclusive h
  refine Departure.alike ?_ halike
  obtain ⟨removed, u, first, rest, rfl, hremove, hrest⟩ := runs_bind.mp hinner
  obtain ⟨rfl, heffect⟩ := runs_perform.mp hremove
  cases removed with
  | error e =>
      obtain rfl : u = v := heffect
      obtain ⟨rfl, rfl, rfl⟩ := runs_pure.mp hrest
      exact .failed rfl
  | ok _ =>
      obtain rfl : u = v.forget := heffect
      obtain ⟨session, u, first, rest, rfl, hread, hrest⟩ := runs_bind.mp hrest
      obtain ⟨rfl, rfl, rfl⟩ := runs_perform.mp hread
      cases hsession : v.forget.session with
      | none =>
          rw [hsession] at hrest
          obtain ⟨rfl, rfl, rfl⟩ := runs_pure.mp hrest
          have hleave : v.forget.leave = v.forget := by rw [Holdings.leave, ← hsession]
          exact hleave ▸ .signedOut ⟨rfl, rfl⟩
      | some s =>
          rw [hsession] at hrest
          obtain ⟨rest, rfl, hreported⟩ := Operation.runs_writeSession_bind hrest
          obtain ⟨rest, rfl, hdone⟩ := Operation.runs_report_bind hreported
          obtain ⟨rfl, rfl, rfl⟩ := runs_pure.mp hdone
          exact .signedOut ⟨rfl, rfl⟩

end Manager

end SessionKeeper
