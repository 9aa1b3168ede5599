import SessionKeeper.Proofs.Manager.History
import SessionKeeper.Proofs.Session

/-!
# Sessions in memory are stored

Between the calls of a manager nobody is signed in whose session is not stored. No failure of the
store and no answer of the server changes this: a session is stored before it gets into memory, and
the call that removes it from the store takes it out of memory too.
-/

namespace SessionKeeper

namespace Holdings

/-- If somebody is signed in, the text that is stored as a session is that of the one in memory. -/
def Backed (v : Holdings) : Prop :=
  ∀ s, v.session = some s →
    ∃ text, v.texts Session.key = some text ∧ Session.parse text = .ok s

theorem backed_leave (v : Holdings) : v.leave.Backed :=
  nofun

theorem backed_of_stored {v : Holdings} {s : Session} (h : v.stored = .ok (some s)) :
    Backed { v with session := some s } := by
  intro s' hs
  obtain rfl : s = s' := Option.some.inj hs
  rw [stored, Session.ofStored] at h
  cases htext : v.texts Session.key with
  | none => simp [htext] at h
  | some text =>
      refine ⟨text, rfl, ?_⟩
      rw [htext, Option.getD_some] at h
      split at h
      next => cases h
      next =>
        obtain ⟨t, hparse, heq⟩ := Json.map_eq_ok h
        cases heq
        exact hparse

theorem Backed.stored {v : Holdings} {s : Session} (h : v.Backed) (hs : v.session = some s) :
    v.stored = .ok (some s) := by
  obtain ⟨text, htext, hparse⟩ := h s hs
  have hfull : text ≠ "" := by
    rintro rfl
    cases hparse
  rw [Holdings.stored, Session.ofStored, htext, Option.getD_some, if_neg hfull, hparse]
  rfl

theorem backed_put_render (v : Holdings) (s : Session) :
    Backed ⟨v.texts.put Session.key s.render, some s⟩ := by
  intro s' hs
  obtain rfl : s = s' := Option.some.inj hs
  exact ⟨s.render, Texts.put_self Session.key s.render v.texts, s.parse_render⟩

end Holdings

namespace ManagerCall

theorem backed_of_entry {v w : Holdings} {turns : List (Turn clientSteps)}
    {result : Except Error Session} (h : Manager.Entry v turns result w) (hv : v.Backed) :
    w.Backed := by
  cases h with
  | established s => exact v.backed_put_render s
  | failed => exact hv
  | forgotten => exact v.forget.backed_leave
  | kept => exact v.backed_leave

/-- No call leaves a session in memory that is not stored, whatever fails. -/
theorem backed_of_outcome {v w : Holdings} {turns : List (Turn clientSteps)} {call : ManagerCall}
    {reply : Reply} (h : Outcome v turns call reply w) (hv : v.Backed) : w.Backed := by
  cases h with
  | bootstrap hrestoration =>
      cases hrestoration with
      | nothing => exact hv
      | restored hsilent hstored => exact Holdings.backed_of_stored hstored
      | failed => exact hv
  | signIn hentry => exact backed_of_entry hentry hv
  | registerUser hentry => exact backed_of_entry hentry hv
  | signOut hdeparture =>
      cases hdeparture with
      | signedOut => exact v.forget.backed_leave
      | failed => exact hv
  | expire =>
      split
      next => exact v.backed_leave
      next => exact hv

end ManagerCall

end SessionKeeper
