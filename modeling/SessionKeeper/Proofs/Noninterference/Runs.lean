import SessionKeeper.Proofs.Api.History
import SessionKeeper.Proofs.Noninterference.Operations

/-!
# Two histories that differ in what is kept secret

The same calls, expiries and new starts, one after another, in two runs: what is passed to them and
what they are answered may vary in names, passwords and tokens. Step by step the replies and the
worlds are alike, whatever the store.
-/

namespace SessionKeeper

open Operation

/-! ## One call -/

section

variable (v : Variation)

/-- Replies that are the same but for the sessions and tokens in them. -/
inductive Reply.Alike : Reply → Reply → Prop
  | same (reply : Reply) : Alike reply reply
  | restored {r s : Except Error (Option Session)}
      (h : Agree (Option.Rel (Session.Alike v)) r s) : Alike (.restored r) (.restored s)
  | established {r s : Except Error Session} (h : Agree (Session.Alike v) r s) :
      Alike (.established r) (.established s)
  | session {s t : Option Session} (h : Option.Rel (Session.Alike v) s t) :
      Alike (.session s) (.session t)
  | loggedIn {r s : Except ApiError LoginResponse} (h : Agree (LoginResponse.Alike v) r s) :
      Alike (.loggedIn r) (.loggedIn s)
  | registered {r s : Except ApiError RegisterResponse}
      (h : Agree (RegisterResponse.Alike v) r s) : Alike (.registered r) (.registered s)
  | found {key : String} {r s : Except StoreError (Option String)}
      (h : Agree (Option.Rel (Session.TextAlike v key)) r s) : Alike (.found r) (.found s)

/-- Calls that are the same but for names and passwords. -/
inductive Call.Alike : Call → Call → Prop
  | same (call : Call) : Alike call call
  | signIn {c d : Credentials} (h : c.Alike v d) : Alike (.signIn c) (.signIn d)
  | registerUser {c d : Credentials} (h : c.Alike v d) {name name' : Option String}
      (hname : v.name name name') : Alike (.registerUser c name) (.registerUser d name')
  | login {c d : Credentials} (h : c.Alike v d) : Alike (.login c) (.login d)
  | register {c d : Credentials} (h : c.Alike v d) : Alike (.register c) (.register d)

/-- Answers that a call may get in two runs: the same, unless a token is granted. -/
def Call.Answered : Call → Http.Answer → Http.Answer → Prop
  | .signIn _ => Http.Answer.Alike (LoginResponse.Alike v) LoginResponse.parse
  | .login _ => Http.Answer.Alike (LoginResponse.Alike v) LoginResponse.parse
  | .registerUser _ _ => Http.Answer.Alike (RegisterResponse.Alike v) RegisterResponse.parse
  | .register _ => Http.Answer.Alike (RegisterResponse.Alike v) RegisterResponse.parse
  | _ => Eq

end

section

variable {σ : Type} [Store σ] [OpaqueStore σ] {v : Variation}
  {K : Http.Answer → Http.Answer → Prop}

theorem Reply.Alike.apiError?_eq {r s : Reply} (h : r.Alike v s) : r.apiError? = s.apiError? := by
  cases h with
  | same => rfl
  | restored h => cases h <;> rfl
  | established h => cases h <;> rfl
  | session => rfl
  | loggedIn h => cases h <;> rfl
  | registered h => cases h <;> rfl
  | found => rfl

namespace Call

theorem Answered.refl (call : Call) (a : Http.Answer) : call.Answered v a a := by
  cases call with
  | signIn => exact .same a
  | login => exact .same a
  | registerUser => exact .same a
  | register => exact .same a
  | _ => rfl

theorem alike_reply {α : Type} {R : α → α → Prop} {op op' : Operation α} {make : α → Reply}
    (h : Operation.Alike σ v K R op op') (hmake : ∀ a b, R a b → (make a).Alike v (make b)) :
    Operation.Alike σ v K (Reply.Alike v) (op >>= fun a => pure (make a))
      (op' >>= fun a => pure (make a)) :=
  h.bind fun a b hab => .pure (hmake a b hab)

theorem alike_expireLast : Operation.Alike σ v K (Reply.Alike v) expireLast expireLast := by
  refine alike_lastError.next fun last => ?_
  cases last with
  | none => exact .pure (.same _)
  | some e =>
      exact (Manager.alike_expireIfUnauthorized e).next fun _ => .pure (.same _)

theorem alike_signIn (c : ApiClient) {d e : Credentials} (h : d.Alike v e) :
    Operation.Alike σ v (Answered v (.signIn d)) (Reply.Alike v) (operation c (.signIn d))
      (operation c (.signIn e)) :=
  alike_reply (Manager.alike_signIn c h (Http.Answer.readAlike_alike .refl _))
    fun _ _ => .established

theorem alike_registerUser (c : ApiClient) {d e : Credentials} (h : d.Alike v e)
    {name name' : Option String} (hname : v.name name name') :
    Operation.Alike σ v (Answered v (.registerUser d name)) (Reply.Alike v)
      (operation c (.registerUser d name)) (operation c (.registerUser e name')) :=
  alike_reply (Manager.alike_registerUser c h hname (Http.Answer.readAlike_alike .refl _))
    fun _ _ => .established

theorem alike_login (c : ApiClient) {d e : Credentials} (h : d.Alike v e) :
    Operation.Alike σ v (Answered v (.login d)) (Reply.Alike v) (operation c (.login d))
      (operation c (.login e)) :=
  alike_reply (Auth.alike_login c h (Http.Answer.readAlike_alike .refl _)) fun _ _ => .loggedIn

theorem alike_register (c : ApiClient) {d e : Credentials} (h : d.Alike v e) :
    Operation.Alike σ v (Answered v (.register d)) (Reply.Alike v) (operation c (.register d))
      (operation c (.register e)) :=
  alike_reply (Auth.alike_register c h (Http.Answer.readAlike_alike .refl _)) fun _ _ => .registered

/-- Calls that are alike give replies that are alike. -/
theorem Alike.operation (c : ApiClient) {call other : Call} (h : call.Alike v other) :
    Operation.Alike σ v (call.Answered v) (Reply.Alike v) (call.operation c)
      (other.operation c) := by
  have hsame {α : Type} {make : α → Reply} (a b : α) (hab : a = b) :
      (make a).Alike v (make b) := hab ▸ .same _
  have hvalue (a b : Except ApiError Json.Value) (hab : Agree Eq a b) :
      (Reply.value a).Alike v (.value b) := by
    cases hab with
    | ok h => exact h ▸ .same _
    | error e => exact .same _
  cases h with
  | signIn h => exact alike_signIn c h
  | registerUser h hname => exact alike_registerUser c h hname
  | login h => exact alike_login c h
  | register h => exact alike_register c h
  | same =>
      cases call with
      | signIn d => exact alike_signIn c (.refl d)
      | registerUser d name => exact alike_registerUser c (.refl d) (v.name_refl name)
      | login d => exact alike_login c (.refl d)
      | register d => exact alike_register c (.refl d)
      | bootstrap =>
          exact alike_reply (Manager.alike_exclusive Manager.alike_restore) fun _ _ => .restored
      | signOut => exact alike_reply Manager.alike_signOut hsame
      | expire => exact alike_expireLast
      | current => exact alike_reply alike_readSession fun _ _ => .session
      | isSignedIn => exact alike_reply Manager.alike_isSignedIn hsame
      | isLoading => exact alike_reply alike_isLoading hsame
      | logout => exact alike_reply (alike_remove Session.key) hsame
      | isAuthenticated => exact alike_reply Auth.alike_isAuthenticated hsame
      | get path =>
          exact alike_reply (c.alike_call _ path (.same _) (Http.Answer.readAlike_eq _)) hvalue
      | post path body =>
          exact alike_reply (c.alike_call _ path (.same _) (Http.Answer.readAlike_eq _)) hvalue
      | loadMode => exact alike_reply Preference.alike_load hsame
      | toggleMode => exact alike_reply Preference.alike_toggle hsame
      | setMode mode => exact alike_reply (Preference.alike_set mode) hsame
      | getKey key => exact alike_reply (alike_get key) fun _ _ => .found
      | setKey key value => exact alike_reply (alike_set (.same key value)) hsame
      | removeKey key => exact alike_reply (alike_remove key) hsame

/-- Calls that are alike note the same errors. -/
theorem Alike.noting (c : ApiClient) {call other : Call} (h : call.Alike v other) :
    Operation.Alike σ v (call.Answered v) (Reply.Alike v) (call.noting c) (other.noting c) := by
  refine (h.operation c).bind fun r s hrs => ?_
  rw [hrs.apiError?_eq]
  cases s.apiError? with
  | none => exact .pure hrs
  | some e => exact (alike_noteError e).next fun _ => .pure hrs

end Call

end

/-! ## Histories -/

/-- Deeds that are the same but for names and passwords. -/
inductive Deed.Alike (v : Variation) : Deed → Deed → Prop
  | call {made other : Call} (h : made.Alike v other) : Alike v (.call made) (.call other)
  | expire (e : ApiError) : Alike v (.expire e) (.expire e)
  | restart : Alike v .restart .restart

/-- Answers that a deed may get in two runs: the same, unless a token is granted. -/
def Deed.Answered (v : Variation) : Deed → Http.Answer → Http.Answer → Prop
  | .call made => made.Answered v
  | _ => Eq

/-- A deed with the faults that its calls of the store meet and the answers to its requests. -/
structure Encounter where
  deed : Deed
  faults : List (Option StoreError)
  answers : List Http.Answer

/-- What an encounter comes to: the reply, if there is one, and the world afterwards. -/
structure Upshot (σ : Type) where
  reply? : Option Reply
  world : World σ

namespace Encounter

variable {σ : Type} [Store σ]

/-- What an encounter in a world comes to. -/
def meet (c : ApiClient) (m : Encounter) (w : World σ) : Upshot σ :=
  ⟨(m.deed.run c ⟨w, m.faults, m.answers⟩).1.reply?,
    (m.deed.run c ⟨w, m.faults, m.answers⟩).2.world⟩

/-- What encounters one after another come to. -/
def upshots (c : ApiClient) : List Encounter → World σ → List (Upshot σ)
  | [], _ => []
  | m :: ms, w => m.meet c w :: upshots c ms (m.meet c w).world

/-- Encounters in two runs: deeds that are alike, with the same faults, and answers that are alike
too. -/
structure Alike (v : Variation) (m n : Encounter) : Prop where
  deed : m.deed.Alike v n.deed
  faults : m.faults = n.faults
  answers : List.Forall₂ (m.deed.Answered v) m.answers n.answers

end Encounter

/-- Upshots in two runs: replies that are alike, in worlds that are, so that the same keys are found
in the stores, with texts that are alike. -/
structure Upshot.Alike {σ : Type} [Store σ] [OpaqueStore σ] (v : Variation) (p q : Upshot σ) :
    Prop where
  reply : Option.Rel (Reply.Alike v) p.reply? q.reply?
  world : p.world.Alike v q.world
  found (key : String) : Agree (Option.Rel (Session.TextAlike v key))
    (Store.get key p.world.store) (Store.get key q.world.store)

section

variable {σ : Type} [Store σ] [OpaqueStore σ] {v : Variation}

theorem World.Alike.refl (w : World σ) : w.Alike v w where
  store := OpaqueStore.refl v.texts w.store
  session := by
    cases w.session with
    | none => exact .none
    | some s => exact .some (.refl s)
  loading := rfl
  held := rfl
  network := rfl
  requests := List.forall₂_same.mpr fun r _ => .refl r
  arrived := rfl
  events := rfl
  lastError := rfl

theorem World.Alike.restart {w u : World σ} (h : w.Alike v u) :
    w.restart.Alike v u.restart :=
  { h with session := .none, loading := rfl, held := rfl, lastError := rfl }

theorem Deed.Alike.refl (d : Deed) : d.Alike v d := by
  cases d with
  | call made => exact .call (.same made)
  | expire e => exact .expire e
  | restart => exact .restart

theorem Deed.Answered.refl (d : Deed) (a : Http.Answer) : d.Answered v a a := by
  cases d with
  | call made => exact Call.Answered.refl made a
  | expire => rfl
  | restart => rfl

theorem Encounter.Alike.refl (m : Encounter) : m.Alike v m :=
  ⟨.refl m.deed, rfl, List.forall₂_same.mpr fun a _ => .refl m.deed a⟩

/-- One deed in worlds that are alike gives replies that are alike, and keeps them alike. -/
theorem Deed.Alike.run (c : ApiClient) {d e : Deed} (h : d.Alike v e) {x y : Exposed σ}
    (hxy : x.Alike v (d.Answered v) y) :
    Option.Rel (Reply.Alike v) (d.run c x).1.reply? (e.run c y).1.reply? ∧
      (d.run c x).2.Alike v (d.Answered v) (e.run c y).2 := by
  cases h with
  | call h =>
      obtain ⟨hreply, hworld⟩ := h.noting c x y hxy
      exact ⟨.some hreply, hworld⟩
  | expire e =>
      have hexpire : Operation.Alike σ v Eq (Reply.Alike v) (ManagerCall.operation c (.expire e))
          (ManagerCall.operation c (.expire e)) :=
        Call.alike_reply (Manager.alike_expireIfUnauthorized e) fun _ _ hab => hab ▸ .same _
      obtain ⟨hreply, hworld⟩ := hexpire x y hxy
      exact ⟨.some hreply, hworld⟩
  | restart => exact ⟨.none, hxy.world.restart, hxy.faults, hxy.answers⟩

/-- Encounters that are alike, in worlds that are, come to replies and worlds that are alike. -/
theorem Encounter.upshots_alike (c : ApiClient) {ms ns : List Encounter}
    (h : List.Forall₂ (Encounter.Alike v) ms ns) {w u : World σ}
    (hwu : w.Alike v u) :
    List.Forall₂ (Upshot.Alike v) (upshots c ms w) (upshots c ns u) := by
  induction h generalizing w u with
  | nil => exact .nil
  | @cons m n ms ns hmn _ ih =>
      obtain ⟨hreply, hnext⟩ := hmn.deed.run c (x := ⟨w, m.faults, m.answers⟩)
        (y := ⟨u, n.faults, n.answers⟩) ⟨hwu, hmn.faults, hmn.answers⟩
      exact .cons ⟨hreply, hnext.world, OpaqueStore.get hnext.world.store⟩ (ih hnext.world)

end

end SessionKeeper
