import SessionKeeper.Proofs.CommandLine.Operations
import SessionKeeper.Proofs.Preference.Mode
import SessionKeeper.Proofs.Session

/-!
# The account behind the commands

What the commands are about, without files and documents: who is signed in, and which colour mode is
preferred. The operations of the client do to the stored texts of an account what is to be done to
the account.
-/

namespace SessionKeeper

namespace CommandLine

/-- Who is signed in, and the preferred colour mode. -/
structure Account where
  session : Option Session
  mode : ColorMode
  deriving DecidableEq, Repr

namespace Account

/-- Nobody is signed in, and no mode was chosen. -/
def new : Account :=
  ⟨none, .light⟩

/-- What an answer to credentials makes of the account: a success with a body that can be read signs
in, and a refusal of the token signs out. -/
def answered {β : Type} (parse : String → Except Json.Error β) (grant : β → Session) (a : Account) :
    Http.Answer → Account
  | .failed _ => a
  | .received status body =>
    if status = 401 then { a with session := none }
    else if 200 ≤ status ∧ status < 300 then
      match body with
      | .error _ => a
      | .ok text =>
        match parse text with
        | .error _ => a
        | .ok response => { a with session := some (grant response) }
    else a

/-- The value that was given, or the line that is typed for it, and the console behind it. -/
def heard (given : Option String) (c : Console) : Option String × Console :=
  match given with
  | some text => (some text, c)
  | none => (c.readLine.1.toOption, c.readLine.2)

/-- The account after a command, which found the console as it is and got an answer, if it sent
anything. -/
def after (a : Account) (console : Console) (answer? : Option Http.Answer) : Command → Account
  | .login email? =>
    match (heard email? console).1, answer? with
    | some email, some answer =>
      a.answered LoginResponse.parse (fun r => ⟨"1", email, none, r.token⟩) answer
    | _, _ => a
  | .register name? email? =>
    match heard name? console with
    | (name, console) =>
      match name, (heard email? console).1, answer? with
      | some name, some email, some answer =>
        a.answered RegisterResponse.parse
          (fun r => ⟨r.id.getD "1", email, some (Text.trim name), r.token⟩) answer
      | _, _, _ => a
  | .logout => { a with session := none }
  | .status _ => a
  | .theme .view => a
  | .theme .toggle => { a with mode := a.mode.toggled }
  | .theme (.set mode) => { a with mode := mode }

/-- What a command prints that asks for nothing. -/
def prints (a : Account) : Command → Option String
  | .login _ => none
  | .register _ _ => none
  | .logout => some (if a.session.isSome then "Signed out\n" else "Not signed in\n")
  | .status true =>
    match a.session with
    | none => some "null\n"
    | some s => some (s.redacted.toValue.pretty ++ "\n")
  | .status false =>
    match a.session with
    | none => some ("Not signed in\n" ++ "  stored session: no\n")
    | some s =>
      some (s!"Signed in as {s.displayName}\n" ++ s!"  email: {s.email}\n" ++
        s!"  id:    {s.id}\n" ++ "  stored session: yes\n")
  | .theme .view => some s!"Colour mode: {a.mode.label}\n"
  | .theme .toggle => some s!"Colour mode: {a.mode.toggled.label}\n"
  | .theme (.set mode) => some s!"Colour mode: {mode.label}\n"

/-! ## Stored accounts -/

/-- The account is what the stored texts say. -/
structure Holds (a : Account) (m : Texts) : Prop where
  session : m Session.key = a.session.map Session.render
  mode : m ColorMode.key = some a.mode.render ∨ m ColorMode.key = none ∧ a.mode = .initial

theorem holds_new : new.Holds Texts.empty :=
  ⟨rfl, .inr ⟨rfl, rfl⟩⟩

variable {a : Account} {m : Texts}

theorem Holds.put_session (h : a.Holds m) (s : Session) :
    { a with session := some s }.Holds (m.put Session.key s.render) where
  session := Texts.put_self ..
  mode := h.mode

theorem Holds.drop_session (h : a.Holds m) :
    { a with session := none }.Holds (m.drop Session.key) where
  session := Texts.drop_self ..
  mode := h.mode

theorem Holds.put_mode (h : a.Holds m) (mode : ColorMode) :
    { a with mode := mode }.Holds (m.put ColorMode.key mode.render) where
  session := h.session
  mode := .inl (Texts.put_self ..)

end Account

/-! ## Operations on stored accounts -/

namespace Account.Holds

open Program

variable {a : Account} {v w : Ledger}

/-- A new client takes the account that is stored into memory. -/
theorem leads_bootstrap (h : a.Holds v.texts) (hnew : v.session = none)
    {result : Except Error (Option Session)}
    (hleads : Program.Leads clientEffect Manager.bootstrap v result w) :
    result = .ok a.session ∧ w = v.withSession a.session := by
  rw [Manager.bootstrap, leads_exclusive, Manager.restore, leads_get_bind, h.session] at hleads
  cases hsession : a.session with
  | none =>
      rw [hsession] at hleads
      dsimp only [Option.map_none, Option.getD_none] at hleads
      split at hleads
      next =>
        rw [leads_report_bind] at hleads
        obtain ⟨rfl, rfl⟩ := Program.leads_pure.mp hleads
        exact ⟨rfl, by rw [Ledger.withSession, ← hnew]⟩
      next hfull => exact absurd rfl hfull
  | some s =>
      rw [hsession] at hleads
      dsimp only [Option.map_some, Option.getD_some] at hleads
      split at hleads
      next hempty => exact absurd hempty s.render_ne_empty
      next =>
        simp only [Session.parse_render, leads_report_bind, leads_writeSession_bind] at hleads
        exact Program.leads_pure.mp hleads

theorem leads_isAuthenticated (h : a.Holds v.texts) {authenticated : Bool}
    (hleads : Program.Leads clientEffect Auth.isAuthenticated v authenticated w) :
    authenticated = a.session.isSome ∧ w = v := by
  rw [Auth.isAuthenticated, leads_get_bind, h.session] at hleads
  cases hsession : a.session with
  | none =>
      rw [hsession] at hleads
      exact Program.leads_pure.mp hleads
  | some s =>
      rw [hsession] at hleads
      obtain ⟨rfl, rfl⟩ := Program.leads_pure.mp hleads
      exact ⟨bne_iff_ne.mpr s.render_ne_empty, rfl⟩

theorem leads_load (h : a.Holds v.texts) {mode : ColorMode}
    (hleads : Program.Leads clientEffect Preference.load v mode w) : mode = a.mode ∧ w = v := by
  rw [Preference.load, leads_get_bind] at hleads
  rcases h.mode with hmode | ⟨hmode, hinitial⟩
  · simp only [hmode, ColorMode.parse_render] at hleads
    exact Program.leads_pure.mp hleads
  · rw [hmode] at hleads
    rw [hinitial]
    exact Program.leads_pure.mp hleads

theorem leads_toggle (h : a.Holds v.texts) {result : Except StoreError ColorMode}
    (hleads : Program.Leads clientEffect Preference.toggle v result w) :
    result = .ok a.mode.toggled ∧ w = v.put ColorMode.key a.mode.toggled.render := by
  rw [Preference.toggle] at hleads
  obtain ⟨mode, u, hload, hset⟩ := Program.leads_bind.mp hleads
  obtain ⟨rfl, rfl⟩ := h.leads_load hload
  obtain ⟨done, u', hset, hdone⟩ := Program.leads_bind.mp hset
  obtain ⟨rfl, rfl⟩ := leads_setMode hset
  exact Program.leads_pure.mp hdone

/-! ## Signing in and registering -/

/-- A call that makes a value of an answer leaves the rest to be done with it; in any other case the
account is already what the answer makes of it. -/
theorem of_answer {β : Type} (h : a.Holds v.texts) (parse : String → Except Json.Error β)
    (grant : β → Session) (url : String) (answer : Http.Answer) :
    (∃ response, verdict parse url answer = .ok response ∧ v.heed answer = v ∧
        a.answered parse grant answer = { a with session := some (grant response) }) ∨
      (∃ e, verdict parse url answer = .error e) ∧
        (a.answered parse grant answer).Holds (v.heed answer).texts := by
  cases answer with
  | failed fault => exact .inr ⟨⟨_, rfl⟩, h⟩
  | received status body =>
      unfold answered
      rw [verdict, Ledger.heed]
      dsimp only
      by_cases hrefused : status = 401
      · subst hrefused
        exact .inr ⟨⟨_, rfl⟩, h.drop_session⟩
      · rw [if_neg hrefused, if_neg hrefused]
        have hsuccess : ApiClient.isSuccess status = true ↔ 200 ≤ status ∧ status < 300 := by
          simp [ApiClient.isSuccess]
        by_cases hrange : 200 ≤ status ∧ status < 300
        · rw [if_pos (hsuccess.mpr hrange), if_pos hrange]
          cases body with
          | error fault => exact .inr ⟨⟨_, rfl⟩, h⟩
          | ok text =>
              rw [ApiClient.decodeBody]
              dsimp only
              cases parse text with
              | error e => exact .inr ⟨⟨_, rfl⟩, h⟩
              | ok response => exact .inl ⟨response, rfl, rfl, rfl⟩
        · rw [if_neg (hrange ∘ hsuccess.mp), if_neg hrange]
          exact .inr ⟨⟨_, rfl⟩, h⟩

/-- A ledger after credentials were sent, or not sent, that holds what became of the account. -/
structure Entered {β : Type} (parse : String → Except Json.Error β) (grant : β → Session)
    (a : Account) (v w : Ledger) (answer? : Option Http.Answer) : Prop where
  console : w.console = v.console
  exchanges : w.exchanges.map Exchange.answer = v.exchanges.map Exchange.answer ++ answer?.toList
  holds : (answer?.elim a (a.answered parse grant)).Holds w.texts

/-- Signing in and registering end alike: what the server grants is established, and an error of the
call is rejected. -/
theorem entered_of_call {β : Type} (h : a.Holds v.texts) (url : String)
    {call : Operation (Except ApiError β)}
    {rest : Except ApiError β → Operation (Except Error Session)}
    {parse : String → Except Json.Error β} {grant : β → Session} {message email : String}
    (hcall : ∀ {result u}, Program.Leads clientEffect call v result u →
      (u = v ∧ ∃ e, result = .error e) ∨ ∃ request answer,
        result = verdict parse url answer ∧ u = (v.exchange request answer).heed answer)
    (hok : ∀ response, rest (.ok response) = Manager.establish (grant response))
    (herror : ∀ e, rest (.error e) = Manager.rejected message email e)
    {result : Except Error Session}
    (hleads : Program.Leads clientEffect (call >>= rest) v result w) :
    ∃ answer?, Entered parse grant a v w answer? := by
  obtain ⟨answered, u, hfirst, hlast⟩ := Program.leads_bind.mp hleads
  rcases hcall hfirst with ⟨rfl, e, rfl⟩ | ⟨request, answer, rfl, rfl⟩
  · rw [herror] at hlast
    obtain ⟨-, session, rfl⟩ := leads_rejected hlast
    exact ⟨none, rfl, (List.append_nil _).symm, h⟩
  · have hsent : a.Holds (v.exchange request answer).texts := h
    refine ⟨some answer, ?_⟩
    rcases hsent.of_answer parse grant url answer with
      ⟨response, hresponse, hheed, hanswered⟩ | ⟨⟨e, he⟩, hholds⟩
    · rw [hresponse, hok, hheed] at hlast
      obtain ⟨-, rfl⟩ := leads_establish hlast
      refine ⟨rfl, List.map_append .., ?_⟩
      rw [Option.elim_some, hanswered]
      exact h.put_session (grant response)
    · rw [he, herror] at hlast
      obtain ⟨-, session, rfl⟩ := leads_rejected hlast
      refine ⟨Ledger.console_heed .., ?_, hholds⟩
      exact (congrArg _ (Ledger.exchanges_heed ..)).trans (List.map_append ..)

theorem entered_of_signIn (h : a.Holds v.texts) {c : ApiClient} {credentials : Credentials}
    {result : Except Error Session}
    (hleads : Program.Leads clientEffect (Manager.signIn c credentials) v result w) :
    ∃ answer?, Entered LoginResponse.parse
      (fun r => ⟨"1", credentials.email, none, r.token⟩) a v w answer? := by
  rw [Manager.signIn, leads_exclusive] at hleads
  refine h.entered_of_call (c.urlText "/login") (fun hcall => ?_) (fun _ => rfl) (fun _ => rfl)
    hleads
  rw [Auth.login, leads_report_bind] at hcall
  exact leads_call hcall

theorem entered_of_registerUser (h : a.Holds v.texts) {c : ApiClient} {credentials : Credentials}
    {name : Option String} {result : Except Error Session}
    (hleads : Program.Leads clientEffect (Manager.registerUser c credentials name) v result w) :
    ∃ answer?, Entered RegisterResponse.parse
      (fun r => ⟨r.id.getD "1", credentials.email, name, r.token⟩) a v w answer? := by
  rw [Manager.registerUser, leads_exclusive] at hleads
  refine h.entered_of_call (c.urlText "/register") (fun hcall => ?_) (fun _ => rfl) (fun _ => rfl)
    hleads
  rw [Auth.register, leads_report_bind] at hcall
  exact leads_call hcall

end Account.Holds

end CommandLine

end SessionKeeper
