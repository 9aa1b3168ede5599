import SessionKeeper.Proofs.Api.Client
import SessionKeeper.Proofs.Manager.Work

/-!
# What requests carry

A call of the client sends one request or none. The request is made right after the stored session
was read, for a URL below the base of the client, and carries what the answer of the store gives.
This holds whatever the effects of the steps are, as long as the session is read as it is stored.
-/

namespace SessionKeeper

/-! ## Steps and turns -/

/-- Whether a step changes what is stored. -/
def ClientStep.changesStore : ClientStep → Bool
  | .set _ _ => true
  | .remove _ => true
  | _ => false

/-- Whether a step sends a request. -/
def ClientStep.sends : ClientStep → Bool
  | .send _ => true
  | _ => false

/-- A step that sends no request. -/
def ClientStep.Mute (step : ClientStep) : Prop :=
  step.sends = false

/-- A step that neither sends a request nor changes what is stored. -/
def ClientStep.Calm (step : ClientStep) : Prop :=
  step.Mute ∧ step.changesStore = false

/-- A step that asks nothing of the network and leaves the stored session alone. -/
def ClientStep.Local : ClientStep → Prop
  | .send _ => False
  | .receive _ => False
  | .set key _ => key ≠ Session.key
  | .remove key => key ≠ Session.key
  | _ => True

theorem ClientStep.Local.mute {step : ClientStep} (h : step.Local) : step.Mute := by
  cases step with
  | send => exact h.elim
  | _ => rfl

theorem ClientStep.Looks.calm {step : ClientStep} (h : step.Looks) : step.Calm := by
  cases step <;> first | exact h.elim | exact ⟨rfl, rfl⟩

theorem ClientStep.Looks.isLocal {step : ClientStep} (h : step.Looks) : step.Local := by
  cases step <;> first | exact h.elim | trivial

theorem ClientStep.Aside.mute {step : ClientStep} (h : step.Aside) : step.Mute := by
  cases step <;> first | exact h.elim | rfl

namespace Turn

/-- The request that is sent in a turn. -/
def request? : Turn clientSteps → Option Http.Request
  | ⟨.send request, _⟩ => some request
  | _ => none

/-- The requests that are sent in some turns. -/
def requests (turns : List (Turn clientSteps)) : List Http.Request :=
  turns.filterMap request?

/-- A reading of the store that failed. -/
def isFailedRead : Turn clientSteps → Bool
  | ⟨.get _, .error _⟩ => true
  | _ => false

/-- A call of the store that failed. -/
def isFailedCall : Turn clientSteps → Bool
  | ⟨.get _, .error _⟩ => true
  | ⟨.set _ _, .error _⟩ => true
  | ⟨.remove _, .error _⟩ => true
  | _ => false

theorem set_eq_ok {key value : String} {result : Except StoreError Unit}
    (h : isFailedCall ⟨.set key value, result⟩ = false) : result = .ok () := by
  cases result with
  | ok => rfl
  | error => cases h

theorem remove_eq_ok {key : String} {result : Except StoreError Unit}
    (h : isFailedCall ⟨.remove key, result⟩ = false) : result = .ok () := by
  cases result with
  | ok => rfl
  | error => cases h

theorem requests_append (first rest : List (Turn clientSteps)) :
    requests (first ++ rest) = requests first ++ requests rest :=
  List.filterMap_append

theorem request?_of_mute {t : Turn clientSteps} (h : t.step.Mute) : t.request? = none := by
  obtain ⟨step, answer⟩ := t
  cases step with
  | send => cases h
  | _ => rfl

theorem requests_eq_nil {turns : List (Turn clientSteps)}
    (h : ∀ t ∈ turns, t.step.Mute) : requests turns = [] :=
  List.filterMap_eq_nil_iff.mpr fun t ht => request?_of_mute (h t ht)

end Turn

/-- Effects under which the session is read as it is stored, and nothing but a change of the store
changes what is stored. -/
structure ClientStep.Reading {V : Type} (E : Effects clientSteps V) (stored : V → Option String) :
    Prop where
  get_eq : ∀ {v w text}, E (.get Session.key) v (.ok text) w → text = stored v
  stored_eq : ∀ {step v answer w}, step.changesStore = false → E step v answer w →
    stored w = stored v

theorem ClientStep.reading_effect :
    Reading ClientStep.effect fun v => v.texts Session.key where
  get_eq h := h.1
  stored_eq {step v answer w} hstep h := by
    cases step with
    | set => cases hstep
    | remove => cases hstep
    | readSession => rw [h.2]
    | writeSession => rw [h]
    | get key =>
        cases answer with
        | error e => rw [h]
        | ok text => rw [h.2]
    | _ => rw [h]

namespace Exposed

variable {σ : Type} [Store σ]

/-- The text that is stored as a session, if the store can be read. -/
def storedText (x : Exposed σ) : Option String :=
  match Store.get Session.key x.world.store with
  | .ok text => text
  | .error _ => none

/-- What a step does in an exposed world, to the letter. -/
def acts (σ : Type) [Store σ] : Effects clientSteps (Exposed σ) :=
  fun step x a y => answer step x = (a, y)

theorem runs_acts {α : Type} (op : Operation α) (x : Exposed σ) :
    Program.Runs (acts σ) op x (op.turns (handler σ) x) (run op x).1 (run op x).2 :=
  Program.runs_run (h := handler σ) id (fun _ _ => Prod.eta _) op x

theorem reading_acts : ClientStep.Reading (acts σ) storedText where
  get_eq {x y text} h := by
    simp only [acts, answer] at h
    split at h
    next => simp at h
    next =>
      have hget : Store.get Session.key x.world.store = .ok text := congrArg Prod.fst h
      rw [storedText, hget]
  stored_eq {step x a y} hstep h := by
    cases step with
    | set => cases hstep
    | remove => cases hstep
    | get key =>
        simp only [acts, answer] at h
        split at h <;> (cases h; rfl)
    | send request =>
        simp only [acts, answer] at h
        split at h <;> (cases h; rfl)
    | _ => cases h; rfl

end Exposed

/-! ## How requests are made -/

namespace ApiClient

open Program

/-- The authorization that an answer of the store gives. -/
def bearerOf : Except StoreError (Option String) → Option String
  | .ok (some stored) =>
    match storedToken stored with
    | .ok (some token) =>
      if token = "" then none
      else if Http.isHeaderValue (Http.bearer token) then some (Http.bearer token)
      else none
    | _ => none
  | _ => none

/-- A request that was made in some turns while `stored` was stored: for a URL below the base, with
the authorization that the answer to reading the session gives. -/
def MadeBy (c : ApiClient) (stored : Option String) (turns : List (Turn clientSteps))
    (request : Http.Request) : Prop :=
  ∃ method path url body answer, Url.parse (c.urlText path) = .ok url ∧
    ⟨.get Session.key, answer⟩ ∈ turns ∧ (∀ text, answer = .ok text → text = stored) ∧
    request = c.request method url (bearerOf answer) body

/-- Where no reading of the store failed, a request carries what is stored. -/
theorem MadeBy.of_reads {c : ApiClient} {stored : Option String} {turns : List (Turn clientSteps)}
    {request : Http.Request} (h : c.MadeBy stored turns request)
    (hreads : turns.any Turn.isFailedRead = false) :
    ∃ method path url body, Url.parse (c.urlText path) = .ok url ∧
      request = c.request method url (bearerOf (.ok stored)) body := by
  obtain ⟨method, path, url, body, answer, hurl, hmem, hstored, rfl⟩ := h
  cases answer with
  | error e =>
      have hfailed := List.any_eq_false.mp hreads _ hmem
      simp [Turn.isFailedRead] at hfailed
  | ok text => exact ⟨method, path, url, body, hurl, by rw [hstored text rfl]⟩

variable {α β V : Type} {E : Effects clientSteps V} {stored : V → Option String}

/-- In every run of the operation all requests are made by the client. -/
def Honest (c : ApiClient) (E : Effects clientSteps V) (stored : V → Option String)
    (op : Operation α) : Prop :=
  ∀ ⦃v turns a w⦄, Runs E op v turns a w →
    ∀ request ∈ Turn.requests turns, c.MadeBy (stored v) turns request

variable {c : ApiClient} {op : Operation α} {rest : α → Operation β}

theorem honest_of_mute (h : op.Within ClientStep.Mute) : c.Honest E stored op := by
  intro v turns a w hruns request hmem
  rw [Turn.requests_eq_nil (h.step_of_mem hruns)] at hmem
  cases hmem

/-! ## A call of the API -/

theorem runs_withoutToken_eq {message : String} {fields : List (String × String)} {v w : V}
    {turns : List (Turn clientSteps)} {token : Option String}
    (h : Runs E (withoutToken message fields) v turns token w) : token = none := by
  obtain ⟨_, _, _, _, -, -, hdone⟩ := runs_bind.mp h
  exact (runs_pure.mp hdone).2.1

theorem runs_authorizationOf_eq {text : String} {v w : V} {turns : List (Turn clientSteps)}
    {token : Option String} (h : Runs E (authorizationOf text) v turns token w) :
    token = bearerOf (.ok (some text)) := by
  unfold authorizationOf at h
  split at h
  next e he => rw [runs_withoutToken_eq h, bearerOf, he]
  next he => rw [(runs_pure.mp h).2.1, bearerOf, he]
  next token he =>
    rw [bearerOf, he]
    dsimp only
    split at h
    next hempty => rw [if_pos hempty, (runs_pure.mp h).2.1]
    next hfull =>
      rw [if_neg hfull]
      split at h
      next hlegal => rw [if_pos hlegal, (runs_pure.mp h).2.1]
      next hillegal => rw [if_neg hillegal, runs_withoutToken_eq h]

/-- The authorization is found by reading the session. -/
theorem runs_authorization_eq {v w : V} {turns : List (Turn clientSteps)} {token : Option String}
    (h : Runs E authorization v turns token w) :
    ∃ answer u, ⟨.get Session.key, answer⟩ ∈ turns ∧ E (.get Session.key) v answer u ∧
      token = bearerOf answer := by
  obtain ⟨answer, u, first, last, rfl, hget, hlast⟩ := runs_bind.mp h
  obtain ⟨rfl, heffect⟩ := runs_perform.mp hget
  refine ⟨answer, u, by simp, heffect, ?_⟩
  split at hlast
  next => exact runs_withoutToken_eq hlast
  next => exact (runs_pure.mp hlast).2.1
  next => exact runs_authorizationOf_eq hlast

/-- The request of a call that has found this authorization, if there is anywhere to send it. -/
def request? (c : ApiClient) (method : Http.Method) (path : String) (body token : Option String) :
    Option Http.Request :=
  match Url.parse (c.urlText path) with
  | .error _ => none
  | .ok url =>
    if (c.request method url token body).url.isSendable then some (c.request method url token body)
    else none

theorem exists_url_of_request? {c : ApiClient} {method : Http.Method} {path : String}
    {body token : Option String} {request : Http.Request}
    (h : c.request? method path body token = some request) :
    ∃ url, Url.parse (c.urlText path) = .ok url ∧ request = c.request method url token body := by
  rw [request?] at h
  split at h
  next => cases h
  next url hurl =>
    split at h
    next => exact ⟨url, hurl, (Option.some.inj h).symm⟩
    next => cases h

/-- Whatever its steps do, the operation sends one request and no other. The authorization is from
what is stored when it begins, unless that cannot be read. -/
def Sends (c : ApiClient) (method : Http.Method) (path : String) (body : Option String)
    (op : Operation α) : Prop :=
  ∀ ⦃V : Type⦄ ⦃E : Effects clientSteps V⦄ ⦃v turns a w⦄, Runs E op v turns a w →
    ∃ answer, ⟨.get Session.key, answer⟩ ∈ turns ∧
      (∀ ⦃stored : V → Option String⦄, ClientStep.Reading E stored →
        ∀ text, answer = .ok text → text = stored v) ∧
      Turn.requests turns = (c.request? method path body (bearerOf answer)).toList

variable {method : Http.Method} {path : String} {body : Option String}

/-- A call of the API sends its request once it has read the session. -/
theorem sends_call (c : ApiClient) (method : Http.Method) (path : String) (body : Option String)
    (parse : String → Except Json.Error α) :
    c.Sends method path body (c.call method path body parse) := by
  intro V E v turns result w h
  obtain ⟨_, u, announced, rest, rfl, hreport, hrest⟩ := runs_bind.mp h
  obtain ⟨rfl, hreported⟩ := runs_perform.mp hreport
  obtain ⟨token, u', looked, last, rfl, hlook, hlast⟩ := runs_bind.mp hrest
  obtain ⟨answer, _, hget, heffect, rfl⟩ := runs_authorization_eq hlook
  refine ⟨answer, by simp [hget], fun stored hreading text htext => ?_, ?_⟩
  · subst htext
    rw [hreading.get_eq heffect, hreading.stored_eq rfl hreported]
  · have hnothing := Turn.requests_eq_nil fun t ht =>
      (looks_authorization.step_of_mem hlook t ht).calm.1
    rw [Turn.requests_append, Turn.requests_append, hnothing, request?]
    cases hurl : Url.parse (c.urlText path) with
    | error e =>
        simp only [hurl] at hlast ⊢
        obtain ⟨rfl, -, -⟩ := runs_pure.mp hlast
        rfl
    | ok url =>
        simp only [hurl] at hlast ⊢
        split at hlast
        next hsendable =>
          obtain ⟨ticket, _, sent, last, rfl, hsend, hsent⟩ := runs_bind.mp hlast
          obtain ⟨rfl, -⟩ := runs_perform.mp hsend
          have hsilent : (Operation.receive ticket >>= handle parse (c.urlText path) :
              Operation (Except ApiError α)).Within ClientStep.Mute :=
            .bind (.perform rfl) fun answer => (aside_handle ..).mono fun _ h => h.mute
          rw [Turn.requests_append, Turn.requests_eq_nil (hsilent.step_of_mem hsent),
            if_pos hsendable]
          rfl
        next hunsendable =>
          obtain ⟨rfl, -, -⟩ := runs_pure.mp hlast
          rw [if_neg hunsendable]
          rfl

/-- What neither sends nor changes the store may come first. -/
theorem Sends.behind (hfirst : op.Within ClientStep.Calm)
    (hrest : ∀ a, c.Sends method path body (rest a)) : c.Sends method path body (op >>= rest) := by
  intro V E v turns b w hruns
  obtain ⟨a, u, first, last, rfl, hop, hlast⟩ := runs_bind.mp hruns
  obtain ⟨answer, hget, hstored, hrequests⟩ := hrest a hlast
  refine ⟨answer, List.mem_append_right first hget, fun stored hreading text htext => ?_, ?_⟩
  · rw [hstored hreading text htext]
    exact hfirst.view_eq stored (fun hstep heffect => hreading.stored_eq hstep.2 heffect) hop
  · have hnothing := Turn.requests_eq_nil fun t ht => (hfirst.step_of_mem hop t ht).1
    rw [Turn.requests_append, hnothing, List.nil_append, hrequests]

/-- What does not send may come last. -/
theorem Sends.before (hop : c.Sends method path body op)
    (hrest : ∀ a, (rest a).Within ClientStep.Mute) : c.Sends method path body (op >>= rest) := by
  intro V E v turns b w hruns
  obtain ⟨a, u, first, last, rfl, hfirst, hlast⟩ := runs_bind.mp hruns
  obtain ⟨answer, hget, hstored, hrequests⟩ := hop hfirst
  refine ⟨answer, List.mem_append_left last hget, hstored, ?_⟩
  have hnothing := Turn.requests_eq_nil ((hrest a).step_of_mem hlast)
  rw [Turn.requests_append, hnothing, List.append_nil, hrequests]

/-- The one request is made by the client. -/
theorem Sends.honest (h : c.Sends method path body op) (hreading : ClientStep.Reading E stored) :
    c.Honest E stored op := by
  intro v turns a w hruns request hmem
  obtain ⟨answer, hget, hstored, hrequests⟩ := h hruns
  rw [hrequests, Option.mem_toList] at hmem
  obtain ⟨url, hurl, rfl⟩ := exists_url_of_request? hmem
  exact ⟨method, path, url, body, answer, hurl, hget, hstored hreading, rfl⟩

end ApiClient

/-! ## Operations of the manager -/

namespace Manager

open ApiClient Program

variable {α : Type}

theorem local_expireIfUnauthorized (e : ApiError) :
    (expireIfUnauthorized e).Within ClientStep.Local := by
  unfold expireIfUnauthorized
  split
  next => exact within_guarded (looks_dropSession.mono fun _ h => h.isLocal) trivial trivial
  next => exact .pure _

theorem mute_signOut : signOut.Within ClientStep.Mute :=
  within_exclusive (aside_departure.mono fun _ h => h.mute) rfl rfl fun _ => rfl

theorem sends_exclusive {c : ApiClient} {method : Http.Method} {path : String}
    {body : Option String} {op : Operation α} (h : c.Sends method path body op) :
    c.Sends method path body (exclusive op) := by
  refine .behind (.perform ⟨rfl, rfl⟩) fun _ => .before (.behind (.perform ⟨rfl, rfl⟩)
    fun _ => .before h fun _ => ?_) fun _ => ?_
  · exact .bind (.perform rfl) fun _ => .pure _
  · exact .bind (.perform rfl) fun _ => .pure _

theorem sends_login (c : ApiClient) (credentials : Credentials) :
    c.Sends .post "/login" (some credentials.toValue.compact) (Auth.login c credentials) :=
  .behind (.perform ⟨rfl, rfl⟩) fun _ => sends_call ..

theorem sends_register (c : ApiClient) (credentials : Credentials) :
    c.Sends .post "/register" (some credentials.toValue.compact) (Auth.register c credentials) :=
  .behind (.perform ⟨rfl, rfl⟩) fun _ => sends_call ..

/-- The manager sends what the call of the server sends, and nothing once that is answered. -/
theorem sends_entry {c : ApiClient} {method : Http.Method} {path : String} {body : Option String}
    {call : Operation (Except ApiError α)}
    {rest : Except ApiError α → Operation (Except Error Session)} {granted : α → Session}
    {message email : String} (hcall : c.Sends method path body call)
    (hok : ∀ response, rest (.ok response) = establish (granted response))
    (herror : ∀ e, rest (.error e) = rejected message email e) :
    c.Sends method path body (exclusive (call >>= rest)) :=
  sends_exclusive <| .before hcall fun answer =>
    (aside_behind hok herror answer).mono fun _ h => h.mute

end Manager

/-! ## All calls -/

namespace Preference

open Program

theorem key_ne_sessionKey : ColorMode.key ≠ Session.key := by
  decide

/-- Work on the colour preference asks nothing of the network and leaves the stored session
alone. -/
theorem local_of_ofPreference {step : ClientStep} (h : step.OfPreference) : step.Local := by
  cases step with
  | set key value =>
      obtain rfl : key = ColorMode.key := h
      exact key_ne_sessionKey
  | get => trivial
  | report => trivial
  | _ => exact h.elim

end Preference

namespace Call

open ApiClient Program

/-- Whether a call asks nothing of the network and leaves the stored session alone. -/
def isLocal : Call → Bool
  | .signIn _ => false
  | .registerUser _ _ => false
  | .signOut => false
  | .login _ => false
  | .register _ => false
  | .logout => false
  | .get _ => false
  | .post _ _ => false
  | .setKey key _ => key != Session.key
  | .removeKey key => key != Session.key
  | _ => true

theorem local_operation (c : ApiClient) {call : Call} (h : call.isLocal = true) :
    (call.operation c).Within ClientStep.Local := by
  cases call with
  | bootstrap =>
      exact .bind (Manager.within_exclusive
        (Manager.looks_restore.mono fun _ h => h.isLocal) trivial trivial fun _ => trivial)
        fun _ => .pure _
  | expire =>
      refine .bind (.perform trivial) fun e => ?_
      split
      next => exact .pure _
      next => exact .bind (Manager.local_expireIfUnauthorized _) fun _ => .pure _
  | current => exact .bind (.perform trivial) fun _ => .pure _
  | isSignedIn => exact .bind (.bind (.perform trivial) fun _ => .pure _) fun _ => .pure _
  | isLoading => exact .bind (.perform trivial) fun _ => .pure _
  | isAuthenticated =>
      exact .bind (Auth.looks_isAuthenticated.mono fun _ h => h.isLocal) fun _ => .pure _
  | loadMode =>
      exact (ofPreference_operation c rfl).mono fun _ => Preference.local_of_ofPreference
  | toggleMode =>
      exact (ofPreference_operation c rfl).mono fun _ => Preference.local_of_ofPreference
  | setMode mode =>
      exact (ofPreference_operation c rfl).mono fun _ => Preference.local_of_ofPreference
  | getKey key => exact .bind (.perform trivial) fun _ => .pure _
  | setKey key value => exact .bind (.perform (bne_iff_ne.mp h)) fun _ => .pure _
  | removeKey key => exact .bind (.perform (bne_iff_ne.mp h)) fun _ => .pure _
  | _ => cases h

/-- The request that a call sends, but for its authorization: the method, the path and the body. -/
def request? : Call → Option (Http.Method × String × Option String)
  | .signIn credentials => some (.post, "/login", some credentials.toValue.compact)
  | .registerUser credentials _ => some (.post, "/register", some credentials.toValue.compact)
  | .login credentials => some (.post, "/login", some credentials.toValue.compact)
  | .register credentials => some (.post, "/register", some credentials.toValue.compact)
  | .get path => some (.get, path, none)
  | .post path body => some (.post, path, some body.normalized.compact)
  | _ => none

theorem sends_operation (c : ApiClient) {call : Call} {method : Http.Method} {path : String}
    {body : Option String} (h : call.request? = some (method, path, body)) :
    c.Sends method path body (call.operation c) := by
  cases call with
  | signIn =>
      cases h
      exact .before (Manager.sends_entry (Manager.sends_login ..) (fun _ => rfl) fun _ => rfl)
        fun _ => .pure _
  | registerUser =>
      cases h
      exact .before (Manager.sends_entry (Manager.sends_register ..) (fun _ => rfl) fun _ => rfl)
        fun _ => .pure _
  | login =>
      cases h
      exact .before (Manager.sends_login ..) fun _ => .pure _
  | register =>
      cases h
      exact .before (Manager.sends_register ..) fun _ => .pure _
  | get =>
      cases h
      exact .before (sends_call ..) fun _ => .pure _
  | post =>
      cases h
      exact .before (sends_call ..) fun _ => .pure _
  | _ => cases h

/-- Every other call sends nothing. -/
theorem mute_operation (c : ApiClient) {call : Call} (h : call.request? = none) :
    (call.operation c).Within ClientStep.Mute := by
  by_cases hlocal : call.isLocal = true
  · exact (local_operation c hlocal).mono fun _ => ClientStep.Local.mute
  · cases call with
    | signOut => exact .bind Manager.mute_signOut fun _ => .pure _
    | logout => exact .bind (.perform rfl) fun _ => .pure _
    | setKey => exact .bind (.perform rfl) fun _ => .pure _
    | removeKey => exact .bind (.perform rfl) fun _ => .pure _
    | signIn => cases h
    | registerUser => cases h
    | login => cases h
    | register => cases h
    | get => cases h
    | post => cases h
    | _ => exact absurd rfl hlocal

/-- The error of a reply is noted without a request. -/
theorem mute_note (reply : Reply) :
    (match reply.apiError? with
      | none => pure reply
      | some e => Operation.noteError e >>= fun _ => pure reply : Operation Reply).Within
        ClientStep.Mute := by
  split
  next => exact .pure _
  next => exact .bind (.perform rfl) fun _ => .pure _

theorem sends_noting (c : ApiClient) {call : Call} {method : Http.Method} {path : String}
    {body : Option String} (h : call.request? = some (method, path, body)) :
    c.Sends method path body (call.noting c) :=
  .before (sends_operation c h) fun _ => mute_note _

variable {V : Type} {E : Effects clientSteps V} {stored : V → Option String}

/-- The turns that a call takes. -/
def turns {σ : Type} [Store σ] (c : ApiClient) (call : Call) (x : Exposed σ) :
    List (Turn clientSteps) :=
  (call.noting c).turns (Exposed.handler σ) x

/-- Whatever is called, requests are made with the session that is stored when the call begins. -/
theorem honest_noting (hreading : ClientStep.Reading E stored) (c : ApiClient) (call : Call) :
    c.Honest E stored (call.noting c) := by
  cases h : call.request? with
  | none => exact honest_of_mute (.bind (mute_operation c h) fun _ => mute_note _)
  | some request => exact (sends_noting c h).honest hreading

end Call

end SessionKeeper
