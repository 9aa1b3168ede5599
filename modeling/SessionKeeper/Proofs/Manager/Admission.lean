import SessionKeeper.Proofs.Api.Requests
import SessionKeeper.Proofs.Manager.History
import SessionKeeper.Proofs.Session

/-!
# Signing in is all or nothing

Signing in and registering each make one request and change two things, the store and the session in
memory. Either both come to hold the session that the answer grants, or, if the server refuses the
credentials, memory is left without a session and the store is asked to drop its own, or nothing has
changed.
-/

namespace SessionKeeper

open Program

/-! ## Runs to the letter -/

namespace Exposed

variable {σ α β : Type} [Store σ]

/-- The world while an operation is under way. -/
def busy (x : Exposed σ) : Exposed σ :=
  { x with world := { x.world with held := true, loading := true } }

/-- The world after an operation. -/
def idle (x : Exposed σ) : Exposed σ :=
  { x with world := { x.world with held := false, loading := false } }

theorem run_bind (op : Operation α) (rest : α → Operation β) (x : Exposed σ) :
    run (op >>= rest) x = run (rest (run op x).1) (run op x).2 :=
  Program.run_bind _ op rest x

/-- What holds the guard is done in a busy world and leaves it idle. -/
theorem run_exclusive (op : Operation α) (x : Exposed σ) :
    run (Manager.exclusive op) x = ((run op x.busy).1, (run op x.busy).2.idle) := by
  rw [Manager.exclusive, Manager.guarded]
  simp only [run_bind]
  rfl

theorem turns_exclusive (op : Operation α) (x : Exposed σ) :
    (Manager.exclusive op).turns (handler σ) x =
      [⟨.acquire, ()⟩, ⟨.setLoading true, ()⟩] ++ (op.turns (handler σ) x.busy ++
        [⟨.setLoading false, ()⟩, ⟨.release, ()⟩]) := by
  rw [Manager.exclusive, Manager.guarded]
  simp only [turns_bind, List.append_assoc]
  rfl

theorem alike_exclusive (op : Operation α) (x : Exposed σ) :
    Turn.Alike (op.turns (handler σ) x.busy) ((Manager.exclusive op).turns (handler σ) x) := by
  have hfirst : Turn.Silent [⟨.acquire, ()⟩, ⟨.setLoading true, ()⟩] := ⟨rfl, rfl⟩
  have hlast : Turn.Silent [⟨.setLoading false, ()⟩, ⟨.release, ()⟩] := ⟨rfl, rfl⟩
  exact turns_exclusive op x ▸ Turn.alike_around hfirst hlast _

/-- To the letter, a step acts within its effect. -/
theorem effect_of_acts [LawfulStore σ] {step : ClientStep} {x y : Exposed σ} {a : step.Answer}
    (h : acts σ step x a y) : step.effect x.holdings a y.holdings := by
  have heffect := effect_answer step x
  rwa [h] at heffect

theorem exchanges_of_aside {step : ClientStep} (hstep : step.Aside) {x y : Exposed σ}
    {a : step.Answer} (h : acts σ step x a y) : y.world.exchanges = x.world.exchanges := by
  have hkept : (answer step x).2.world.exchanges = x.world.exchanges := by
    cases step with
    | get => rw [answer]; split <;> rfl
    | set => rw [answer]; split <;> rfl
    | remove => rw [answer]; split <;> rfl
    | readSession => rfl
    | writeSession => rfl
    | report => rfl
    | _ => exact hstep.elim
  rwa [h] at hkept

end Exposed

/-! ## What an answer amounts to -/

namespace ApiClient

variable {σ α : Type}

/-- The result that an answer amounts to. -/
def resultOf (parse : String → Except Json.Error α) (url : String) :
    Http.Answer → Except ApiError α
  | .failed fault => .error (.network fault)
  | .received status body =>
    if isSuccess status then decodeBody parse url body
    else .error (.ofStatus status (bodyText body))

theorem resultOf_eq_ok {parse : String → Except Json.Error α} {url : String}
    {answer : Http.Answer} {a : α} (h : resultOf parse url answer = .ok a) :
    ∃ status text, answer = .received status (.ok text) ∧ isSuccess status = true ∧
      parse text = .ok a := by
  cases answer with
  | failed fault => cases h
  | received status body =>
      rw [resultOf] at h
      split at h
      next hsuccess =>
        cases body with
        | error fault => cases h
        | ok text =>
            rw [decodeBody] at h
            split at h
            next b hparse =>
              cases h
              exact ⟨status, text, rfl, hsuccess, hparse⟩
            next => cases h
      next => cases h

theorem runs_handle_eq {V : Type} {E : Effects clientSteps V}
    {parse : String → Except Json.Error α} {url : String} {answer : Http.Answer} {v w : V}
    {turns : List (Turn clientSteps)} {result : Except ApiError α}
    (h : Runs E (handle parse url answer) v turns result w) :
    result = resultOf parse url answer := by
  unfold handle at h
  split at h
  next => exact (runs_pure.mp h).2.1
  next status body =>
    rw [resultOf]
    split at h
    next hsuccess =>
      rw [if_pos hsuccess]
      exact (runs_pure.mp h).2.1
    next hfailure =>
      rw [if_neg hfailure]
      unfold refuse at h
      split at h
      next =>
        obtain ⟨_, _, _, _, -, -, hdone⟩ := runs_bind.mp h
        exact (runs_pure.mp hdone).2.1
      next => exact (runs_pure.mp h).2.1

/-- One request was answered between two worlds, and the answer amounts to the result; or none was
made, for want of a URL. -/
def Answered (parse : String → Except Json.Error α) (url : String) (x y : Exposed σ)
    (result : Except ApiError α) : Prop :=
  (∃ request answer, y.world.exchanges = x.world.exchanges ++ [⟨request, answer⟩] ∧
    result = resultOf parse url answer) ∨
  y.world.exchanges = x.world.exchanges ∧ ∃ e, result = .error (.network (.badUrl e))

variable {parse : String → Except Json.Error α} {url : String} {x y u : Exposed σ}
  {result : Except ApiError α}

theorem Answered.behind (h : Answered parse url u y result)
    (hfirst : u.world.exchanges = x.world.exchanges) : Answered parse url x y result := by
  rwa [Answered, hfirst] at h

variable [Store σ]

/-- What is sent and waited for is the one request that is answered. -/
theorem acts_send {request : Http.Request} {ticket : Nat} {answer : Http.Answer}
    (hsend : Exposed.acts σ (.send request) x ticket u)
    (hreceive : Exposed.acts σ (.receive ticket) u answer y) :
    y.world.exchanges = x.world.exchanges ++ [⟨request, answer⟩] := by
  obtain ⟨hticket, sent, hsent⟩ : ticket = x.world.exchanges.length ∧
      ∃ sent, u.world.exchanges = x.world.exchanges ++ [⟨request, sent⟩] := by
    simp only [Exposed.acts, Exposed.answer] at hsend
    split at hsend
    next =>
      cases hsend
      exact ⟨rfl, _, rfl⟩
    next =>
      cases hsend
      exact ⟨rfl, _, rfl⟩
  obtain ⟨hanswer, hy⟩ := Prod.mk.inj hreceive
  -- the ticket is the place of the latest exchange
  have hfound : u.world.answer ticket = sent := by
    rw [World.answer, hsent, hticket, List.getElem?_concat_length]
  have hkept : y.world.exchanges = u.world.exchanges :=
    congrArg (fun x : Exposed σ => x.world.exchanges) hy.symm
  rw [hkept, hsent, ← hfound]
  exact congrArg (fun answer => _ ++ [Exchange.mk request answer]) hanswer

theorem answered_call {c : ApiClient} {method : Http.Method} {path : String} {body : Option String}
    {turns : List (Turn clientSteps)}
    (h : Runs (Exposed.acts σ) (c.call method path body parse) x turns result y) :
    Answered parse (c.urlText path) x y result := by
  have hlooks {β : Type} {op : Operation β} (hop : op.Within ClientStep.Looks) {x y : Exposed σ}
      {turns : List (Turn clientSteps)} {b : β} (h : Runs (Exposed.acts σ) op x turns b y) :
      y.world.exchanges = x.world.exchanges :=
    hop.view_eq (fun x : Exposed σ => x.world.exchanges)
      (fun hstep hact => Exposed.exchanges_of_aside hstep.aside hact) h
  obtain ⟨_, u₁, first, rest, rfl, hreport, hrest⟩ := runs_bind.mp h
  obtain ⟨rfl, hreported⟩ := runs_perform.mp hreport
  obtain ⟨token, u₂, second, rest, rfl, hlooked, hrest⟩ := runs_bind.mp hrest
  refine Answered.behind (u := u₂) ?_ ((hlooks looks_authorization hlooked).trans ?_)
  · split at hrest
    next e _ =>
      obtain ⟨rfl, rfl, rfl⟩ := runs_pure.mp hrest
      exact .inr ⟨rfl, _, rfl⟩
    next target _ =>
      dsimp only at hrest
      split at hrest
      next =>
        obtain ⟨ticket, u₃, third, rest, rfl, hsend, hticket⟩ := runs_bind.mp hrest
        obtain ⟨rfl, hsent⟩ := runs_perform.mp hsend
        obtain ⟨answer, u₄, fourth, rest, rfl, hreceive, hhandle⟩ := runs_bind.mp hticket
        obtain ⟨rfl, hreceived⟩ := runs_perform.mp hreceive
        have hhandled : y.world.exchanges = u₄.world.exchanges :=
          (aside_handle parse (c.urlText path) answer).view_eq
            (fun x : Exposed σ => x.world.exchanges)
            (fun hstep hact => Exposed.exchanges_of_aside hstep hact) hhandle
        exact .inl ⟨_, answer, hhandled.trans (acts_send hsent hreceived), runs_handle_eq hhandle⟩
      next =>
        obtain ⟨rfl, rfl, rfl⟩ := runs_pure.mp hrest
        exact .inr ⟨rfl, _, rfl⟩
  · exact congrArg (fun w : Unit × Exposed σ => w.2.world.exchanges) hreported.symm

end ApiClient

/-! ## The two calls -/

/-- Whether an error is that of credentials or a token that the server refused. -/
def Error.isRefusal (e : Error) : Bool :=
  e.api?.any ApiError.isUnauthorized

/-- A call that signs somebody in. -/
inductive Admission
  | signIn (credentials : Credentials)
  | registerUser (credentials : Credentials) (name : Option String)

namespace Admission

/-- The operation of a call. -/
def operation (c : ApiClient) : Admission → Operation (Except Error Session)
  | .signIn credentials => Manager.signIn c credentials
  | .registerUser credentials name => Manager.registerUser c credentials name

/-- The session that the body of a success grants: it has the email given and the token of the body.
One that was registered has the name given, and the id of the body if there is one. -/
def granted : Admission → String → Except Json.Error Session
  | .signIn credentials, body =>
    (LoginResponse.parse body).map fun response =>
      ⟨Session.placeholderId, credentials.email, none, response.token⟩
  | .registerUser credentials name, body =>
    (RegisterResponse.parse body).map fun response =>
      ⟨response.id.getD Session.placeholderId, credentials.email, name, response.token⟩

variable {σ : Type} [Store σ] [LawfulStore σ]

/-- Somebody was signed in between two worlds. The session is the one that the answer to the one
request grants, it is in memory and stored, and no other text has changed. -/
structure Established (granted : String → Except Json.Error Session) (x y : Exposed σ)
    (s : Session) : Prop where
  answered : ∃ request status body,
    y.world.exchanges = x.world.exchanges ++ [⟨request, .received status (.ok body)⟩] ∧
      ApiClient.isSuccess status = true ∧ granted body = .ok s
  current : y.world.session = some s
  stored : ∃ text, y.holdings.texts Session.key = some text ∧ Session.parse text = .ok s
  others : ∀ key, key ≠ Session.key → y.holdings.texts key = x.holdings.texts key

/-- How a call that signs somebody in may leave things: they are signed in; or the server refused
them, which leaves nobody in memory and nothing stored as a session unless the removal failed; or
another error has changed nothing. -/
def Settled (granted : String → Except Json.Error Session) (x y : Exposed σ)
    (turns : List (Turn clientSteps)) : Except Error Session → Prop
  | .ok s => Established granted x y s
  | .error e =>
    if e.isRefusal then
      y.world.session = none ∧ y.holdings.texts =
        if turns.any Turn.isFailedRemoval then x.holdings.texts
        else x.holdings.texts.drop Session.key
    else y.holdings = x.holdings

end Admission

/-! ## How they end -/

namespace Manager

variable {σ α : Type} {v w : Holdings} {turns : List (Turn clientSteps)}
  {result : Except Error Session}

/-- A session is established whole or not at all. -/
theorem runs_establish_eq {s : Session}
    (h : Runs ClientStep.effect (establish s) v turns result w) :
    result = .ok s ∧ w = ⟨v.texts.put Session.key s.render, some s⟩ ∨
      (∃ e, result = .error (.storage e) ∧ ⟨.set Session.key s.render, .error e⟩ ∈ turns) ∧
        w = v := by
  obtain ⟨written, u, first, rest, rfl, hset, hrest⟩ := runs_bind.mp h
  obtain ⟨rfl, heffect⟩ := runs_perform.mp hset
  cases written with
  | error e =>
      obtain rfl : u = v := heffect
      obtain ⟨rfl, rfl, rfl⟩ := runs_pure.mp hrest
      exact .inr ⟨⟨e, rfl, List.mem_cons_self⟩, rfl⟩
  | ok _ =>
      obtain rfl : u = { v with texts := v.texts.put Session.key s.render } := heffect
      obtain ⟨rest, rfl, hreported⟩ := Operation.runs_writeSession_bind hrest
      obtain ⟨rest, rfl, hdone⟩ := Operation.runs_report_bind hreported
      obtain ⟨rfl, rfl, rfl⟩ := runs_pure.mp hdone
      exact .inl ⟨rfl, rfl⟩

variable [Store σ] [LawfulStore σ] {x y : Exposed σ}

/-- Signing in and registering settle alike what they call the server with. -/
theorem settled_of_call {call : Operation (Except ApiError α)}
    {rest : Except ApiError α → Operation (Except Error Session)} {grant : α → Session}
    {message email url : String} {parse : String → Except Json.Error α}
    (hcall : ∀ {x u : Exposed σ} {turns a}, Runs (Exposed.acts σ) call x turns a u →
      ApiClient.Answered parse url x u a ∧ ApiClient.Outcome x.holdings turns a u.holdings)
    (hok : ∀ response, rest (.ok response) = establish (grant response))
    (herror : ∀ e, rest (.error e) = rejected message email e)
    (h : Runs (Exposed.acts σ) (call >>= rest) x turns result y) :
    Admission.Settled (fun body => (parse body).map grant) x y turns result := by
  obtain ⟨called, u, first, last, rfl, hfirst, hlast⟩ := runs_bind.mp h
  obtain ⟨hanswered, houtcome⟩ := hcall hfirst
  have hexchanges : y.world.exchanges = u.world.exchanges :=
    (aside_behind hok herror called).view_eq (fun x : Exposed σ => x.world.exchanges)
      (fun hstep hact => Exposed.exchanges_of_aside hstep hact) hlast
  have heffect := hlast.image Exposed.holdings Exposed.effect_of_acts
  cases called with
  | ok response =>
      have hkept : u.holdings = x.holdings := by
        generalize u.holdings = v at houtcome
        cases houtcome with
        | plain => rfl
      rw [hok, hkept] at heffect
      rcases runs_establish_eq heffect with ⟨rfl, hy⟩ | ⟨⟨e, rfl, -⟩, hy⟩
      · have htexts : y.holdings.texts = x.holdings.texts.put Session.key (grant response).render :=
          congrArg Holdings.texts hy
        refine ⟨?_, congrArg Holdings.session hy, ⟨(grant response).render, ?_,
          (grant response).parse_render⟩, fun key hkey => ?_⟩
        · rcases hanswered with ⟨request, answer, hsent, hresult⟩ | ⟨-, e, hresult⟩
          · obtain ⟨status, body, rfl, hsuccess, hparse⟩ := ApiClient.resultOf_eq_ok hresult.symm
            exact ⟨request, status, body, hexchanges.trans hsent, hsuccess, by rw [hparse]; rfl⟩
          · cases hresult
        · rw [htexts, Texts.put_self]
        · rw [htexts]
          exact if_neg hkey
      · exact hy
  | error e =>
      rw [herror] at heffect
      obtain ⟨rfl, hy, hsilent⟩ := runs_rejected heffect
      have hrefusal : (Error.api e).isRefusal = e.isUnauthorized := rfl
      have hlate : last.any Turn.isFailedRemoval = false := hsilent.2
      rw [Admission.Settled, hrefusal]
      have hsession {v : Holdings} (h : y.holdings = v.leave) : y.world.session = none :=
        congrArg Holdings.session h
      have htexts {v : Holdings} (h : y.holdings = v.leave) : y.holdings.texts = v.texts :=
        (congrArg Holdings.texts h :)
      generalize u.holdings = v at houtcome hy
      cases houtcome with
      | plain hquiet hother =>
          rw [hother e rfl, if_neg Bool.false_ne_true] at hy ⊢
          exact hy
      | forgotten _ hremoval hunauthorized =>
          rw [hunauthorized, if_pos rfl] at hy ⊢
          rw [List.any_append, hremoval, hlate]
          exact ⟨hsession hy, htexts hy⟩
      | kept _ hremoval hunauthorized =>
          rw [hunauthorized, if_pos rfl] at hy ⊢
          rw [List.any_append, hremoval]
          exact ⟨hsession hy, htexts hy⟩

end Manager

namespace Auth

variable {σ : Type} [Store σ] {c : ApiClient} {x y : Exposed σ}
  {turns : List (Turn clientSteps)}

/-- A report in front of a call of the API changes nothing about its answer. -/
theorem answered_of_report {α : Type} {level : Level} {message path : String}
    {fields : List (String × String)} {body : Json.Value} {parse : String → Except Json.Error α}
    {result : Except ApiError α}
    (h : Runs (Exposed.acts σ) (do
      Operation.report level message fields
      c.post path body parse) x turns result y) :
    ApiClient.Answered parse (c.urlText path) x y result := by
  obtain ⟨_, u, first, rest, rfl, hreport, hpost⟩ := runs_bind.mp h
  obtain ⟨-, hreported⟩ := runs_perform.mp hreport
  refine (ApiClient.answered_call hpost).behind ?_
  exact congrArg (fun w : Unit × Exposed σ => w.2.world.exchanges) hreported.symm

end Auth

namespace Admission

variable {σ : Type} [Store σ] [LawfulStore σ]

/-- Holding the guard makes no difference to what a call settles. -/
theorem Settled.exclusive {granted : String → Except Json.Error Session} {x u : Exposed σ}
    {turns others : List (Turn clientSteps)} {result : Except Error Session}
    (h : Settled granted x.busy u turns result) (halike : Turn.Alike turns others) :
    Settled granted x u.idle others result := by
  cases result with
  | ok s => exact ⟨h.answered, h.current, h.stored, h.others⟩
  | error e =>
      rw [Settled, halike.2] at h
      exact h

theorem settled_of_exclusive {granted : String → Except Json.Error Session}
    {op : Operation (Except Error Session)}
    (hop : ∀ {x y : Exposed σ} {turns result}, Runs (Exposed.acts σ) op x turns result y →
      Settled granted x y turns result) (x : Exposed σ) :
    (Exposed.run (Manager.exclusive op) x).2.world.loading = false ∧
      Settled granted x (Exposed.run (Manager.exclusive op) x).2
        ((Manager.exclusive op).turns (Exposed.handler σ) x)
        (Exposed.run (Manager.exclusive op) x).1 := by
  rw [Exposed.run_exclusive]
  exact ⟨rfl, (hop (Exposed.runs_acts op x.busy)).exclusive (Exposed.alike_exclusive op x)⟩

/-- Signing in and registering are all or nothing, whatever was stored or in memory, whatever the
server answers and whichever calls of the store fail. Either the session that the answer grants is
given, and it is in memory and stored; or the error says that the server refused the credentials,
nobody is in memory and nothing is stored as a session unless the removal itself failed; or there is
another error and neither memory nor any text has changed. No other text changes in any case, and
then no operation is under way. -/
theorem all_or_nothing (c : ApiClient) (a : Admission) {x y : Exposed σ}
    {result : Except Error Session} (hrun : Exposed.run (a.operation c) x = (result, y)) :
    y.world.loading = false ∧
      Settled a.granted x y ((a.operation c).turns (Exposed.handler σ) x) result := by
  obtain ⟨rfl, rfl⟩ := Prod.mk.inj hrun.symm
  cases a with
  | signIn credentials =>
      refine settled_of_exclusive (fun hop => ?_) x
      exact Manager.settled_of_call (fun h => ⟨Auth.answered_of_report h,
        Manager.runs_login (h.image Exposed.holdings Exposed.effect_of_acts)⟩)
        (fun _ => rfl) (fun _ => rfl) hop
  | registerUser credentials name =>
      refine settled_of_exclusive (fun hop => ?_) x
      exact Manager.settled_of_call (fun h => ⟨Auth.answered_of_report h,
        Manager.runs_register (h.image Exposed.holdings Exposed.effect_of_acts)⟩)
        (fun _ => rfl) (fun _ => rfl) hop

/-- Somebody registers, the server grants a token, and they are in memory under the name given. -/
theorem all_or_nothing_of_grant :
    (Exposed.run (operation Sample.client (.registerUser Sample.credentials (some "Eve")))
      (Sample.sound [Sample.grant])).2.world.session = some ⟨"1", "mail", some "Eve", "t"⟩ := by
  have hresult : (Exposed.run
      (operation Sample.client (.registerUser Sample.credentials (some "Eve")))
      (Sample.sound [Sample.grant])).1 = .ok ⟨"1", "mail", some "Eve", "t"⟩ := by
    decide +kernel
  exact (all_or_nothing Sample.client _ (Prod.ext hresult rfl)).2.current

end Admission

end SessionKeeper
