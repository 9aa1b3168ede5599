import SessionKeeper.Proofs.Api.Attempts
import SessionKeeper.Proofs.Noninterference.Alike

/-!
# Sessions behind a veil

Two worlds of a client that somebody who is never shown a token cannot tell apart: the stored
sessions, the one in memory and what the server grants may vary in the token. In contrast to secrets
that are merely kept from the log, a stored session may be any text here, so that what is reported
about it, and whether a request carries its token, varies as well.
-/

namespace SessionKeeper

open Program

/-! ## What may vary -/

/-- Sessions that are shown alike: they are the same but for the token. -/
def Session.ShownAlike (s t : Session) : Prop :=
  s.redacted = t.redacted

/-- Texts that are read as sessions which are shown alike, or none of which can be read. -/
structure Session.ReadAlike (text text' : String) : Prop where
  stored : text ≠ ""
  stored' : text' ≠ ""
  sessions : Parallel (fun _ _ => True) ShownAlike (parse text) (parse text')

/-- Texts under a key that are the same, or sessions which may vary in the token. -/
inductive Session.TextVeiled : String → String → String → Prop
  | same (key text : String) : TextVeiled key text text
  | session {text text' : String} (h : ReadAlike text text') : TextVeiled Session.key text text'

/-- The texts of a store that may vary behind the veil. -/
def Likeness.veil : Likeness :=
  ⟨Session.TextVeiled, .same⟩

/-- Errors of the API that are handled alike and, if they are to agree verbatim, are the same. -/
structure ApiError.Alike (verbatim : Prop) (e e' : ApiError) : Prop where
  isUnauthorized : e.isUnauthorized = e'.isUnauthorized
  same : EqIf verbatim e e'

/-- Answers that are the same, or successes whose bodies are both read, as related values, or both
refused. If they are to agree verbatim, they are refused with the same words. -/
inductive Http.Answer.Veiled {α : Type} (verbatim : Prop) (R : α → α → Prop)
    (parse : String → Except Json.Error α) : Http.Answer → Http.Answer → Prop
  | same (answer : Http.Answer) : Veiled verbatim R parse answer answer
  | success {status : Nat} (hstatus : ApiClient.isSuccess status = true) {text text' : String}
      (h : Parallel (EqIf verbatim) R (parse text) (parse text')) :
      Veiled verbatim R parse (.received status (.ok text)) (.received status (.ok text'))

/-- Answers to a registration that vary in the token. -/
def RegisterResponse.SameId (r s : RegisterResponse) : Prop :=
  r.id = s.id

/-- Networks that give related answers to every request. -/
inductive Http.Network.Veiled (K : Http.Answer → Http.Answer → Prop) :
    Http.Network → Http.Network → Prop
  | unreachable : Veiled K .unreachable .unreachable
  | peer {script script' : List Http.Response}
      (h : List.Forall₂ (fun r s => ∀ request, K (r.toAnswer request) (s.toAnswer request))
        script script') : Veiled K (.peer script) (.peer script')

/-- Worlds that cannot be told apart from before the veil. -/
structure World.Veiled (verbatim : Prop) (K : Http.Answer → Http.Answer → Prop)
    (w u : World Storage) : Prop where
  store : w.store.Alike (Likeness.veil.readable verbatim) u.store
  session : Option.Rel Session.ShownAlike w.session u.session
  network : w.network.Veiled K u.network

/-- Operations that keep worlds behind the veil and give related results. -/
def Operation.Veiled {α β : Type} (verbatim : Prop) (K : Http.Answer → Http.Answer → Prop)
    (R : α → β → Prop) (p : Operation α) (q : Operation β) : Prop :=
  Program.Keeps (clientHandler Storage) (World.Veiled verbatim K) R p q

/-! ## What is shown -/

namespace Session

theorem shownAlike_iff {s t : Session} :
    s.ShownAlike t ↔ s.id = t.id ∧ s.email = t.email ∧ s.name = t.name := by
  simp [ShownAlike, redacted]

namespace ShownAlike

variable {s t : Session}

theorem refl (s : Session) : s.ShownAlike s :=
  rfl

theorem displayName_eq (h : s.ShownAlike t) : s.displayName = t.displayName := by
  obtain ⟨-, hemail, hname⟩ := shownAlike_iff.mp h
  rw [displayName, displayName, hname, hemail]

/-- Sessions that are shown alike are stored as texts that may vary. -/
theorem render (h : s.ShownAlike t) : TextVeiled key s.render t.render := by
  refine .session ⟨s.render_ne_empty, t.render_ne_empty, ?_⟩
  rw [parse_render, parse_render]
  exact .ok h

end ShownAlike

namespace TextVeiled

variable {key text text' : String}

theorem eq_of_ne (h : TextVeiled key text text') (hkey : key ≠ Session.key) : text = text' := by
  cases h with
  | same => rfl
  | session => exact absurd rfl hkey

theorem empty_iff (h : TextVeiled key text text') : text = "" ↔ text' = "" := by
  cases h with
  | same => rfl
  | session h => exact iff_of_false h.stored h.stored'

theorem sessions (h : TextVeiled key text text') :
    Parallel (fun _ _ => True) ShownAlike (parse text) (parse text') := by
  cases h with
  | same => exact (Agree.refl .refl _).parallel fun _ => trivial
  | session h => exact h.sessions

end TextVeiled

end Session

namespace ApiError.Alike

variable {verbatim : Prop}

theorem refl (e : ApiError) : e.Alike verbatim e :=
  ⟨rfl, .refl e⟩

theorem invalidResponse {message message' : String} (h : EqIf verbatim message message') :
    (ApiError.invalidResponse message).Alike verbatim (.invalidResponse message') :=
  ⟨rfl, h.congr _⟩

end ApiError.Alike

/-! ## Requests and their answers -/

/-- A success may have any of the bodies that are read alike, even where it is cut short. -/
theorem Http.Response.veiled_answer {α : Type} {verbatim : Prop} {R : α → α → Prop}
    {parse : String → Except Json.Error α} {status : Nat}
    (hstatus : ApiClient.isSuccess status = true) {body body' : ByteArray}
    (h : Parallel (EqIf verbatim) R (parse (Text.decodeLossy body))
      (parse (Text.decodeLossy body'))) (isComplete : Bool) (request : Request) :
    Answer.Veiled verbatim R parse ((answer status body isComplete).toAnswer request)
      ((answer status body' isComplete).toAnswer request) := by
  rw [toAnswer, toAnswer]
  split
  next => exact .same _
  next =>
    split
    next => exact .success hstatus h
    next => exact .same _

namespace Http.Network.Veiled

variable {K : Http.Answer → Http.Answer → Prop}

/-- Requests to one place get related answers, whatever else is in them. -/
theorem exchange (hK : ∀ a, K a a) {m n : Network} (h : m.Veiled K n) {r q : Request}
    (hurl : r.url = q.url) :
    K (m.exchange r).1 (n.exchange q).1 ∧ (m.exchange r).2.Veiled K (n.exchange q).2 := by
  rw [exchange_eq hurl m]
  cases h with
  | unreachable => exact ⟨hK _, .unreachable⟩
  | peer h =>
      cases h with
      | nil => exact ⟨hK _, .peer .nil⟩
      | cons hanswer hrest => exact ⟨hanswer q, .peer hrest⟩

end Http.Network.Veiled

namespace Operation

variable {α β γ δ : Type} {verbatim : Prop} {K : Http.Answer → Http.Answer → Prop}
  {R : α → β → Prop}

/-- What is received for a request is the answer of the network. -/
theorem run_exchange {σ : Type} [Store σ] (request : Http.Request)
    (f : Http.Answer → Operation α) (w : World σ) :
    Program.run (clientHandler σ) (send request >>= fun ticket => receive ticket >>= f) w =
      Program.run (clientHandler σ) (f (w.network.exchange request).1) (w.send request).2 := by
  have hanswer : (w.send request).2.answer w.exchanges.length =
      (w.network.exchange request).1 := by
    simp [World.send, World.answer]
  rw [← hanswer]
  rfl

/-! ## Steps -/

theorem veiled_acquire : Operation.Veiled verbatim K Eq acquire acquire :=
  fun _ _ h => ⟨rfl, h.store, h.session, h.network⟩

theorem veiled_release : Operation.Veiled verbatim K Eq release release :=
  fun _ _ h => ⟨rfl, h.store, h.session, h.network⟩

theorem veiled_setLoading (busy : Bool) :
    Operation.Veiled verbatim K Eq (setLoading busy) (setLoading busy) :=
  fun _ _ h => ⟨rfl, h.store, h.session, h.network⟩

/-- What is reported is not seen, so it may be anything. -/
theorem veiled_report {level level' : Level} {message message' : String}
    {fields fields' : List (String × String)} :
    Operation.Veiled verbatim K Eq (report level message fields) (report level' message' fields') :=
  fun _ _ h => ⟨rfl, h.store, h.session, h.network⟩

theorem veiled_readSession :
    Operation.Veiled verbatim K (Option.Rel Session.ShownAlike) readSession readSession :=
  fun _ _ h => ⟨h.session, h⟩

theorem veiled_writeSession {s t : Option Session} (hst : Option.Rel Session.ShownAlike s t) :
    Operation.Veiled verbatim K Eq (writeSession s) (writeSession t) :=
  fun _ _ h => ⟨rfl, h.store, hst, h.network⟩

theorem veiled_get (key : String) :
    Operation.Veiled verbatim K
      (Parallel (EqIf verbatim) (Option.Rel (Session.TextVeiled key))) (get key) (get key) :=
  fun _ _ h => ⟨h.store.get key, h⟩

theorem veiled_set {key a b : String} (hab : Session.TextVeiled key a b) :
    Operation.Veiled verbatim K (Parallel (EqIf verbatim) Eq) (set key a) (set key b) := by
  intro w u h
  have hset := h.store.set hab
  exact ⟨hset.result, hset.store, h.session, h.network⟩

theorem veiled_remove (key : String) :
    Operation.Veiled verbatim K (Parallel (EqIf verbatim) Eq) (remove key) (remove key) := by
  intro w u h
  have hremove := h.store.remove key
  exact ⟨hremove.result, hremove.store, h.session, h.network⟩

/-- Requests to one place get related answers. -/
theorem veiled_exchange (hK : ∀ a, K a a) {r q : Http.Request} (hurl : r.url = q.url)
    {f : Http.Answer → Operation α} {g : Http.Answer → Operation β}
    (hfg : ∀ a b, K a b → Operation.Veiled verbatim K R (f a) (g b)) :
    Operation.Veiled verbatim K R (send r >>= fun ticket => receive ticket >>= f)
      (send q >>= fun ticket => receive ticket >>= g) := by
  intro w u h
  obtain ⟨hanswer, hnetwork⟩ := h.network.exchange hK hurl
  rw [run_exchange, run_exchange]
  exact hfg _ _ hanswer _ _ ⟨h.store, h.session, hnetwork⟩

/-- A peek at the stored session changes nothing, whatever comes of it. -/
theorem veiled_of_peeks {p q : Operation α} (hp : p.Within ClientStep.Peeks)
    (hq : q.Within ClientStep.Peeks) : Operation.Veiled verbatim K (fun _ _ => True) p q := by
  refine .of_within (fun step w u hstep h => ?_) (fun step w u hstep h => ?_) hp hq
  · cases step with
    | get key => exact h
    | report event => exact ⟨h.store, h.session, h.network⟩
    | _ => exact hstep.elim
  · cases step with
    | get key => exact h
    | report event => exact ⟨h.store, h.session, h.network⟩
    | _ => exact hstep.elim

end Operation

/-! ## Calls of the API -/

open Operation

namespace ApiClient

variable {α : Type} {K : Http.Answer → Http.Answer → Prop} {verbatim : Prop} {R : α → α → Prop}
  {parse : String → Except Json.Error α}

theorem veiled_forgetSession (url : String) :
    Operation.Veiled verbatim K Eq (forgetSession url) (forgetSession url) := by
  refine veiled_report.next fun _ => (veiled_remove Session.key).bind fun r s hrs => ?_
  cases hrs with
  | ok => exact .pure rfl
  | error => exact veiled_report

theorem veiled_refuse (url : String) (status : Nat) (body : String) :
    Operation.Veiled verbatim K (Parallel (ApiError.Alike verbatim) R) (refuse url status body)
      (refuse url status body) := by
  rw [refuse]
  split
  next => exact (veiled_forgetSession url).next fun _ => .pure (.error (.refl _))
  next => exact .pure (.error (.refl _))

theorem veiled_handle (hR : ∀ a, R a a) (url : String) {a b : Http.Answer}
    (hab : a.Veiled verbatim R parse b) :
    Operation.Veiled verbatim K (Parallel (ApiError.Alike verbatim) R) (handle parse url a)
      (handle parse url b) := by
  cases hab with
  | success hstatus h =>
      rw [handle, handle, if_pos hstatus, if_pos hstatus, decodeBody, decodeBody]
      generalize parse _ = r at h ⊢
      generalize parse _ = s at h ⊢
      cases h with
      | ok h => exact .pure (.ok h)
      | error h =>
          refine .pure (.error (.invalidResponse fun hverbatim => ?_))
          rw [h hverbatim]
  | same =>
      cases a with
      | failed fault => exact .pure (.error (.refl _))
      | received status body =>
          rw [handle]
          split
          next => exact .pure ((Agree.refl hR _).parallel .refl)
          next => exact veiled_refuse url status _

/-- Calls that get such answers come to such results. The token that a request carries, and whether
it carries one, may vary. -/
theorem veiled_call (hR : ∀ a, R a a) (c : ApiClient) (method : Http.Method) (path : String)
    (body : Option String) :
    Operation.Veiled verbatim (Http.Answer.Veiled verbatim R parse)
      (Parallel (ApiError.Alike verbatim) R) (c.call method path body parse)
      (c.call method path body parse) := by
  refine veiled_report.next fun _ =>
    (veiled_of_peeks peeks_authorization peeks_authorization).bind fun token token' _ => ?_
  cases Url.parse (c.urlText path) with
  | error e => exact .pure (.error (.refl _))
  | ok url =>
      have hurl := c.url_request_congr method method url token token' body body
      dsimp only
      rw [hurl]
      split
      next => exact veiled_exchange .same hurl fun a b hab => veiled_handle hR _ hab
      next => exact .pure (.error (.refl _))

end ApiClient

/-! ## The manager -/

namespace Manager

variable {α : Type} {K : Http.Answer → Http.Answer → Prop} {verbatim : Prop} {R : α → α → Prop}

theorem veiled_exclusive {op op' : Operation α} (h : Operation.Veiled verbatim K R op op') :
    Operation.Veiled verbatim K R (exclusive op) (exclusive op') :=
  veiled_acquire.next fun _ => Program.Keeps.bind
    ((veiled_setLoading true).next fun _ =>
      h.bind fun _ _ hab => (veiled_setLoading false).next fun _ => .pure hab)
    fun _ _ hab => veiled_release.next fun _ => .pure hab

/-- The session in memory is changed, and the change reported. -/
theorem veiled_settle {s t : Option Session} (hst : Option.Rel Session.ShownAlike s t)
    (message : String) (fields fields' : List (String × String)) {a b : α} (hab : R a b) :
    Operation.Veiled verbatim K R
      (do
        writeSession s
        report .info message fields
        return a)
      (do
        writeSession t
        report .info message fields'
        return b) :=
  (veiled_writeSession hst).next fun _ => veiled_report.next fun _ => .pure hab

theorem veiled_bootstrap :
    Operation.Veiled verbatim K (Parallel (fun _ _ => True) (Option.Rel Session.ShownAlike))
      bootstrap bootstrap := by
  refine veiled_exclusive ((veiled_get Session.key).bind fun r s hrs => ?_)
  cases hrs with
  | error e => exact .pure (.error trivial)
  | ok htext =>
      cases htext with
      | none => exact veiled_report.next fun _ => .pure (.ok .none)
      | @some text text' htext =>
          dsimp only [Option.getD]
          have hsessions := htext.sessions
          by_cases hempty : text = ""
          · obtain rfl := hempty
            obtain rfl := htext.empty_iff.mp rfl
            exact veiled_report.next fun _ => .pure (.ok .none)
          · have hempty' : text' ≠ "" := mt htext.empty_iff.mpr hempty
            split
            next => contradiction
            next =>
              generalize Session.parse text = r at hsessions ⊢
              generalize Session.parse text' = s at hsessions ⊢
              cases hsessions with
              | error => exact .pure (.error trivial)
              | ok h =>
                  exact veiled_report.next fun _ =>
                    (veiled_writeSession (.some h)).next fun _ => .pure (.ok (.some h))

theorem veiled_establish {s t : Session} (h : s.ShownAlike t) :
    Operation.Veiled verbatim K (Parallel (EqIf verbatim) Session.ShownAlike) (establish s)
      (establish t) := by
  refine (veiled_set h.render).bind fun r s hrs => ?_
  cases hrs with
  | error he => exact .pure (.error (he.congr _))
  | ok => exact veiled_settle (.some h) _ _ _ (.ok h)

theorem veiled_dropSession : Operation.Veiled verbatim K Eq dropSession dropSession := by
  refine veiled_readSession.bind fun s t hst => ?_
  cases hst with
  | none => exact .pure rfl
  | some h => exact veiled_settle .none _ _ _ rfl

theorem veiled_rejected (message email : String) {e e' : ApiError} (h : e.Alike verbatim e') :
    Operation.Veiled verbatim K (Parallel (EqIf verbatim) R) (rejected message email e)
      (rejected message email e') := by
  have herror : EqIf verbatim (Error.api e) (.api e') := h.same.congr _
  refine veiled_report.next fun _ => ?_
  rw [h.isUnauthorized]
  split
  next => exact veiled_dropSession.next fun _ => .pure (.error herror)
  next => exact .pure (.error herror)

theorem veiled_signIn (c : ApiClient) (credentials : Credentials) :
    Operation.Veiled verbatim (Http.Answer.Veiled verbatim (fun _ _ => True) LoginResponse.parse)
      (Parallel (EqIf verbatim) Session.ShownAlike) (signIn c credentials)
      (signIn c credentials) := by
  refine veiled_exclusive (Program.Keeps.bind (veiled_report.next fun _ =>
    c.veiled_call (fun _ => trivial) .post "/login" _) fun r s hrs => ?_)
  cases hrs with
  | error h => exact veiled_rejected _ _ h
  | ok h => exact veiled_establish (Session.shownAlike_iff.mpr ⟨rfl, rfl, rfl⟩)

theorem veiled_registerUser (c : ApiClient) (credentials : Credentials) (name : Option String) :
    Operation.Veiled verbatim
      (Http.Answer.Veiled verbatim RegisterResponse.SameId RegisterResponse.parse)
      (Parallel (EqIf verbatim) Session.ShownAlike) (registerUser c credentials name)
      (registerUser c credentials name) := by
  refine veiled_exclusive (Program.Keeps.bind (veiled_report.next fun _ => c.veiled_call
    (R := RegisterResponse.SameId) (fun _ => rfl) .post "/register" _) fun r s hrs => ?_)
  cases hrs with
  | error h => exact veiled_rejected _ _ h
  | ok h =>
      have hid := congrArg (Option.getD · Session.placeholderId) h
      exact veiled_establish (Session.shownAlike_iff.mpr ⟨hid, rfl, rfl⟩)

theorem veiled_signOut :
    Operation.Veiled verbatim K (Parallel (EqIf verbatim) Eq) signOut signOut := by
  refine veiled_exclusive ((veiled_remove Session.key).bind fun r s hrs => ?_)
  cases hrs with
  | error he => exact .pure (.error (he.congr _))
  | ok =>
      refine veiled_readSession.bind fun s t hst => ?_
      cases hst with
      | none => exact .pure (.ok rfl)
      | some h => exact veiled_settle .none _ _ _ (.ok rfl)

theorem veiled_isSignedIn : Operation.Veiled verbatim K Eq isSignedIn isSignedIn := by
  refine veiled_readSession.bind fun s t hst => ?_
  cases hst with
  | none => exact .pure rfl
  | some => exact .pure rfl

end Manager

theorem Auth.veiled_isAuthenticated {verbatim : Prop} {K : Http.Answer → Http.Answer → Prop} :
    Operation.Veiled verbatim K Eq isAuthenticated isAuthenticated := by
  refine (veiled_get Session.key).bind fun r s hrs => ?_
  cases hrs with
  | error e => exact veiled_report.next fun _ => .pure rfl
  | ok htext =>
      cases htext with
      | none => exact .pure rfl
      | some htext => exact .pure (Bool.eq_iff_iff.mpr (by simp [htext.empty_iff]))

/-! ## The colour preference -/

namespace Preference

variable {verbatim : Prop} {K : Http.Answer → Http.Answer → Prop}

theorem veiled_load : Operation.Veiled verbatim K Eq load load := by
  refine (veiled_get ColorMode.key).bind fun r s hrs => ?_
  cases hrs with
  | error e => exact veiled_report.next fun _ => .pure rfl
  | ok htext =>
      cases htext with
      | none => exact .pure rfl
      | some htext =>
          obtain rfl := htext.eq_of_ne key_ne_sessionKey
          dsimp only
          split
          next => exact .pure rfl
          next => exact veiled_report.next fun _ => .pure rfl

theorem veiled_set (mode : ColorMode) :
    Operation.Veiled verbatim K (Parallel (EqIf verbatim) Eq) (set mode) (set mode) := by
  refine (Operation.veiled_set (.same _ _)).bind fun r s hrs => ?_
  cases hrs with
  | error he => exact .pure (.error he)
  | ok => exact veiled_report.next fun _ => .pure (.ok rfl)

theorem veiled_toggle :
    Operation.Veiled verbatim K (Parallel (EqIf verbatim) Eq) toggle toggle := by
  refine veiled_load.next fun mode => (veiled_set _).bind fun r s hrs => ?_
  cases hrs with
  | error he => exact .pure (.error he)
  | ok => exact .pure (.ok rfl)

end Preference

end SessionKeeper
