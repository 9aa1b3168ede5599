import SessionKeeper.Proofs.Api.Bearer
import SessionKeeper.Proofs.Program.Coupled
import SessionKeeper.Proofs.Store.Opaque

/-!
# Two clients that differ in what they keep secret

Two worlds of a client in which sessions, tokens and passwords may vary, while all else is the same:
the events, the errors, and the requests but for the tokens and passwords in them. Every step takes
such worlds to such worlds and gives answers that are alike.
-/

namespace SessionKeeper

/-! ## What may vary -/

/-- A token that is sent if it is stored: there is something in it, and it may stand in a header. -/
def Http.IsSendable (token : String) : Prop :=
  token ≠ "" ∧ isHeaderValue token = true

/-- Which names, tokens and passwords may stand for one another. Tokens that differ are all sent. -/
structure Variation where
  name : Option String → Option String → Prop
  token : String → String → Prop
  password : String → String → Prop
  name_refl (n : Option String) : name n n
  token_refl (t : String) : token t t
  password_refl (p : String) : password p p
  sendable {s t : String} : token s t → s = t ∨ Http.IsSendable s ∧ Http.IsSendable t

section

variable (v : Variation)

/-- Sessions of the same user that vary in the name and the token. -/
structure Session.Alike (s t : Session) : Prop where
  id : s.id = t.id
  email : s.email = t.email
  name : v.name s.name t.name
  token : v.token s.token t.token

/-- Stored texts that are the same, or that sessions which are alike are stored as. -/
inductive Session.TextAlike : String → String → String → Prop
  | same (key text : String) : TextAlike key text text
  | session {s t : Session} (h : s.Alike v t) : TextAlike Session.key s.render t.render

/-- Credentials that vary in the password. -/
structure Credentials.Alike (c d : Credentials) : Prop where
  email : c.email = d.email
  password : v.password c.password d.password

/-- Answers to a sign-in that vary in the token. -/
structure LoginResponse.Alike (r s : LoginResponse) : Prop where
  token : v.token r.token s.token

/-- Answers to a registration that vary in the token. -/
structure RegisterResponse.Alike (r s : RegisterResponse) : Prop where
  id : r.id = s.id
  token : v.token r.token s.token

/-- Values of the authorization header that are the same, or that name tokens which may vary. -/
inductive Http.AuthorizationAlike : Option String → Option String → Prop
  | same (value : Option String) : AuthorizationAlike value value
  | bearer {s t : String} (h : v.token s t) :
      AuthorizationAlike (some (bearer s)) (some (bearer t))

/-- Bodies that are the same, or credentials that vary in the password. -/
inductive Http.BodyAlike : Option String → Option String → Prop
  | same (body : Option String) : BodyAlike body body
  | credentials {c d : Credentials} (h : c.Alike v d) :
      BodyAlike (some c.toValue.compact) (some d.toValue.compact)

/-- Requests that vary in the token and in the password of their body. -/
structure Http.Request.Alike (r q : Http.Request) : Prop where
  method : r.method = q.method
  url : r.url = q.url
  route : r.route = q.route
  apiKey : r.apiKey = q.apiKey
  authorization : AuthorizationAlike v r.authorization q.authorization
  body : BodyAlike v r.body q.body

/-- Answers that are the same, or successes whose bodies are read as related values. -/
inductive Http.Answer.Alike {α : Type} (R : α → α → Prop)
    (parse : String → Except Json.Error α) : Http.Answer → Http.Answer → Prop
  | same (answer : Http.Answer) : Alike R parse answer answer
  | granted {status : Nat} (hstatus : ApiClient.isSuccess status = true) {text text' : String}
      {a b : α} (ha : parse text = .ok a) (hb : parse text' = .ok b) (h : R a b) :
      Alike R parse (.received status (.ok text)) (.received status (.ok text'))

/-- Answers that may stand for one another are read alike. -/
structure Http.Answer.ReadAlike {α : Type} (K : Http.Answer → Http.Answer → Prop) (R : α → α → Prop)
    (parse : String → Except Json.Error α) : Prop where
  refl_answer (a : Http.Answer) : K a a
  refl_value (x : α) : R x x
  alike {a b : Http.Answer} : K a b → Alike R parse a b

/-- The texts of a store that may vary: those of sessions. -/
def Variation.texts : Likeness :=
  ⟨Session.TextAlike v, .same⟩

end

/-- The requests that were sent so far. -/
def World.requests {σ : Type} (w : World σ) : List Http.Request :=
  w.exchanges.map Exchange.request

/-- Worlds that are the same but for what may vary. -/
structure World.Alike {σ : Type} [Store σ] [OpaqueStore σ] (v : Variation) (w u : World σ) :
    Prop where
  store : OpaqueStore.Alike v.texts w.store u.store
  session : Option.Rel (Session.Alike v) w.session u.session
  loading : w.loading = u.loading
  held : w.held = u.held
  network : w.network = u.network
  requests : List.Forall₂ (Http.Request.Alike v) w.requests u.requests
  arrived : w.arrived = u.arrived
  events : w.events = u.events
  lastError : w.lastError = u.lastError

/-! ## What stays the same -/

section

variable {v : Variation}

theorem Session.Alike.refl (s : Session) : s.Alike v s :=
  ⟨rfl, rfl, v.name_refl _, v.token_refl _⟩

theorem Credentials.Alike.refl (c : Credentials) : c.Alike v c :=
  ⟨rfl, v.password_refl _⟩

theorem Credentials.Alike.shown_eq {c d : Credentials} (h : c.Alike v d) : c.shown = d.shown := by
  unfold shown
  rw [h.email]

theorem LoginResponse.Alike.refl (r : LoginResponse) : r.Alike v r :=
  ⟨v.token_refl _⟩

theorem RegisterResponse.Alike.refl (r : RegisterResponse) : r.Alike v r :=
  ⟨rfl, v.token_refl _⟩

/-- Answers that are the same are read alike, whatever they are read as. -/
theorem Http.Answer.readAlike_eq {α : Type} (parse : String → Except Json.Error α) :
    ReadAlike Eq Eq parse :=
  ⟨fun _ => rfl, fun _ => rfl, fun hab => hab ▸ .same _⟩

theorem Http.Answer.readAlike_alike {α : Type} {R : α → α → Prop} (hR : ∀ x, R x x)
    (parse : String → Except Json.Error α) : ReadAlike (Alike R parse) R parse :=
  ⟨.same, hR, id⟩

theorem Http.Request.Alike.refl (r : Http.Request) : r.Alike v r :=
  ⟨rfl, rfl, rfl, rfl, .same _, .same _⟩

theorem Session.TextAlike.eq_of_ne {key text text' : String} (h : TextAlike v key text text')
    (hkey : key ≠ Session.key) : text = text' := by
  cases h with
  | same => rfl
  | session => exact absurd rfl hkey

/-- The tokens of texts that are alike are found alike. -/
theorem Session.TextAlike.storedToken {key text text' : String} (h : TextAlike v key text text') :
    Agree (Option.Rel v.token) (storedToken text) (storedToken text') := by
  cases h with
  | same =>
      refine .refl (fun token => ?_) _
      cases token with
      | none => exact .none
      | some token => exact .some (v.token_refl token)
  | session h =>
      rw [storedToken_render, storedToken_render]
      exact .ok (.some h.token)

/-- The answer of the network depends on where a request goes, and on nothing else in it. -/
theorem Http.Network.exchange_eq {r q : Http.Request} (h : r.url = q.url) (n : Http.Network) :
    n.exchange r = n.exchange q := by
  have hanswer (response : Response) : response.toAnswer r = response.toAnswer q := by
    cases response with
    | answer => rfl
    | hangUp => rw [Response.toAnswer, Response.toAnswer, h]
    | silence => rw [Response.toAnswer, Response.toAnswer, h]
  cases n with
  | unreachable => rw [exchange, exchange, h]
  | peer script => cases script <;> rw [exchange, exchange, hanswer]

theorem ApiClient.request_alike (c : ApiClient) (method : Http.Method) (url : Url.HttpUrl)
    {token token' body body' : Option String} (htoken : Http.AuthorizationAlike v token token')
    (hbody : Http.BodyAlike v body body') :
    (c.request method url token body).Alike v (c.request method url token' body') := by
  rw [request, request]
  cases urlAuthorization url with
  | none => exact ⟨rfl, rfl, rfl, rfl, htoken, hbody⟩
  | some value =>
      refine ⟨rfl, rfl, rfl, rfl, ?_, hbody⟩
      cases htoken with
      | same => exact .same _
      | bearer h => exact .bearer h

end

/-! ## Requests and their answers -/

namespace Exposed

variable {σ α : Type}

/-- The answer to a request, and the world in which it has come. -/
def exchange (request : Http.Request) (x : Exposed σ) : Http.Answer × Exposed σ :=
  match x.answers with
  | [] =>
    ((x.world.network.exchange request).1,
      { x with
        world := { x.world with
          network := (x.world.network.exchange request).2
          exchanges := x.world.exchanges ++ [⟨request, (x.world.network.exchange request).1⟩] } })
  | answer :: answers =>
    (answer,
      { x with
        world := { x.world with exchanges := x.world.exchanges ++ [⟨request, answer⟩] }
        answers := answers })

theorem answer_exchange (request : Http.Request) (x : Exposed σ) :
    (x.exchange request).2.world.answer x.world.exchanges.length = (x.exchange request).1 := by
  obtain ⟨w, faults, answers⟩ := x
  cases answers <;> simp [exchange, World.answer]

/-- What is received for a request is the answer to it. -/
theorem run_exchange [Store σ] (request : Http.Request) (f : Http.Answer → Operation α)
    (x : Exposed σ) :
    run (Operation.send request >>= fun ticket => Operation.receive ticket >>= f) x =
      run (f (x.exchange request).1) (x.exchange request).2 := by
  rw [← answer_exchange]
  obtain ⟨w, faults, answers⟩ := x
  cases answers <;> rfl

end Exposed

/-! ## Steps -/

/-- Exposed worlds that are alike and meet the same faults, with related answers to come. -/
structure Exposed.Alike {σ : Type} [Store σ] [OpaqueStore σ] (v : Variation)
    (K : Http.Answer → Http.Answer → Prop) (x y : Exposed σ) : Prop where
  world : x.world.Alike v y.world
  faults : x.faults = y.faults
  answers : List.Forall₂ K x.answers y.answers

/-- Operations that take worlds which are alike to such worlds and give related results. -/
def Operation.Alike {α β : Type} (σ : Type) [Store σ] [OpaqueStore σ] (v : Variation)
    (K : Http.Answer → Http.Answer → Prop) (R : α → β → Prop) (p : Operation α)
    (q : Operation β) : Prop :=
  Program.Keeps (Exposed.handler σ) (Exposed.Alike v K) R p q

section

variable {σ α β γ δ : Type} [Store σ] [OpaqueStore σ] {v : Variation}
  {K : Http.Answer → Http.Answer → Prop} {x y : Exposed σ}

namespace Exposed.Alike

theorem replaceWorld (h : x.Alike v K y) {w u : World σ} (hworld : w.Alike v u) :
    Exposed.Alike v K { x with world := w } { y with world := u } :=
  ⟨hworld, h.faults, h.answers⟩

theorem fault?_eq (h : x.Alike v K y) : x.fault? = y.fault? := by
  rw [fault?, fault?, h.faults]

theorem pastFault (h : x.Alike v K y) : x.pastFault.Alike v K y.pastFault :=
  ⟨h.world, congrArg List.tail h.faults, h.answers⟩

/-- A change of the stores that is reported in both worlds. -/
theorem change (h : x.Alike v K y) {c d : Change σ}
    (hcd : Change.Alike (OpaqueStore.Alike v.texts) c d) :
    c.result = d.result ∧ Exposed.Alike v K { x with world := (x.world.change c).2 }
      { y with world := (y.world.change d).2 } := by
  refine ⟨hcd.result, h.replaceWorld { h.world with store := hcd.store, events := ?_ }⟩
  change x.world.events ++ c.events = y.world.events ++ d.events
  rw [h.world.events, hcd.events]

end Exposed.Alike

namespace Operation

namespace Alike

variable {R : α → β → Prop} {S : γ → δ → Prop} {p : Operation α} {q : Operation β}

theorem pure {a : α} {b : β} (h : R a b) :
    Operation.Alike σ v K R (Pure.pure a) (Pure.pure b) :=
  Program.Keeps.pure h

theorem bind {f : α → Operation γ} {g : β → Operation δ} (hpq : Operation.Alike σ v K R p q)
    (hfg : ∀ a b, R a b → Operation.Alike σ v K S (f a) (g b)) :
    Operation.Alike σ v K S (p >>= f) (q >>= g) :=
  Program.Keeps.bind hpq hfg

/-- What comes behind a result that is the same on both sides. -/
theorem next {p q : Operation α} {f : α → Operation γ} {g : α → Operation δ}
    (hpq : Operation.Alike σ v K Eq p q) (hfg : ∀ a, Operation.Alike σ v K S (f a) (g a)) :
    Operation.Alike σ v K S (p >>= f) (q >>= g) :=
  Program.Keeps.next hpq hfg

end Alike

theorem alike_acquire : Operation.Alike σ v K Eq acquire acquire :=
  fun _ _ h => ⟨rfl, h.replaceWorld { h.world with held := rfl }⟩

theorem alike_release : Operation.Alike σ v K Eq release release :=
  fun _ _ h => ⟨rfl, h.replaceWorld { h.world with held := rfl }⟩

theorem alike_setLoading (busy : Bool) :
    Operation.Alike σ v K Eq (setLoading busy) (setLoading busy) :=
  fun _ _ h => ⟨rfl, h.replaceWorld { h.world with loading := rfl }⟩

theorem alike_isLoading : Operation.Alike σ v K Eq isLoading isLoading :=
  fun _ _ h => ⟨h.world.loading, h⟩

theorem alike_readSession :
    Operation.Alike σ v K (Option.Rel (Session.Alike v)) readSession readSession :=
  fun _ _ h => ⟨h.world.session, h⟩

theorem alike_writeSession {s t : Option Session} (hst : Option.Rel (Session.Alike v) s t) :
    Operation.Alike σ v K Eq (writeSession s) (writeSession t) :=
  fun _ _ h => ⟨rfl, h.replaceWorld { h.world with session := hst }⟩

theorem alike_report (level : Level) (message : String) (fields : List (String × String)) :
    Operation.Alike σ v K Eq (report level message fields) (report level message fields) :=
  fun _ _ h =>
    ⟨rfl, h.replaceWorld { h.world with events := congrArg (fun es => es ++ [_]) h.world.events }⟩

theorem alike_lastError : Operation.Alike σ v K Eq lastError lastError :=
  fun _ _ h => ⟨h.world.lastError, h⟩

theorem alike_noteError (e : ApiError) :
    Operation.Alike σ v K Eq (noteError e) (noteError e) :=
  fun _ _ h => ⟨rfl, h.replaceWorld { h.world with lastError := rfl }⟩

theorem alike_get (key : String) :
    Operation.Alike σ v K (Agree (Option.Rel (Session.TextAlike v key))) (get key) (get key) := by
  intro x y h
  change Agree _ (Exposed.answer (.get key) x).1 (Exposed.answer (.get key) y).1 ∧
    (Exposed.answer (.get key) x).2.Alike v K (Exposed.answer (.get key) y).2
  rw [Exposed.answer, Exposed.answer, h.fault?_eq]
  cases y.fault? with
  | some e => exact ⟨.error e, h.pastFault⟩
  | none => exact ⟨OpaqueStore.get h.world.store key, h.pastFault⟩

theorem alike_set {key a b : String} (hab : Session.TextAlike v key a b) :
    Operation.Alike σ v K Eq (set key a) (set key b) := by
  intro x y h
  change (Exposed.answer (.set key a) x).1 = (Exposed.answer (.set key b) y).1 ∧
    (Exposed.answer (.set key a) x).2.Alike v K (Exposed.answer (.set key b) y).2
  rw [Exposed.answer, Exposed.answer, h.fault?_eq]
  cases y.fault? with
  | some e => exact ⟨rfl, h.pastFault⟩
  | none => exact h.pastFault.change (OpaqueStore.set h.world.store hab)

theorem alike_remove (key : String) :
    Operation.Alike σ v K Eq (remove key) (remove key) := by
  intro x y h
  change (Exposed.answer (.remove key) x).1 = (Exposed.answer (.remove key) y).1 ∧
    (Exposed.answer (.remove key) x).2.Alike v K (Exposed.answer (.remove key) y).2
  rw [Exposed.answer, Exposed.answer, h.fault?_eq]
  cases y.fault? with
  | some e => exact ⟨rfl, h.pastFault⟩
  | none => exact h.pastFault.change (OpaqueStore.remove h.world.store key)

end Operation

/-! ## Sending a request on either side -/

theorem Exposed.Alike.exchange (h : x.Alike v K y) (hK : ∀ a, K a a) {r q : Http.Request}
    (hrq : r.Alike v q) :
    K (x.exchange r).1 (y.exchange q).1 ∧ (x.exchange r).2.Alike v K (y.exchange q).2 := by
  have hrequests (a b : Http.Answer) : List.Forall₂ (Http.Request.Alike v)
      ((x.world.exchanges ++ [Exchange.mk r a]).map Exchange.request)
      ((y.world.exchanges ++ [Exchange.mk q b]).map Exchange.request) := by
    rw [List.map_append, List.map_append]
    exact List.rel_append h.world.requests (.cons hrq .nil)
  obtain ⟨w, faults, answers⟩ := x
  obtain ⟨u, faults', answers'⟩ := y
  obtain ⟨hworld, hfaults, hanswers⟩ := h
  cases hanswers with
  | nil =>
      have hnetwork : w.network = u.network := hworld.network
      simp only [Exposed.exchange, hnetwork, Http.Network.exchange_eq hrq.url]
      exact ⟨hK _, { hworld with network := rfl, requests := hrequests _ _ }, hfaults, .nil⟩
  | cons hanswer hrest =>
      exact ⟨hanswer, { hworld with requests := hrequests _ _ }, hfaults, hrest⟩

/-- Requests that are alike get related answers. -/
theorem Operation.alike_exchange {R : α → β → Prop} (hK : ∀ a, K a a) {r q : Http.Request}
    (hrq : r.Alike v q) {f : Http.Answer → Operation α} {g : Http.Answer → Operation β}
    (hfg : ∀ a b, K a b → Operation.Alike σ v K R (f a) (g b)) :
    Operation.Alike σ v K R (send r >>= fun ticket => receive ticket >>= f)
      (send q >>= fun ticket => receive ticket >>= g) := by
  intro x y h
  obtain ⟨hanswer, hworld⟩ := h.exchange hK hrq
  have hx := Exposed.run_exchange r f x
  have hy := Exposed.run_exchange q g y
  rw [Exposed.run] at hx hy
  rw [hx, hy]
  exact hfg _ _ hanswer _ _ hworld

end

end SessionKeeper
