import SessionKeeper.Proofs.Api.Bearer
import SessionKeeper.Proofs.Json.Texts

/-!
# Credentials on their way

Whoever signs in or registers sends one request, which says the email and the password and nothing
else: a body is decoded to the credentials it was made of, whatever characters are in them. It makes
no difference to the request whether the manager is asked or the server is called directly.
-/

namespace SessionKeeper

open ApiClient Program

/-! ## The body -/

namespace Credentials

/-- What is said of credentials, under its keys. -/
def fields (credentials : Credentials) : List (String × String) :=
  [("email", credentials.email), ("password", credentials.password)]

/-- The body of a request with credentials, as it is sent. -/
def body (credentials : Credentials) : String :=
  credentials.toValue.compact

theorem toValue_eq (credentials : Credentials) :
    credentials.toValue = Json.objectOf credentials.fields :=
  rfl

theorem fields_injective {first second : Credentials} (h : first.fields = second.fields) :
    first = second := by
  obtain ⟨email, password⟩ := first
  obtain ⟨email', password'⟩ := second
  simpa [fields] using h

/-- Credentials are written with ascending keys, so that putting these in order changes nothing. -/
theorem normalized_toValue (credentials : Credentials) :
    credentials.toValue.normalized = credentials.toValue := by
  have hkeys : ¬ "password" < "email" := by decide
  simp [toValue, Json.Value.normalized, Json.normalizedMembers, Json.putMember, hkeys]

theorem decodes_body_iff (credentials : Credentials) (fields : List (String × String)) :
    Json.Decodes credentials.body fields ↔ fields = credentials.fields := by
  rw [body, toValue_eq, Json.decodes_compact_iff]

theorem body_injective {first second : Credentials} (h : first.body = second.body) :
    first = second := by
  have hdecodes := (decodes_body_iff first first.fields).mpr rfl
  rw [h] at hdecodes
  exact fields_injective ((decodes_body_iff second _).mp hdecodes)

theorem parseValue_body (credentials : Credentials) :
    Call.parseValue credentials.body = .ok credentials.toValue := by
  have hdecodes := (decodes_body_iff credentials credentials.fields).mpr rfl
  rw [Call.parseValue, hdecodes.readWhole_eq]
  exact congrArg Except.ok credentials.normalized_toValue

end Credentials

/-! ## What is found of the token -/

namespace Turn

/-- What a turn has read of the session. -/
def reading? : Turn clientSteps → Option (Except StoreError (Option String))
  | ⟨.get key, answer⟩ => if key = Session.key then some answer else none
  | _ => none

theorem reading?_get (answer : Except StoreError (Option String)) :
    reading? ⟨.get Session.key, answer⟩ = some answer := by
  simp [reading?]

end Turn

namespace ApiClient

/-- The token that an answer of the store holds. -/
def tokenOf : Except StoreError (Option String) → Option String
  | .ok (some stored) => (storedToken stored).toOption.join
  | _ => none

/-- The authorization that a token gives. -/
def bearerFor (token : String) : Option String :=
  if token = "" then none
  else if Http.isHeaderValue (Http.bearer token) then some (Http.bearer token)
  else none

/-- Of what is stored only the token counts. -/
theorem bearerOf_eq (answer : Except StoreError (Option String)) :
    bearerOf answer = (tokenOf answer).bind bearerFor := by
  cases answer with
  | error e => rfl
  | ok text =>
      cases text with
      | none => rfl
      | some stored =>
          rw [bearerOf, tokenOf]
          cases storedToken stored with
          | error e => rfl
          | ok token => cases token <;> rfl

end ApiClient

/-- The tokens that were found whenever the session was read. -/
def Turn.tokens (turns : List (Turn clientSteps)) : List (Option String) :=
  (turns.filterMap Turn.reading?).map tokenOf

theorem Turn.tokenOf_mem {answer : Except StoreError (Option String)}
    {turns : List (Turn clientSteps)} (h : ⟨.get Session.key, answer⟩ ∈ turns) :
    tokenOf answer ∈ Turn.tokens turns :=
  List.mem_map_of_mem (List.mem_filterMap.mpr ⟨_, h, reading?_get answer⟩)

/-! ## The request -/

namespace ApiClient

variable {α β : Type} {c : ApiClient} {method : Http.Method} {path : String} {body : Option String}

theorem body_request (c : ApiClient) (method : Http.Method) (url : Url.HttpUrl)
    (token body : Option String) : (c.request method url token body).body = body := by
  rw [request]
  split <;> rfl

theorem Sends.body_eq {op : Operation α} (h : c.Sends method path body op) {V : Type}
    {E : Effects clientSteps V} {v w : V} {turns : List (Turn clientSteps)} {a : α}
    (hruns : Runs E op v turns a w) {request : Http.Request}
    (hmem : request ∈ Turn.requests turns) : request.body = body := by
  obtain ⟨answer, -, -, hrequests⟩ := h hruns
  rw [hrequests, Option.mem_toList] at hmem
  obtain ⟨url, -, rfl⟩ := exists_url_of_request? hmem
  exact c.body_request method url _ body

/-- Two operations send the same requests, in any two runs in which the session is read with the
same token in it. -/
def SendAlike (first : Operation α) (second : Operation β) : Prop :=
  ∀ ⦃V W : Type⦄ ⦃E : Effects clientSteps V⦄ ⦃F : Effects clientSteps W⦄
    ⦃v turns a v' w others b w'⦄, Runs E first v turns a v' → Runs F second w others b w' →
      (∀ token ∈ Turn.tokens turns, ∀ other ∈ Turn.tokens others, token = other) →
        Turn.requests turns = Turn.requests others

theorem Sends.sendAlike {first : Operation α} {second : Operation β}
    (h : c.Sends method path body first) (h' : c.Sends method path body second) :
    SendAlike first second := by
  intro V W E F v turns a v' w others b w' hruns hruns' htokens
  obtain ⟨answer, hget, -, hrequests⟩ := h hruns
  obtain ⟨answer', hget', -, hrequests'⟩ := h' hruns'
  have htoken := htokens _ (Turn.tokenOf_mem hget) _ (Turn.tokenOf_mem hget')
  rw [hrequests, hrequests', bearerOf_eq, bearerOf_eq, htoken]

end ApiClient

/-! ## Calls with credentials -/

namespace Call

/-- The path that a call sends credentials to, and the credentials. -/
def submission? : Call → Option (String × Credentials)
  | .login credentials => some ("/login", credentials)
  | .signIn credentials => some ("/login", credentials)
  | .register credentials => some ("/register", credentials)
  | .registerUser credentials _ => some ("/register", credentials)
  | _ => none

theorem sends_submission (c : ApiClient) {call : Call} {path : String} {credentials : Credentials}
    (h : call.submission? = some (path, credentials)) :
    c.Sends .post path (some credentials.body) (call.noting c) := by
  refine sends_noting c ?_
  cases call with
  | login => cases h; rfl
  | signIn => cases h; rfl
  | register => cases h; rfl
  | registerUser => cases h; rfl
  | _ => cases h

/-- A call with credentials posts them and sends nothing else. The body is decoded to the email and
the password and to nothing else, so that different credentials have different bodies. Calls with
the same credentials to the same path send the same request for the same token. -/
theorem sends_credentials_exactly (c : ApiClient) :
    (∀ {call : Call} {path : String} {credentials : Credentials},
      call.submission? = some (path, credentials) →
        c.Sends .post path (some credentials.body) (call.noting c)) ∧
    (∀ (credentials : Credentials) (fields : List (String × String)),
      Json.Decodes credentials.body fields ↔
        fields = [("email", credentials.email), ("password", credentials.password)]) ∧
    (∀ credentials : Credentials,
      Call.parseValue credentials.body =
        .ok (.object [("email", .text credentials.email),
          ("password", .text credentials.password)])) ∧
    (∀ first second : Credentials, first.body = second.body ↔ first = second) ∧
    ∀ {first second : Call} {path : String} {credentials : Credentials},
      first.submission? = some (path, credentials) →
      second.submission? = some (path, credentials) →
        SendAlike (first.noting c) (second.noting c) :=
  ⟨sends_submission c, Credentials.decodes_body_iff, Credentials.parseValue_body,
    fun _ _ => ⟨Credentials.body_injective, congrArg Credentials.body⟩,
    fun hfirst hsecond => (sends_submission c hfirst).sendAlike (sends_submission c hsecond)⟩

/-- Credentials with an email that reads like the rest of a body, and a password that ends in a
backslash. -/
def quoting : Credentials :=
  ⟨"a\",\"password\":\"b\"\x7d", "\n\\"⟩

theorem sends_credentials_exactly_of_quoting :
    ∃ request, Turn.requests (turns Sample.client (.login quoting) (holding reordered)) =
        [request] ∧
      Turn.requests (turns Sample.client (.signIn quoting) (holding reordered)) = [request] ∧
      request.body = some quoting.body ∧
      Json.Decodes quoting.body [("email", quoting.email), ("password", quoting.password)] := by
  obtain ⟨hsends, hdecodes, -, -, halike⟩ := sends_credentials_exactly Sample.client
  have hlogin : (Call.login quoting).submission? = some ("/login", quoting) := rfl
  have hsignIn : (Call.signIn quoting).submission? = some ("/login", quoting) := rfl
  have hlength : (Turn.requests (turns Sample.client (.login quoting)
      (holding reordered))).length = 1 := by
    decide +kernel
  have htokens : Turn.tokens (turns Sample.client (.login quoting) (holding reordered)) =
      [some "t"] := by
    decide +kernel
  have htokens' : Turn.tokens (turns Sample.client (.signIn quoting) (holding reordered)) =
      [some "t"] := by
    decide +kernel
  have hruns := Exposed.runs_acts ((Call.login quoting).noting Sample.client) (holding reordered)
  have hsame : Turn.requests (turns Sample.client (.login quoting) (holding reordered)) =
      Turn.requests (turns Sample.client (.signIn quoting) (holding reordered)) := by
    refine halike hlogin hsignIn hruns (Exposed.runs_acts _ _) ?_
    rw [htokens, htokens']
    simp
  obtain ⟨request, hrequest⟩ := List.length_eq_one_iff.mp hlength
  refine ⟨request, hrequest, hsame ▸ hrequest, (hsends hlogin).body_eq hruns ?_,
    (hdecodes _ _).mpr rfl⟩
  exact hrequest ▸ List.mem_singleton_self request

end Call

end SessionKeeper
