import SessionKeeper.Proofs.Api.Inquiries
import SessionKeeper.Proofs.Manager.Restart
import SessionKeeper.Proofs.RegistrationText

/-!
# The id of a new user

A registration that the server grants gives an id, which becomes part of the session. Whichever way
the server writes the id, the session has one text for it, and that text comes back when the session
is restored. An id of any other kind makes the whole answer invalid, and then nothing has happened.
-/

namespace SessionKeeper

open Program

/-! ## What an answer leads to -/

theorem Auth.decided_register {V : Type} {E : Effects clientSteps V} {c : ApiClient}
    {credentials : Credentials} {v w : V} {turns : List (Turn clientSteps)}
    {result : Except ApiError RegisterResponse}
    (h : Runs E (Auth.register c credentials) v turns result w) :
    c.DecidedBy "/register" RegisterResponse.parse (Turn.answers turns) result
      (Turn.changes turns) := by
  obtain ⟨_, u, first, rest, rfl, hreport, hpost⟩ := runs_bind.mp h
  obtain ⟨rfl, -⟩ := runs_perform.mp hreport
  have hcall : c.DecidedBy "/register" RegisterResponse.parse (Turn.answers rest) result
      (Turn.changes rest) := ApiClient.decided_call hpost
  exact hcall

namespace Manager

variable {c : ApiClient} {credentials : Credentials} {name : Option String}

/-- The session of a user who was registered. -/
def registered (credentials : Credentials) (name : Option String) (r : RegisterResponse) :
    Session :=
  ⟨r.id.getD Session.placeholderId, credentials.email, name, r.token⟩

/-- Registering, given whether the body of a success can be read: the session is in memory and
stored, or the store says why not and nothing has changed; or the body is invalid and nothing has
changed. -/
def Concluded (credentials : Credentials) (name : Option String) (v : Holdings)
    (turns : List (Turn clientSteps)) (result : Except Error Session) (w : Holdings) :
    Except Json.Error RegisterResponse → Prop
  | .ok r =>
    result = .ok (registered credentials name r) ∧
        w = ⟨v.texts.put Session.key (registered credentials name r).render,
          some (registered credentials name r)⟩ ∨
      (∃ e, result = .error (.storage e) ∧
        ⟨.set Session.key (registered credentials name r).render, .error e⟩ ∈ turns) ∧ w = v
  | .error _ => (∃ message, result = .error (.api (.invalidResponse message))) ∧ w = v

theorem Concluded.mono {v w : Holdings} {turns others : List (Turn clientSteps)}
    {result : Except Error Session} {decoded : Except Json.Error RegisterResponse}
    (h : Concluded credentials name v turns result w decoded) (hturns : turns ⊆ others) :
    Concluded credentials name v others result w decoded := by
  cases decoded with
  | error e => exact h
  | ok r =>
      rcases h with hdone | ⟨⟨e, he, hmem⟩, hw⟩
      · exact .inl hdone
      · exact .inr ⟨⟨e, he, hturns hmem⟩, hw⟩

theorem concluded_of_runs
    {rest : Except ApiError RegisterResponse → Operation (Except Error Session)}
    (hok : ∀ r, rest (.ok r) = establish (registered credentials name r))
    (herror : ∀ e, rest (.error e) = rejected "Registration failed" credentials.email e)
    {v w : Holdings} {turns : List (Turn clientSteps)} {result : Except Error Session}
    (h : Runs ClientStep.effect (Auth.register c credentials >>= rest) v turns result w)
    {status : Nat} {body : String} (hanswers : Turn.answers turns = [.received status (.ok body)])
    (hsuccess : ApiClient.isSuccess status = true) :
    Concluded credentials name v turns result w (RegisterResponse.parse body) := by
  obtain ⟨called, u, first, last, rfl, hfirst, hlast⟩ := runs_bind.mp h
  have hlate : Turn.answers last = [] :=
    Turn.answers_of_aside ((aside_behind hok herror called).step_of_mem hlast)
  rw [Turn.answers_append, hlate, List.append_nil] at hanswers
  have hcalled := (Auth.decided_register hfirst).result_eq
  have houtcome := runs_register hfirst
  rw [hanswers, ApiClient.resultFrom, ApiClient.resultOf, if_pos hsuccess,
    ApiClient.decodeBody] at hcalled
  split at hcalled
  next r hparse =>
    subst hcalled
    obtain rfl : u = v := by
      cases houtcome with
      | plain => rfl
    rw [hok] at hlast
    rw [hparse]
    rcases runs_establish_eq hlast with hdone | ⟨⟨e, he, hmem⟩, hw⟩
    · exact .inl hdone
    · exact .inr ⟨⟨e, he, List.mem_append_right first hmem⟩, hw⟩
  next e hparse =>
    subst hcalled
    obtain rfl : u = v := by
      cases houtcome with
      | plain => rfl
      | forgotten _ _ hunauthorized => cases hunauthorized
      | kept => rfl
    rw [herror] at hlast
    obtain ⟨rfl, hw, -⟩ := runs_rejected hlast
    rw [hparse]
    exact ⟨⟨_, rfl⟩, hw⟩

variable {σ : Type} [Store σ] [LawfulStore σ]

/-- Where the one answer is a success that came back whole, whether its body can be read decides how
registering ends. -/
theorem concluded_registerUser {x y : Exposed σ} {result : Except Error Session}
    {turns : List (Turn clientSteps)}
    (hrun : Exposed.run (registerUser c credentials name) x = (result, y))
    (hturns : (registerUser c credentials name).turns (Exposed.handler σ) x = turns)
    {status : Nat} {body : String} (hanswers : Turn.answers turns = [.received status (.ok body)])
    (hsuccess : ApiClient.isSuccess status = true) :
    Concluded credentials name x.holdings turns result y.holdings
      (RegisterResponse.parse body) := by
  rw [registerUser, Exposed.run_exclusive] at hrun
  obtain ⟨rfl, rfl⟩ := Prod.mk.inj hrun
  rw [registerUser, Exposed.turns_exclusive] at hturns
  subst hturns
  -- neither the guard nor the flag is an answer
  have hinner := hanswers
  rw [Turn.answers_append, Turn.answers_append] at hinner
  replace hinner := (List.append_nil _).symm.trans hinner
  refine Concluded.mono (concluded_of_runs (fun _ => rfl) (fun _ => rfl)
    (Exposed.runs_run _ x.busy) hinner hsuccess) ?_
  exact fun t ht => List.mem_append_right _ (List.mem_append_left _ ht)

/-- What is stored for a session is restored by the next client. -/
theorem restored_of_stored {y : Exposed σ} {s : Session}
    (hstored : y.holdings.texts Session.key = some s.render) :
    (∀ faults answers found,
      (Exposed.run bootstrap (y.restart faults answers)).1 = .ok found → found = some s) ∧
    ∀ text, Store.get Session.key y.world.store = .ok text →
      (bootstrap.run y.world.restart).1 = .ok (some s) := by
  have hfound : Session.ofStored (y.holdings.texts Session.key) = .ok (some s) := by
    rw [hstored]
    simp [Session.ofStored, Session.render_ne_empty, Session.parse_render, Except.map]
  refine ⟨fun faults answers found h => ?_, fun text hget => ?_⟩
  · have hrestored := Exposed.stored_of_bootstrap h
    exact Except.ok.inj (hrestored.symm.trans hfound)
  · refine World.bootstrap_of_get (w := y.world.restart) hget ?_
    rw [LawfulStore.texts_of_get hget]
    exact hfound

/-- The id of a new user. Let the one answer be a success whose body is an object with one token. If
the id is missing, `null`, a string, or an integer of 64 bits, the body can be read, and there is no
id, none, the string, or the digits of the integer, which no other integer has. The session then has
this id, or the placeholder for none; it is in memory and stored, and the next client restores it;
unless the store refused it, and then nothing has changed. For any other id, or for two, the answer
is invalid and nothing has changed. What was read comes back from the text it is written as. -/
theorem registerUser_id (c : ApiClient) (credentials : Credentials) (name : Option String)
    {x y : Exposed σ} {result : Except Error Session} {turns : List (Turn clientSteps)}
    (hrun : Exposed.run (registerUser c credentials name) x = (result, y))
    (hturns : (registerUser c credentials name).turns (Exposed.handler σ) x = turns)
    {status : Nat} {body : String} (hanswers : Turn.answers turns = [.received status (.ok body)])
    (hstatus : 200 ≤ status ∧ status < 300) {fields : List (String × List Char)}
    (hbody : Json.IsObject fields body) {text : List Char} {token : String}
    (htoken : Json.textsOf "token" fields = [text]) (htext : Json.Quotes text token) :
    (∀ r, RegisterResponse.parse body = .ok r ↔
      r.token = token ∧ Json.OrMissing RegisterResponse.IsId (Json.textsOf "id" fields) r.id) ∧
    (∀ literal n, Json.Denotes literal n ↔ literal = (toString n).toList) ∧
    (∀ m n : Int, toString m = toString n ↔ m = n) ∧
    (∀ id, Json.OrMissing RegisterResponse.IsId (Json.textsOf "id" fields) id →
      ∃ s : Session,
        s = ⟨id.getD Session.placeholderId, credentials.email, name, token⟩ ∧
        (result = .ok s ∧ y.world.session = some s ∧
          (∀ faults answers found,
            (Exposed.run bootstrap (y.restart faults answers)).1 = .ok found → found = some s) ∧
          (∀ text, Store.get Session.key y.world.store = .ok text →
            (bootstrap.run y.world.restart).1 = .ok (some s)) ∨
        (∃ e, result = .error (.storage e) ∧ ⟨.set Session.key s.render, .error e⟩ ∈ turns) ∧
          y.holdings = x.holdings)) ∧
    ((∀ id, ¬ Json.OrMissing RegisterResponse.IsId (Json.textsOf "id" fields) id) →
      (∃ message, result = .error (.api (.invalidResponse message))) ∧
        y.holdings = x.holdings) ∧
    ∀ r : RegisterResponse, RegisterResponse.parse r.toValue.compact = .ok r := by
  have hparse : ∀ r, RegisterResponse.parse body = .ok r ↔
      r.token = token ∧ Json.OrMissing RegisterResponse.IsId (Json.textsOf "id" fields) r.id := by
    intro r
    rw [RegisterResponse.parse_eq_ok_iff hbody]
    constructor
    · rintro ⟨hid, text', hgiven, htext'⟩
      obtain ⟨rfl, -⟩ := List.cons.inj (htoken.symm.trans hgiven)
      exact ⟨htext'.unique htext, hid⟩
    · rintro ⟨rfl, hid⟩
      exact ⟨hid, text, htoken, htext⟩
  have hconcluded := concluded_registerUser hrun hturns hanswers
    (by simpa [ApiClient.isSuccess] using hstatus)
  refine ⟨hparse, fun _ _ => Json.denotes_iff, fun _ _ => Json.toString_inj, fun id hid => ?_,
    fun hnone => ?_, RegisterResponse.parse_compact⟩
  · rw [(hparse ⟨id, token⟩).mpr ⟨rfl, hid⟩] at hconcluded
    refine ⟨_, rfl, ?_⟩
    rcases hconcluded with ⟨hresult, hy⟩ | hrefused
    · refine .inl ⟨hresult, congrArg Holdings.session hy, restored_of_stored ?_⟩
      rw [hy]
      exact Texts.put_self Session.key (registered credentials name ⟨id, token⟩).render
        x.holdings.texts
    · exact .inr hrefused
  · cases hdecoded : RegisterResponse.parse body with
    | ok r => exact absurd ((hparse r).mp hdecoded).2 (hnone r.id)
    | error e =>
        rw [hdecoded] at hconcluded
        exact hconcluded

end Manager

namespace Sample

deriving instance DecidableEq for Http.Answer

/-- An answer that grants a token to a new user, with a number for the id. -/
def numbered : Http.Answer :=
  .received 200 (.ok "\x7b\"id\": -7,\"token\":\"t\"\x7d")

/-- The fields of that answer. -/
def numberedFields : List (String × List Char) :=
  [("id", (toString (-7 : Int)).toList), ("token", Json.writeString "t")]

theorem isObject_numbered :
    Json.IsObject numberedFields "\x7b\"id\": -7,\"token\":\"t\"\x7d" := by
  have hid : Json.Denotes (toString (-7 : Int)).toList (-7) := Json.denotes_iff.mpr rfl
  have hend : Json.Members false [] ['}'] [] := .nil rfl
  have hkey : Json.skipSpace "\"token\":\"t\"\x7d".toList =
      Json.writeString "token" ++ ':' :: "\"t\"\x7d".toList := rfl
  have htoken : Json.Members false [("token", Json.writeString "t")]
      ",\"token\":\"t\"\x7d".toList [] :=
    .written rfl hkey rfl (Json.isScalar_writeString "t") hend
  have hkey' : Json.skipSpace "\"id\": -7,\"token\":\"t\"\x7d".toList =
      Json.writeString "id" ++ ':' :: " -7,\"token\":\"t\"\x7d".toList := rfl
  have hmembers : Json.Members true numberedFields "\"id\": -7,\"token\":\"t\"\x7d".toList [] :=
    .written rfl hkey' rfl (.number hid.isNumber) htoken
  exact ⟨_, [], rfl, hmembers, rfl⟩

end Sample

/-- The server gives a number for the id, and the session that is restored has its digits. -/
theorem Manager.registerUser_id_of_number :
    (bootstrap.run (Exposed.run (registerUser Sample.client Sample.credentials none)
      (Sample.sound [Sample.numbered])).2.world.restart).1 =
      .ok (some ⟨"-7", "mail", none, "t"⟩) := by
  have hresult : (Exposed.run (registerUser Sample.client Sample.credentials none)
      (Sample.sound [Sample.numbered])).1 = .ok ⟨"-7", "mail", none, "t"⟩ := by
    decide +kernel
  have hanswers : Turn.answers ((registerUser Sample.client Sample.credentials none).turns
      (Exposed.handler MemoryStore) (Sample.sound [Sample.numbered])) = [Sample.numbered] := by
    decide +kernel
  have hid : Json.OrMissing RegisterResponse.IsId (Json.textsOf "id" Sample.numberedFields)
      (some (toString (-7 : Int))) :=
    .given (.integer (Json.denotes_iff.mpr rfl) (by decide) (by decide))
  -- the run is settled: from here on only what it leads to has a name
  obtain ⟨turns, hturns⟩ : ∃ turns, (registerUser Sample.client Sample.credentials none).turns
      (Exposed.handler MemoryStore) (Sample.sound [Sample.numbered]) = turns := ⟨_, rfl⟩
  rw [hturns] at hanswers
  cases hrun : Exposed.run (registerUser Sample.client Sample.credentials none)
    (Sample.sound [Sample.numbered]) with
  | mk result y =>
      rw [hrun] at hresult
      obtain rfl : result = .ok ⟨"-7", "mail", none, "t"⟩ := hresult
      have hall := registerUser_id Sample.client Sample.credentials none hrun hturns hanswers
        (by decide) Sample.isObject_numbered rfl (Json.quotes_writeString "t")
      obtain ⟨s, rfl, ⟨-, -, -, hrestored⟩ | ⟨⟨e, he, -⟩, -⟩⟩ := hall.2.2.2.1 _ hid
      · exact hrestored _ rfl
      · cases he

end SessionKeeper
