import SessionKeeper.Proofs.Api.Requests
import SessionKeeper.Proofs.Manager.Restart
import SessionKeeper.Proofs.StoredToken

/-!
# The token of whoever is restored

A stored text that is restored as a session has the token of that session in it, but a request finds
the token only if the text is an object. A session that is stored as a list is restored while the
requests go out in nobody's name.
-/

namespace SessionKeeper

/-! ## Header values -/

namespace Text

theorem toList_loop (bytes : ByteArray) (i : Nat) (read : List UInt8) :
    ByteArray.toList.loop bytes i read = read.reverse ++ bytes.data.toList.drop i := by
  rw [ByteArray.toList.loop]
  split
  next h =>
    have hlt : i < bytes.data.toList.length := by simpa using h
    rw [toList_loop, List.drop_eq_getElem_cons hlt]
    simp [ByteArray.get!, getElem!_pos, h]
  next h =>
    have hle : bytes.data.toList.length ≤ i := by simpa using h
    rw [List.drop_eq_nil_of_le hle, List.append_nil]
termination_by bytes.size - i

theorem bytes_append (s t : String) :
    (s ++ t).toUTF8.toList = s.toUTF8.toList ++ t.toUTF8.toList := by
  simp [ByteArray.toList, toList_loop]

end Text

namespace Http

/-- A token is authorized by a header value exactly if it may stand in one itself. -/
theorem isHeaderValue_bearer (token : String) :
    isHeaderValue (bearer token) = isHeaderValue token := by
  have hscheme : "Bearer ".toUTF8.toList.all isHeaderByte = true := by decide +kernel
  rw [isHeaderValue, bearer, Text.bytes_append, List.all_append, hscheme, Bool.true_and]
  rfl

theorem basic_ne_bearer (user password token : String) : basic user password ≠ bearer token := by
  intro h
  have hchars := congrArg String.toList h
  simp [basic, bearer, String.toList_append] at hchars

end Http

/-! ## One request -/

namespace ApiClient

theorem bearerOf_of_token {text token : String} (h : storedToken text = .ok (some token))
    (hfull : token ≠ "") (hlegal : Http.isHeaderValue token = true) :
    bearerOf (.ok (some text)) = some (Http.bearer token) := by
  rw [bearerOf, h]
  dsimp only
  rw [if_neg hfull, if_pos (by rwa [Http.isHeaderValue_bearer])]

theorem bearerOf_of_error {text : String} {e : Json.Error} (h : storedToken text = .error e) :
    bearerOf (.ok (some text)) = none := by
  rw [bearerOf, h]

variable (c : ApiClient) (method : Http.Method) (url : Url.HttpUrl) (body : Option String)

/-- A token goes before whatever the URL holds. -/
theorem authorization_request_some (value : String) :
    (c.request method url (some value) body).authorization = some value := by
  rw [request]
  split <;> rfl

theorem authorization_request_none :
    (c.request method url none body).authorization = urlAuthorization url := by
  rw [request]
  split
  next hurl => exact hurl.symm
  next value hurl => exact hurl.symm

theorem urlAuthorization_ne_bearer (token : String) :
    urlAuthorization url ≠ some (Http.bearer token) := by
  intro h
  rw [urlAuthorization] at h
  split at h
  next => cases h
  next =>
    dsimp only at h
    split at h
    next => cases h
    next => exact Http.basic_ne_bearer _ _ _ (Option.some.inj h)

/-- A request carries the token of a stored session exactly if the session is stored as an
object. -/
theorem authorization_request_iff {text : String} {s : Session}
    (hparse : Session.parse text = .ok s) (hfull : s.token ≠ "")
    (hlegal : Http.isHeaderValue s.token = true) :
    (c.request method url (bearerOf (.ok (some text))) body).authorization =
      some (Http.bearer s.token) ↔ Session.opensObject text = true := by
  cases hopens : Session.opensObject text with
  | true =>
      have htoken := Session.storedToken_of_opensObject hparse hopens
      rw [bearerOf_of_token htoken hfull hlegal, authorization_request_some]
      exact ⟨fun _ => rfl, fun _ => rfl⟩
  | false =>
      obtain ⟨e, htoken⟩ := Session.storedToken_of_not_opensObject hparse hopens
      rw [bearerOf_of_error htoken, authorization_request_none]
      exact ⟨fun h => absurd h (urlAuthorization_ne_bearer url s.token), nofun⟩

end ApiClient

/-! ## All requests -/

namespace Call

variable {σ : Type} [Store σ]

/-- Let a session be stored whose token can be sent, in any form that is restored. A bootstrap finds
the session. A request of any call carries its token exactly if the session is stored as an object,
unless the store cannot be read when the request is made. -/
theorem carries_token_iff (c : ApiClient) (call : Call) (x : Exposed σ) {text : String}
    {s : Session} (hget : Store.get Session.key x.world.store = .ok (some text))
    (hparse : Session.parse text = .ok s) (hfull : s.token ≠ "")
    (hlegal : Http.isHeaderValue s.token = true) :
    (Manager.bootstrap.run x.world).1 = .ok (some s) ∧
      ((call.turns c x).any Turn.isFailedRead = false →
        ∀ request ∈ Turn.requests (call.turns c x),
          request.authorization = some (Http.bearer s.token) ↔
            Session.opensObject text = true) := by
  constructor
  · have hstored : Session.ofStored (some text) = .ok (some s) := by
      have hempty : text ≠ "" := by
        rintro rfl
        simp [Session.parse, Json.readWhole, Json.Shape.read, Json.skipSpace] at hparse
      rw [Session.ofStored, if_neg (by simpa using hempty)]
      simp [hparse, Except.map]
    exact World.bootstrap_of_get hget hstored
  · intro hreads request hmem
    have hstored : x.storedText = some text := by rw [Exposed.storedText, hget]
    obtain ⟨method, path, url, body, -, rfl⟩ :=
      (honest_noting Exposed.reading_acts c call (Exposed.runs_acts _ x) request hmem).of_reads
        hreads
    rw [hstored]
    exact ApiClient.authorization_request_iff c method url body hparse hfull hlegal

/-- A new client over a memory that holds a text as a session. -/
def holding (text : String) : Exposed MemoryStore :=
  Exposed.calm (World.start ⟨SortedMap.empty.insert Session.key text⟩ .unreachable)

/-- A session as an object with its members in another order, one that is not known, and an escape
in the token. -/
def reordered : String :=
  "\x7b\"device\":[1,null],\"token\":\"\\u0074\",\"id\":\"1\",\"email\":\"mail\"\x7d"

/-- A session as a list. -/
def listed : String :=
  "[\"1\",\"mail\",null,\"t\"]"

theorem carries_token_of_reordered :
    ∃ request, Turn.requests (turns Sample.client (.get "profile") (holding reordered)) =
      [request] ∧ request.authorization = some (Http.bearer "t") := by
  have hparse : Session.parse reordered = .ok ⟨"1", "mail", none, "t"⟩ := by
    decide +kernel
  have hreads : (turns Sample.client (.get "profile") (holding reordered)).any
      Turn.isFailedRead = false := by
    decide +kernel
  have hlength : (Turn.requests (turns Sample.client (.get "profile")
      (holding reordered))).length = 1 := by
    decide +kernel
  obtain ⟨request, hrequests⟩ := List.length_eq_one_iff.mp hlength
  have hcarries := (carries_token_iff Sample.client (.get "profile") (holding reordered)
    rfl hparse (by decide) (by decide +kernel)).2 hreads request
  refine ⟨request, hrequests, (hcarries ?_).mpr (by decide +kernel)⟩
  rw [hrequests]
  exact List.mem_singleton_self request

/-- A session that is stored as a list is restored, but the request is made in nobody's name. -/
theorem not_carries_token_of_listed :
    Session.parse listed = .ok ⟨"1", "mail", none, "t"⟩ ∧
      (Manager.bootstrap.run (holding listed).world).1 = .ok (some ⟨"1", "mail", none, "t"⟩) ∧
      (Turn.requests (turns Sample.client (.get "profile") (holding listed))).map
        (·.authorization) = [none] := by
  refine ⟨?_, ?_, ?_⟩
  all_goals decide +kernel

end Call

end SessionKeeper
