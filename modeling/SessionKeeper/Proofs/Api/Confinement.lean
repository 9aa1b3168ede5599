import SessionKeeper.Proofs.Api.Requests
import SessionKeeper.Proofs.Manager.History
import SessionKeeper.Proofs.Url.Join

/-!
# Where requests lead

Every request leads to the server that the base URL names, whatever path it is for. So the API key
and the token are told to nobody else, and whether the own machine is meant can be decided before
any path is known.
-/

namespace SessionKeeper

open Program

/-- A step that sends no request but this one, for the URL of a path. -/
def ClientStep.Leads (c : ApiClient) (path : String) : ClientStep → Prop
  | .send request => ∃ method url token body, Url.parse (c.urlText path) = .ok url ∧
      request = c.request method url token body
  | _ => True

theorem ClientStep.leads_of_mute {c : ApiClient} {path : String} {step : ClientStep}
    (h : step.Mute) : step.Leads c path := by
  cases step with
  | send => cases h
  | _ => trivial

namespace ApiClient

variable {settings : Settings} {c : ApiClient}

/-! ## The base and its paths -/

/-- A text is what is left of it without the slashes at its end, or that and some slashes. -/
theorem eq_or_eq_slashes (s : String) :
    s = dropTrailingSlashes s ∨ ∃ more : String, more.toList.all Url.isSlash = true ∧
      s = dropTrailingSlashes s ++ "/" ++ more := by
  obtain ⟨slashes, hslashes, heq⟩ := Url.trimEnd_append_trimmed (fun c => c == '/') s.toList
  have hs : s.toList = (dropTrailingSlashes s).toList ++ slashes := by
    rw [dropTrailingSlashes, String.toList_ofList, heq]
  cases slashes with
  | nil => exact .inl (String.toList_inj.mp (by rw [hs, List.append_nil]))
  | cons slash more =>
      obtain rfl : slash = '/' := by simpa using hslashes slash List.mem_cons_self
      refine .inr ⟨String.ofList more, List.all_eq_true.mpr fun c hc => ?_,
        String.toList_inj.mp ?_⟩
      · rw [String.toList_ofList] at hc
        rw [Url.isSlash, hslashes c (List.mem_cons_of_mem _ hc), Bool.true_or]
      · simp [String.toList_append, hs]

theorem eq_of_new (hnew : ApiClient.new settings = .ok c) :
    c = ⟨dropTrailingSlashes settings.baseUrl, settings.apiKey,
      if Url.isLoopback settings.baseUrl then .direct else .proxy⟩ := by
  rw [ApiClient.new] at hnew
  split at hnew
  next => exact (Except.ok.inj hnew).symm
  next => cases hnew

/-- The URL of a path leads where the base leads. -/
theorem authority_of_urlText (hnew : ApiClient.new settings = .ok c) {base url : Url.HttpUrl}
    (hbase : Url.parse settings.baseUrl = .ok base) {path : String}
    (hurl : Url.parse (c.urlText path) = .ok url) : url.authority = base.authority := by
  rw [eq_of_new hnew, urlText] at hurl
  dsimp only at hurl
  rcases eq_or_eq_slashes settings.baseUrl with hsame | ⟨more, hslashes, hmore⟩
  · rw [← hsame] at hurl
    exact Url.authority_join hbase hurl
  · rw [hmore] at hbase
    exact Url.authority_join_join hslashes hbase hurl

theorem isLoopback_of_parse {text : String} {url : Url.HttpUrl} (h : Url.parse text = .ok url) :
    Url.isLoopback text = Url.isLoopbackText url.authority.host.write := by
  rw [Url.isLoopback, h]

/-! ## The requests of a call -/

/-- A call asks for the URL of its path and for no other. -/
theorem leads_call {α : Type} (c : ApiClient) (method : Http.Method) (path : String)
    (body : Option String) (parse : String → Except Json.Error α) :
    (c.call method path body parse).Within (ClientStep.Leads c path) := by
  refine .bind (.perform trivial) fun _ => .bind
    (looks_authorization.mono fun _ h => ClientStep.leads_of_mute h.aside.mute) fun token => ?_
  split
  next => exact .pure _
  next url hurl =>
    dsimp only
    split
    next =>
      refine .bind (.perform ⟨method, url, token, body, hurl, rfl⟩) fun ticket =>
        .bind (.perform trivial) fun answer => ?_
      exact (aside_handle ..).mono fun _ h => ClientStep.leads_of_mute h.mute
    next => exact .pure _

/-- The user in a URL is all that may be left out where it is sent. -/
theorem url_request (method : Http.Method) (url : Url.HttpUrl) (token body : Option String) :
    (c.request method url token body).url = url ∨
      (c.request method url token body).url = url.withoutUser := by
  rw [request]
  split
  next => exact .inl rfl
  next => exact .inr rfl

theorem route_request (method : Http.Method) (url : Url.HttpUrl) (token body : Option String) :
    (c.request method url token body).route = c.route := by
  rw [request]
  split <;> rfl

/-- Requests are confined to the server of the base. For every base that is a URL and every path:
if the joined text is a URL, it names the scheme, user, host and port of the base. So every request
of a call goes to the scheme, host and port of the base, in any world; it goes there directly
exactly if the URL that is asked for is one of the own machine, which is exactly if the URL that is
sent is one. -/
theorem confined_to_base {settings : Settings} {c : ApiClient} {base : Url.HttpUrl}
    (hnew : ApiClient.new settings = .ok c) (hbase : Url.parse settings.baseUrl = .ok base) :
    (∀ (path : String) (url : Url.HttpUrl), Url.parse (c.urlText path) = .ok url →
      url.authority = base.authority) ∧
    ∀ {σ α : Type} [Store σ] (x : Exposed σ) (method : Http.Method) (path : String)
      (body : Option String) (parse : String → Except Json.Error α),
      ∀ request ∈ Turn.requests
        ((c.call method path body parse).turns (Exposed.handler σ) x),
      request.url.withoutUser.authority = base.withoutUser.authority ∧
        (request.url.authority = base.authority ∨
          request.url.authority = base.withoutUser.authority) ∧
        (request.route = .direct ↔ Url.isLoopback (c.urlText path) = true) ∧
        (request.route = .direct ↔
          Url.isLoopbackText request.url.authority.host.write = true) := by
  refine ⟨fun path url hurl => authority_of_urlText hnew hbase hurl, ?_⟩
  intro σ α _ x method path body parse request hrequest
  obtain ⟨t, ht, hsent⟩ := List.mem_filterMap.mp hrequest
  have hstep := (leads_call c method path body parse).step_of_mem (Exposed.runs_acts _ x) t ht
  obtain ⟨step, answer⟩ := t
  cases step with
  | send sent =>
      obtain rfl : sent = request := Option.some.inj hsent
      obtain ⟨method, url, token, body, hurl, rfl⟩ := hstep
      have hauthority := authority_of_urlText hnew hbase hurl
      have hroute : (c.request method url token body).route = .direct ↔
          Url.isLoopbackText url.authority.host.write = true := by
        rw [route_request, eq_of_new hnew, hauthority, ← isLoopback_of_parse hbase]
        cases Url.isLoopback settings.baseUrl <;> simp
      have hserver : url.withoutUser.authority = base.withoutUser.authority := by
        rw [Url.HttpUrl.withoutUser, Url.HttpUrl.withoutUser, hauthority]
      rw [isLoopback_of_parse hurl]
      rcases c.url_request method url token body with hsame | hsame
      · rw [hsame]
        exact ⟨hserver, .inl hauthority, hroute, hroute⟩
      · rw [hsame]
        exact ⟨hserver, .inr hserver, hroute, hroute⟩
  | _ => cases hsent

end ApiClient

namespace Sample

/-- Settings whose base has a user, backslashes, a short address, and a tab before its last
slashes. -/
def looseSettings : Settings :=
  ⟨"http:\\\\u:p@127.1:080\t//", "key", 30, .memory, none⟩

/-- The client for these settings. -/
def looseClient : ApiClient :=
  ⟨"http:\\\\u:p@127.1:080\t", "key", .direct⟩

/-- The server of these settings. -/
def ownServer : Url.HttpUrl :=
  ⟨⟨.http, ['u'], some ['p'], .address (.v4 2130706433), none⟩, ['/', '/'], none, none⟩

/-- A path that looks like another server. -/
def foreignPath : String := "@other.test/\t../x?y#z"

/-- The requests of a call for this path. -/
def foreignRequests : List Http.Request :=
  Turn.requests ((looseClient.call .get foreignPath none Call.parseValue).turns
    (Exposed.handler MemoryStore) (sound [grant]))

end Sample

/-- A request for a path that looks like another server goes to the own machine, directly. -/
theorem ApiClient.confined_to_base_of_foreignPath :
    Sample.foreignRequests.length = 1 ∧ ∀ request ∈ Sample.foreignRequests,
      request.url.withoutUser.authority = Sample.ownServer.withoutUser.authority ∧
        request.route = .direct := by
  have hnew : ApiClient.new Sample.looseSettings = .ok Sample.looseClient := by
    decide +kernel
  have hbase : Url.parse Sample.looseSettings.baseUrl = .ok Sample.ownServer := by
    decide +kernel
  refine ⟨by decide +kernel, fun request hrequest => ?_⟩
  obtain ⟨hserver, hauthority, -, hroute⟩ :=
    (confined_to_base hnew hbase).2 _ _ _ _ _ request hrequest
  refine ⟨hserver, hroute.mpr ?_⟩
  rcases hauthority with h | h <;> (rw [h]; decide +kernel)

end SessionKeeper
