import SessionKeeper.Proofs.Api.Bearer
import SessionKeeper.Proofs.Api.History
import SessionKeeper.Proofs.Url.Join

/-!
# No token but the latest

A token goes from the answer of the server into the session, from there into the store, and from the
stored text into the next request. Along any history a request carries the token of the latest
session or none, because the stored session is the latest one and a base without a user leaves
nothing else to send.
-/

namespace SessionKeeper

/-! ## Requests below a base without a user -/

namespace ApiClient

theorem urlAuthorization_of_no_user {url : Url.HttpUrl} (huser : url.authority.user = [])
    (hpassword : url.authority.password = none) : urlAuthorization url = none := by
  have hempty : Text.decode ⟨(Url.decodePercent []).toArray⟩ = some "" := by decide
  rw [urlAuthorization, huser, hempty, hpassword]
  rfl

/-- Below a base that is more than a scheme and names no user, no path names one. -/
theorem urlAuthorization_of_urlText {c : ApiClient} (huser : Url.namesUser c.baseUrl = false)
    (hbare : Url.isBareScheme c.baseUrl = false) {path : String} {url : Url.HttpUrl}
    (hurl : Url.parse (c.urlText path) = .ok url) : urlAuthorization url = none := by
  have hnames := Url.namesUser_of_parse hurl
  rw [urlText, Url.namesUser_join hbare, huser] at hnames
  obtain ⟨hname, hpassword⟩ := Prod.mk.inj (bne_eq_false_iff_eq.mp hnames.symm)
  exact urlAuthorization_of_no_user hname hpassword

theorem authorization_request (c : ApiClient) (method : Http.Method) {url : Url.HttpUrl}
    (hurl : urlAuthorization url = none) (token body : Option String) :
    (c.request method url token body).authorization = token := by
  cases token with
  | none => rw [authorization_request_none, hurl]
  | some token => rw [authorization_request_some]

/-- The authorization that a stored session gives: its token, if it can be sent. -/
theorem bearerOf_render (s : Session) :
    bearerOf (.ok (some s.render)) =
      if s.token = "" then none
      else if Http.isHeaderValue s.token then some (Http.bearer s.token) else none := by
  rw [bearerOf, Session.storedToken_render, ← Http.isHeaderValue_bearer]

end ApiClient

/-! ## Requests of a history -/

namespace Deed

open ApiClient

variable {σ : Type} [Store σ] [LawfulStore σ]

/-- The requests of a deed are made with what is stored before it. -/
theorem madeBy_of_mem {c : ApiClient} {d : Deed} {x : Exposed σ} {request : Http.Request}
    (h : request ∈ Turn.requests (d.run c x).1.turns) :
    c.MadeBy (x.holdings.texts Session.key) (d.run c x).1.turns request := by
  cases d with
  | call made =>
      exact Call.honest_noting ClientStep.reading_effect c made (Exposed.runs_run _ x) request h
  | expire e =>
      have hmute : (ManagerCall.operation c (.expire e)).Within ClientStep.Mute :=
        .bind ((Manager.local_expireIfUnauthorized e).mono fun _ => ClientStep.Local.mute)
          fun _ => .pure _
      have hhonest : c.Honest ClientStep.effect (fun v => v.texts Session.key)
          (ManagerCall.operation c (.expire e)) := honest_of_mute hmute
      exact hhonest (Exposed.runs_run _ x) request h
  | restart => cases h

/-- Along every history that begins with no stored session, in which nothing but the library writes
it, each request carries no authorization, or the token of the latest session that a sign-in or
registration gave and that was not removed since. It does carry that token if there is such a
session, its token can be sent and the store could be read. The server may answer anything, and any
call of the store may fail. The base of the client names no user and is more than a scheme. -/
theorem carries_latest {c : ApiClient} (huser : Url.namesUser c.baseUrl = false)
    (hbare : Url.isBareScheme c.baseUrl = false) {x : Exposed σ}
    (hempty : x.holdings.texts Session.key = none) {ds : List Deed}
    (hmeddles : ∀ d ∈ ds, d.meddles = false) {earlier later : List Past} {p : Past}
    (hsplit : history c ds x = earlier ++ p :: later) {request : Http.Request}
    (hrequest : request ∈ Turn.requests p.turns) :
    (request.authorization = none ∨ ∃ s, Past.latest earlier = some s ∧
        request.authorization = some (Http.bearer s.token)) ∧
      (p.turns.any Turn.isFailedRead = false → ∀ s, Past.latest earlier = some s →
        s.token ≠ "" → Http.isHeaderValue s.token = true →
          request.authorization = some (Http.bearer s.token)) := by
  have hstart : Past.Stored none x.holdings := hempty
  obtain ⟨d, -, y, rfl, hstored⟩ := stored_before hmeddles hstart hsplit
  have htexts : y.holdings.texts Session.key = (Past.latest earlier).map Session.render := hstored
  have hmade := madeBy_of_mem hrequest
  rw [htexts] at hmade
  constructor
  · obtain ⟨method, path, url, body, answer, hurl, -, hanswer, rfl⟩ := hmade
    rw [authorization_request c method (urlAuthorization_of_urlText huser hbare hurl)]
    cases answer with
    | error e => exact .inl rfl
    | ok text =>
        rw [hanswer text rfl]
        cases Past.latest earlier with
        | none => exact .inl rfl
        | some s =>
            rw [Option.map_some, bearerOf_render]
            split
            next => exact .inl rfl
            next =>
              split
              next => exact .inr ⟨s, rfl, rfl⟩
              next => exact .inl rfl
  · intro hreads s hlatest hfull hlegal
    obtain ⟨method, path, url, body, hurl, rfl⟩ := hmade.of_reads hreads
    rw [authorization_request c method (urlAuthorization_of_urlText huser hbare hurl), hlatest,
      Option.map_some, bearerOf_render, if_neg hfull, if_pos hlegal]

/-- What somebody did who signed in, asked for a profile, signed out and asked again, with all
requests granted. -/
def visit : List Past :=
  history Sample.client
    [.call (.signIn Sample.credentials), .call (.get "profile"), .call .signOut, .call (.get "")]
    (Sample.sound (List.replicate 3 Sample.grant))

/-- The first request behind the sign-in carries its token. -/
theorem carries_latest_of_visit :
    ∃ request, visit[1]?.map (fun p => Turn.requests p.turns) = some [request] ∧
      request.authorization = some (Http.bearer "t") := by
  have hlatest : Past.latest (visit.take 1) = some ⟨"1", "mail", none, "t"⟩ := by
    decide +kernel
  have hcount : visit.map (fun p => (Turn.requests p.turns).length) = [1, 1, 0, 1] := by
    decide +kernel
  have hreads : visit.map (fun p => p.turns.any Turn.isFailedRead) = List.replicate 4 false := by
    decide +kernel
  obtain ⟨signIn, profile, later, hvisit⟩ :
      ∃ signIn profile later, visit = [signIn] ++ profile :: later := ⟨_, _, _, rfl⟩
  rw [hvisit] at hlatest hcount hreads ⊢
  simp only [List.singleton_append, List.map_cons, List.cons.injEq, List.replicate] at hcount hreads
  obtain ⟨request, hrequests⟩ := List.length_eq_one_iff.mp hcount.2.1
  refine ⟨request, by simp [hrequests], ?_⟩
  have hfresh := carries_latest (c := Sample.client) (by decide +kernel) (by decide +kernel) rfl
    (by simp [meddles]) hvisit (hrequests ▸ List.mem_singleton_self request)
  exact hfresh.2 hreads.2.1 _ hlatest (by decide) (by decide +kernel)

/-- The client for a base that has nothing behind its scheme. -/
def bareClient : ApiClient :=
  ⟨ApiClient.dropTrailingSlashes "http://", "key", .proxy⟩

/-- Below a base that is nothing but a scheme, a path is read as the authority: with nobody signed
in a request carries the user of the path. -/
theorem not_carries_latest_of_bareClient :
    Url.namesUser bareClient.baseUrl = false ∧
      (history bareClient [.call (.get "u:p@1/x")] (Sample.sound [])).map
        (fun p => (Turn.requests p.turns).map (·.authorization)) = [[some "Basic dTpw"]] := by
  constructor
  all_goals decide +kernel

end Deed

end SessionKeeper
