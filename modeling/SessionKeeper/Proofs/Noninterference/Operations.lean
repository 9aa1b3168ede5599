import SessionKeeper.Call
import SessionKeeper.Proofs.Manager.History
import SessionKeeper.Proofs.Noninterference.Alike

/-!
# No operation looks at what may vary

Each operation of the client, run in two worlds that are alike, does the same in both. A stored
session is read for its token, and then sent; nothing else is done with what may vary.
-/

namespace SessionKeeper

variable {σ α : Type} [Store σ] [OpaqueStore σ] {v : Variation}
  {K : Http.Answer → Http.Answer → Prop}

open Operation

/-! ## Calls of the API -/

namespace ApiClient

theorem alike_withoutToken (message : String) (fields : List (String × String)) :
    Operation.Alike σ v K (Http.AuthorizationAlike v) (withoutToken message fields)
      (withoutToken message fields) :=
  (alike_report _ _ _).next fun _ => .pure (.same none)

theorem alike_authorizationOf {key text text' : String} (h : Session.TextAlike v key text text') :
    Operation.Alike σ v K (Http.AuthorizationAlike v) (authorizationOf text)
      (authorizationOf text') := by
  have htoken := h.storedToken
  rw [authorizationOf, authorizationOf]
  generalize storedToken text = r at htoken ⊢
  generalize storedToken text' = s at htoken ⊢
  cases htoken with
  | error e => exact alike_withoutToken _ _
  | ok htoken =>
      cases htoken with
      | none => exact .pure (.same none)
      | @some a b hab =>
          obtain rfl | ⟨ha, hb⟩ := v.sendable hab
          · dsimp only
            split
            next => exact .pure (.same none)
            next =>
              split
              next => exact .pure (.same _)
              next => exact alike_withoutToken _ _
          · -- tokens that differ are both sent
            simp only [Http.isHeaderValue_bearer, if_neg ha.1, if_neg hb.1, ha.2, hb.2, ↓reduceIte]
            exact .pure (.bearer hab)

theorem alike_authorization :
    Operation.Alike σ v K (Http.AuthorizationAlike v) authorization authorization := by
  refine (alike_get Session.key).bind fun r s hrs => ?_
  cases hrs with
  | error e => exact alike_withoutToken _ _
  | ok htext =>
      cases htext with
      | none => exact .pure (.same none)
      | some htext => exact alike_authorizationOf htext

theorem alike_forgetSession (url : String) :
    Operation.Alike σ v K Eq (forgetSession url) (forgetSession url) := by
  refine (alike_report _ _ _).next fun _ => (alike_remove Session.key).next fun r => ?_
  cases r with
  | ok _ => exact .pure rfl
  | error e => exact alike_report _ _ _

theorem alike_refuse {R : α → α → Prop} (url : String) (status : Nat) (body : String) :
    Operation.Alike σ v K (Agree R) (refuse url status body) (refuse url status body) := by
  rw [refuse]
  split
  next => exact (alike_forgetSession url).next fun _ => .pure (.error _)
  next => exact .pure (.error _)

variable {R : α → α → Prop} {parse : String → Except Json.Error α}

theorem alike_handle (hR : ∀ a, R a a) (url : String) {a b : Http.Answer}
    (hab : Http.Answer.Alike R parse a b) :
    Operation.Alike σ v K (Agree R) (handle parse url a) (handle parse url b) := by
  cases hab with
  | granted hstatus ha hb h =>
      rw [handle, handle, if_pos hstatus, if_pos hstatus, decodeBody, decodeBody, ha, hb]
      exact .pure (.ok h)
  | same =>
      cases a with
      | failed fault => exact .pure (.error _)
      | received status body =>
          rw [handle]
          split
          next => exact .pure (.refl hR _)
          next => exact alike_refuse url status _

/-- Where answers are read alike, so are the results of calls whose bodies are alike. -/
theorem alike_call (c : ApiClient) (method : Http.Method) (path : String)
    {body body' : Option String} (hbody : Http.BodyAlike v body body')
    (hread : Http.Answer.ReadAlike K R parse) :
    Operation.Alike σ v K (Agree R) (c.call method path body parse)
      (c.call method path body' parse) := by
  refine (alike_report _ _ _).next fun _ => alike_authorization.bind fun token token' htoken => ?_
  cases Url.parse (c.urlText path) with
  | error e => exact .pure (.error _)
  | ok url =>
      have hrequest := c.request_alike method url htoken hbody
      dsimp only
      rw [hrequest.url]
      split
      next =>
        exact alike_exchange hread.refl_answer hrequest fun a b hab =>
          alike_handle hread.refl_value _ (hread.alike hab)
      next => exact .pure (.error _)

end ApiClient

/-! ## Signing in and registering -/

namespace Auth

/-- Credentials are sent alike, and the answers to them read alike. -/
theorem alike_post {R : α → α → Prop} {parse : String → Except Json.Error α} (c : ApiClient)
    (message path : String) {d e : Credentials} (hde : d.Alike v e)
    (hread : Http.Answer.ReadAlike K R parse) :
    Operation.Alike σ v K (Agree R)
      (do
        report .debug message [("credentials", d.shown)]
        c.post path d.toValue parse)
      (do
        report .debug message [("credentials", e.shown)]
        c.post path e.toValue parse) := by
  rw [hde.shown_eq]
  exact (alike_report _ _ _).next fun _ =>
    c.alike_call .post path (.credentials hde) hread

theorem alike_login (c : ApiClient) {d e : Credentials} (hde : d.Alike v e)
    (hread : Http.Answer.ReadAlike K (LoginResponse.Alike v) LoginResponse.parse) :
    Operation.Alike σ v K (Agree (LoginResponse.Alike v)) (login c d) (login c e) :=
  alike_post c _ _ hde hread

theorem alike_register (c : ApiClient) {d e : Credentials} (hde : d.Alike v e)
    (hread : Http.Answer.ReadAlike K (RegisterResponse.Alike v) RegisterResponse.parse) :
    Operation.Alike σ v K (Agree (RegisterResponse.Alike v)) (register c d) (register c e) :=
  alike_post c _ _ hde hread

theorem alike_isAuthenticated :
    Operation.Alike σ v K Eq isAuthenticated isAuthenticated := by
  refine (alike_get Session.key).bind fun r s hrs => ?_
  cases hrs with
  | error e => exact (alike_report _ _ _).next fun _ => .pure rfl
  | ok htext =>
      cases htext with
      | none => exact .pure rfl
      | some htext =>
          cases htext with
          | same => exact .pure rfl
          | @session s t h =>
              have hs : (s.render != "") = true := bne_iff_ne.mpr s.render_ne_empty
              have ht : (t.render != "") = true := bne_iff_ne.mpr t.render_ne_empty
              exact .pure (hs.trans ht.symm)

end Auth

/-! ## The manager -/

namespace Manager

variable {R : α → α → Prop}

theorem alike_guarded {op op' : Operation α} (h : Operation.Alike σ v K R op op') :
    Operation.Alike σ v K R (guarded op) (guarded op') :=
  alike_acquire.next fun _ => h.bind fun _ _ hab => alike_release.next fun _ => .pure hab

theorem alike_exclusive {op op' : Operation α} (h : Operation.Alike σ v K R op op') :
    Operation.Alike σ v K R (exclusive op) (exclusive op') :=
  alike_guarded <| (alike_setLoading true).next fun _ =>
    h.bind fun _ _ hab => (alike_setLoading false).next fun _ => .pure hab

/-- The session in memory is changed, and the change reported. -/
theorem alike_settle {s t : Option Session} (hst : Option.Rel (Session.Alike v) s t)
    (message : String) (fields : List (String × String)) {a b : α} (hab : R a b) :
    Operation.Alike σ v K R
      (do
        writeSession s
        report .info message fields
        return a)
      (do
        writeSession t
        report .info message fields
        return b) :=
  (alike_writeSession hst).next fun _ => (alike_report _ _ _).next fun _ => .pure hab

theorem alike_restore :
    Operation.Alike σ v K (Agree (Option.Rel (Session.Alike v))) restore restore := by
  have htaken {s t : Session} (h : s.Alike v t) :
      Operation.Alike σ v K (Agree (Option.Rel (Session.Alike v)))
        (do
          report .info "Restored stored session" [("email", s.email)]
          writeSession (some s)
          return Except.ok (some s) : Operation (Except Error (Option Session)))
        (do
          report .info "Restored stored session" [("email", t.email)]
          writeSession (some t)
          return Except.ok (some t)) := by
    rw [h.email]
    exact (alike_report _ _ _).next fun _ => (alike_writeSession (.some h)).next fun _ =>
      .pure (.ok (.some h))
  refine (alike_get Session.key).bind fun r s hrs => ?_
  cases hrs with
  | error e => exact .pure (.error _)
  | ok htext =>
      cases htext with
      | none => exact (alike_report _ _ _).next fun _ => .pure (.ok .none)
      | some htext =>
          dsimp only [Option.getD]
          cases htext with
          | same text =>
              split
              next => exact (alike_report _ _ _).next fun _ => .pure (.ok .none)
              next =>
                split
                next => exact .pure (.error _)
                next s _ => exact htaken (.refl s)
          | @session s t h =>
              -- a session is never stored as the empty text
              split
              next hempty => exact absurd hempty s.render_ne_empty
              next =>
                rw [Session.parse_render]
                dsimp only
                split
                next hempty => exact absurd hempty t.render_ne_empty
                next =>
                  rw [Session.parse_render]
                  exact htaken h

theorem alike_establish {s t : Session} (h : s.Alike v t) :
    Operation.Alike σ v K (Agree (Session.Alike v)) (establish s) (establish t) := by
  refine (alike_set (.session h)).next fun r => ?_
  cases r with
  | error e => exact .pure (.error _)
  | ok _ =>
      dsimp only
      rw [h.email, h.id]
      exact alike_settle (.some h) _ _ (.ok h)

/-- Leaving takes the session out of memory, and names the user in what is reported. -/
theorem alike_dropSession : Operation.Alike σ v K Eq dropSession dropSession := by
  refine alike_readSession.bind fun s t hst => ?_
  cases hst with
  | none => exact .pure rfl
  | some h =>
      dsimp only
      rw [h.email]
      exact alike_settle .none _ _ rfl

theorem alike_rejected (message email : String) (e : ApiError) :
    Operation.Alike σ v K (Agree R) (rejected message email e) (rejected message email e) := by
  refine (alike_report _ _ _).next fun _ => ?_
  split
  next => exact alike_dropSession.next fun _ => .pure (.error _)
  next => exact .pure (.error _)

theorem alike_signIn (c : ApiClient) {d e : Credentials} (hde : d.Alike v e)
    (hread : Http.Answer.ReadAlike K (LoginResponse.Alike v) LoginResponse.parse) :
    Operation.Alike σ v K (Agree (Session.Alike v)) (signIn c d) (signIn c e) := by
  refine alike_exclusive ((Auth.alike_login c hde hread).bind fun r s hrs => ?_)
  rw [hde.email]
  cases hrs with
  | error _ => exact alike_rejected _ _ _
  | ok h => exact alike_establish ⟨rfl, rfl, v.name_refl _, h.token⟩

theorem alike_registerUser (c : ApiClient) {d e : Credentials} (hde : d.Alike v e)
    {name name' : Option String} (hname : v.name name name')
    (hread : Http.Answer.ReadAlike K (RegisterResponse.Alike v) RegisterResponse.parse) :
    Operation.Alike σ v K (Agree (Session.Alike v)) (registerUser c d name)
      (registerUser c e name') := by
  refine alike_exclusive ((Auth.alike_register c hde hread).bind fun r s hrs => ?_)
  rw [hde.email]
  cases hrs with
  | error _ => exact alike_rejected _ _ _
  | ok h => exact alike_establish ⟨congrArg (Option.getD · _) h.id, rfl, hname, h.token⟩

theorem alike_signOut : Operation.Alike σ v K Eq signOut signOut := by
  refine alike_exclusive ((alike_remove Session.key).next fun r => ?_)
  cases r with
  | error e => exact .pure rfl
  | ok _ =>
      refine alike_readSession.bind fun s t hst => ?_
      cases hst with
      | none => exact .pure rfl
      | some h =>
          dsimp only
          rw [h.email]
          exact alike_settle .none _ _ rfl

theorem alike_expireIfUnauthorized (e : ApiError) :
    Operation.Alike σ v K Eq (expireIfUnauthorized e) (expireIfUnauthorized e) := by
  rw [expireIfUnauthorized]
  split
  next => exact alike_guarded alike_dropSession
  next => exact .pure rfl

theorem alike_isSignedIn : Operation.Alike σ v K Eq isSignedIn isSignedIn := by
  refine alike_readSession.bind fun s t hst => ?_
  cases hst with
  | none => exact .pure rfl
  | some => exact .pure rfl

end Manager

/-! ## The colour preference -/

namespace Preference

theorem alike_load : Operation.Alike σ v K Eq load load := by
  refine (alike_get ColorMode.key).bind fun r s hrs => ?_
  cases hrs with
  | error e => exact (alike_report _ _ _).next fun _ => .pure rfl
  | ok htext =>
      cases htext with
      | none => exact .pure rfl
      | some htext =>
          obtain rfl := htext.eq_of_ne key_ne_sessionKey
          dsimp only
          split
          next => exact .pure rfl
          next => exact (alike_report _ _ _).next fun _ => .pure rfl

theorem alike_set (mode : ColorMode) : Operation.Alike σ v K Eq (set mode) (set mode) := by
  refine (Operation.alike_set (.same _ _)).next fun r => ?_
  cases r with
  | error e => exact .pure rfl
  | ok _ => exact (alike_report _ _ _).next fun _ => .pure rfl

theorem alike_toggle : Operation.Alike σ v K Eq toggle toggle := by
  refine alike_load.next fun mode => (alike_set _).next fun r => ?_
  cases r with
  | error e => exact .pure rfl
  | ok _ => exact .pure rfl

end Preference

end SessionKeeper
