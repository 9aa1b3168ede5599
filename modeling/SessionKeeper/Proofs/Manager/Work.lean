import SessionKeeper.Call
import SessionKeeper.Proofs.Program.Steps

/-!
# The work of operations

What operations do apart from taking turns: they neither take the guard nor give it back, and leave
it to others to say that an operation is under way. Each operation of the manager wraps such work.
Work on the session keeps to one key of the store, and work on the colour preference to another.
-/

namespace SessionKeeper

/-- A step that leaves alone who has the guard, and whether an operation is under way. -/
def ClientStep.Inner : ClientStep → Prop
  | .acquire => False
  | .release => False
  | .setLoading _ => False
  | _ => True

/-- A step that calls the store, if it does, under one key. -/
def ClientStep.KeepsTo (key : String) : ClientStep → Prop
  | .get k => k = key
  | .set k _ => k = key
  | .remove k => k = key
  | _ => True

/-- A step of work on the session, which keeps to its key. -/
def ClientStep.OfSession (step : ClientStep) : Prop :=
  step.Inner ∧ step.KeepsTo Session.key

/-- The URL of the request that an event announces. -/
def Event.attempt? : Event → Option String
  | ⟨.debug, message, fields⟩ =>
    if message = Http.Method.get.name ∨ message = Http.Method.post.name then fields.lookup "url"
    else none
  | _ => none

/-- A step that reads what is stored of the session, or reports something that announces no request,
and changes nothing. -/
def ClientStep.Peeks : ClientStep → Prop
  | .get key => key = Session.key
  | .report event => event.attempt? = none
  | _ => False

/-- A step of work on the session that only looks at what is stored, and announces no request. -/
def ClientStep.Looks : ClientStep → Prop
  | .readSession => True
  | .writeSession _ => True
  | .get key => key = Session.key
  | .report event => event.attempt? = none
  | _ => False

/-- A step of work on the session that has to do with no request: it neither announces nor sends
one, and waits for no answer. -/
def ClientStep.Aside : ClientStep → Prop
  | .set key _ => key = Session.key
  | .remove key => key = Session.key
  | step => step.Looks

theorem ClientStep.Peeks.looks {step : ClientStep} (h : step.Peeks) : step.Looks := by
  cases step <;> first | exact h.elim | exact h

theorem ClientStep.Looks.aside {step : ClientStep} (h : step.Looks) : step.Aside := by
  cases step <;> first | exact h.elim | exact h

theorem ClientStep.Aside.ofSession {step : ClientStep} (h : step.Aside) : step.OfSession := by
  cases step <;> first | exact h.elim | exact ⟨trivial, trivial⟩ | exact ⟨trivial, h⟩

/-- A step of work on the colour preference, which keeps to its key and otherwise only reports. -/
def ClientStep.OfPreference : ClientStep → Prop
  | .get key => key = ColorMode.key
  | .set key _ => key = ColorMode.key
  | .report _ => True
  | _ => False

theorem ClientStep.OfPreference.inner {step : ClientStep} (h : step.OfPreference) :
    step.Inner := by
  cases step <;> first | exact h.elim | trivial

open Program

/-! ## Calls of the API -/

namespace ApiClient

variable {α : Type}

theorem peeks_withoutToken (message : String) (fields : List (String × String)) :
    (withoutToken message fields).Within ClientStep.Peeks :=
  .bind (.perform rfl) fun _ => .pure _

theorem peeks_authorizationOf (stored : String) :
    (authorizationOf stored).Within ClientStep.Peeks := by
  unfold authorizationOf
  split
  next => exact peeks_withoutToken ..
  next => exact .pure _
  next =>
    split
    next => exact .pure _
    next =>
      split
      next => exact .pure _
      next => exact peeks_withoutToken ..

theorem peeks_authorization : authorization.Within ClientStep.Peeks := by
  refine .bind (.perform rfl) fun stored => ?_
  split
  next => exact peeks_withoutToken ..
  next => exact .pure _
  next => exact peeks_authorizationOf _

theorem looks_authorization : authorization.Within ClientStep.Looks :=
  peeks_authorization.mono fun _ h => h.looks

theorem aside_forgetSession (url : String) : (forgetSession url).Within ClientStep.Aside := by
  refine .bind (.perform rfl) fun _ => .bind (.perform rfl) fun removed => ?_
  split
  next => exact .pure _
  next => exact .perform rfl

theorem aside_handle (parse : String → Except Json.Error α) (url : String)
    (answer : Http.Answer) : (handle parse url answer).Within ClientStep.Aside := by
  unfold handle
  split
  next => exact .pure _
  next status body =>
    split
    next => exact .pure _
    next =>
      unfold refuse
      split
      next => exact .bind (aside_forgetSession url) fun _ => .pure _
      next => exact .pure _

theorem ofSession_call (c : ApiClient) (method : Http.Method) (path : String) (body : Option String)
    (parse : String → Except Json.Error α) :
    (c.call method path body parse).Within ClientStep.OfSession := by
  refine .bind (.perform ⟨trivial, trivial⟩) fun _ =>
    .bind (looks_authorization.mono fun _ h => h.aside.ofSession) fun token => ?_
  split
  next => exact .pure _
  next =>
    dsimp only
    split
    next =>
      refine .bind (.perform ⟨trivial, trivial⟩) fun ticket =>
        .bind (.perform ⟨trivial, trivial⟩) fun answer => ?_
      exact (aside_handle ..).mono fun _ h => h.ofSession
    next => exact .pure _

end ApiClient

namespace Auth

theorem ofSession_login (c : ApiClient) (credentials : Credentials) :
    (login c credentials).Within ClientStep.OfSession :=
  .bind (.perform ⟨trivial, trivial⟩) fun _ => ApiClient.ofSession_call ..

theorem ofSession_register (c : ApiClient) (credentials : Credentials) :
    (register c credentials).Within ClientStep.OfSession :=
  .bind (.perform ⟨trivial, trivial⟩) fun _ => ApiClient.ofSession_call ..

theorem looks_isAuthenticated : isAuthenticated.Within ClientStep.Looks := by
  refine .bind (.perform rfl) fun stored => ?_
  split
  next => exact .pure _
  next => exact .pure _
  next => exact .bind (.perform rfl) fun _ => .pure _

end Auth

namespace Preference

theorem ofPreference_load : load.Within ClientStep.OfPreference := by
  refine .bind (.perform rfl) fun stored => ?_
  split
  next => exact .pure _
  next => exact .bind (.perform trivial) fun _ => .pure _
  next =>
    split
    next => exact .pure _
    next => exact .bind (.perform trivial) fun _ => .pure _

theorem ofPreference_set (mode : ColorMode) : (set mode).Within ClientStep.OfPreference := by
  refine .bind (.perform rfl) fun written => ?_
  split
  next => exact .pure _
  next => exact .bind (.perform trivial) fun _ => .pure _

theorem ofPreference_toggle : toggle.Within ClientStep.OfPreference := by
  refine .bind ofPreference_load fun mode => .bind (ofPreference_set _) fun written => ?_
  split
  next => exact .pure _
  next => exact .pure _

end Preference

/-! ## The work of the manager -/

namespace Manager

variable {α : Type}

theorem looks_settle (session : Option Session) (message : String)
    (fields : List (String × String)) (a : α) :
    (do
      Operation.writeSession session
      Operation.report .info message fields
      return a : Operation α).Within ClientStep.Looks :=
  .bind (.perform trivial) fun _ => .bind (.perform rfl) fun _ => .pure _

theorem looks_restore : restore.Within ClientStep.Looks := by
  refine .bind (.perform rfl) fun stored => ?_
  split
  next => exact .pure _
  next =>
    split
    next => exact .bind (.perform rfl) fun _ => .pure _
    next =>
      split
      next => exact .pure _
      next => exact .bind (.perform rfl) fun _ => .bind (.perform trivial) fun _ => .pure _

theorem aside_establish (s : Session) : (establish s).Within ClientStep.Aside := by
  refine .bind (.perform rfl) fun written => ?_
  split
  next => exact .pure _
  next => exact (looks_settle ..).mono fun _ h => h.aside

theorem looks_dropSession : dropSession.Within ClientStep.Looks := by
  refine .bind (.perform trivial) fun session => ?_
  split
  next => exact .pure _
  next => exact looks_settle ..

theorem looks_rejected (message email : String) (e : ApiError) :
    (rejected message email e : Operation (Except Error α)).Within ClientStep.Looks := by
  refine .bind (.perform rfl) fun _ => ?_
  split
  next => exact .bind looks_dropSession fun _ => .pure _
  next => exact .pure _

/-- Signing in and registering go on alike behind the call of the server, whatever came back. -/
theorem aside_behind {rest : Except ApiError α → Operation (Except Error Session)}
    {granted : α → Session} {message email : String}
    (hok : ∀ response, rest (.ok response) = establish (granted response))
    (herror : ∀ e, rest (.error e) = rejected message email e) :
    ∀ answered, (rest answered).Within ClientStep.Aside
  | .ok response => hok response ▸ aside_establish _
  | .error e => herror e ▸ (looks_rejected ..).mono fun _ h => h.aside

theorem ofSession_entry {call : Operation (Except ApiError α)}
    {rest : Except ApiError α → Operation (Except Error Session)} {granted : α → Session}
    {message email : String} (hcall : call.Within ClientStep.OfSession)
    (hok : ∀ response, rest (.ok response) = establish (granted response))
    (herror : ∀ e, rest (.error e) = rejected message email e) :
    (call >>= rest).Within ClientStep.OfSession :=
  .bind hcall fun answered => (aside_behind hok herror answered).mono fun _ h => h.ofSession

theorem aside_departure :
    (do
      match ← Operation.remove Session.key with
      | .error e => return .error (.storage e)
      | .ok () =>
        match ← Operation.readSession with
        | none => return .ok ()
        | some session =>
          Operation.writeSession none
          Operation.report .info "Signed out" [("email", session.email)]
          return .ok () : Operation (Except Error Unit)).Within ClientStep.Aside := by
  refine .bind (.perform rfl) fun removed => ?_
  split
  next => exact .pure _
  next =>
    refine .bind (.perform trivial) fun session => ?_
    split
    next => exact .pure _
    next => exact (looks_settle ..).mono fun _ h => h.aside

end Manager

/-- Runs that hold the guard are made of the steps they wrap, and those of the guard. -/
theorem Manager.within_guarded {α : Type} {P : ClientStep → Prop} {op : Operation α}
    (h : op.Within P) (hacquire : P .acquire) (hrelease : P .release) : (guarded op).Within P :=
  .bind (.perform hacquire) fun _ => .bind h fun _ => .bind (.perform hrelease) fun _ => .pure _

theorem Manager.within_exclusive {α : Type} {P : ClientStep → Prop} {op : Operation α}
    (h : op.Within P) (hacquire : P .acquire) (hrelease : P .release)
    (hloading : ∀ busy, P (.setLoading busy)) : (exclusive op).Within P := by
  refine within_guarded (.bind (.perform (hloading true)) fun _ => .bind h fun _ => ?_) hacquire
    hrelease
  exact .bind (.perform (hloading false)) fun _ => .pure _

/-! ## Calls -/

namespace Call

/-- Whether a call says while it runs that an operation is under way. -/
def isExclusive : Call → Bool
  | .bootstrap => true
  | .signIn _ => true
  | .registerUser _ _ => true
  | .signOut => true
  | _ => false

/-- Whether a call is about the colour preference. -/
def isPreference : Call → Bool
  | .loadMode => true
  | .toggleMode => true
  | .setMode _ => true
  | _ => false

/-- Whether a call reads or changes a key of the store that it is given. -/
def isKeyAccess : Call → Bool
  | .getKey _ => true
  | .setKey _ _ => true
  | .removeKey _ => true
  | _ => false

/-- The work of an exclusive call is work on the session. -/
theorem exists_exclusive (c : ApiClient) {call : Call} (h : call.isExclusive = true) :
    ∃ (β : Type) (work : Operation β) (make : β → Reply), work.Within ClientStep.OfSession ∧
      call.operation c = Manager.exclusive work >>= fun b => pure (make b) := by
  cases call with
  | bootstrap => exact ⟨_, _, _, Manager.looks_restore.mono fun _ h => h.aside.ofSession, rfl⟩
  | signIn credentials =>
      exact ⟨_, _, _, Manager.ofSession_entry (Auth.ofSession_login ..) (fun _ => rfl)
        fun _ => rfl, rfl⟩
  | registerUser credentials name =>
      exact ⟨_, _, _, Manager.ofSession_entry (Auth.ofSession_register ..) (fun _ => rfl)
        fun _ => rfl, rfl⟩
  | signOut => exact ⟨_, _, _, Manager.aside_departure.mono fun _ h => h.ofSession, rfl⟩
  | _ => cases h

theorem ofPreference_operation (c : ApiClient) {call : Call} (h : call.isPreference = true) :
    (call.operation c).Within ClientStep.OfPreference := by
  cases call with
  | loadMode => exact .bind Preference.ofPreference_load fun _ => .pure _
  | toggleMode => exact .bind Preference.ofPreference_toggle fun _ => .pure _
  | setMode mode => exact .bind (Preference.ofPreference_set mode) fun _ => .pure _
  | _ => cases h

theorem inner_keyAccess (c : ApiClient) {call : Call} (h : call.isKeyAccess = true) :
    (call.operation c).Within ClientStep.Inner := by
  cases call with
  | getKey key => exact .bind (.perform trivial) fun _ => .pure _
  | setKey key value => exact .bind (.perform trivial) fun _ => .pure _
  | removeKey key => exact .bind (.perform trivial) fun _ => .pure _
  | _ => cases h

/-- Every other call that neither takes the guard nor may take it is work on the session. -/
theorem ofSession_operation (c : ApiClient) {call : Call} (hexclusive : call.isExclusive = false)
    (hexpire : call ≠ .expire) (hpreference : call.isPreference = false)
    (hkey : call.isKeyAccess = false) : (call.operation c).Within ClientStep.OfSession := by
  cases call with
  | expire => exact absurd rfl hexpire
  | current => exact .bind (.perform ⟨trivial, trivial⟩) fun _ => .pure _
  | isSignedIn =>
      exact .bind (.bind (.perform ⟨trivial, trivial⟩) fun _ => .pure _) fun _ => .pure _
  | isLoading => exact .bind (.perform ⟨trivial, trivial⟩) fun _ => .pure _
  | login credentials => exact .bind (Auth.ofSession_login ..) fun _ => .pure _
  | register credentials => exact .bind (Auth.ofSession_register ..) fun _ => .pure _
  | logout => exact .bind (.perform ⟨trivial, rfl⟩) fun _ => .pure _
  | isAuthenticated =>
      exact .bind (Auth.looks_isAuthenticated.mono fun _ h => h.aside.ofSession) fun _ => .pure _
  | get path => exact .bind (ApiClient.ofSession_call ..) fun _ => .pure _
  | post path body => exact .bind (ApiClient.ofSession_call ..) fun _ => .pure _
  | loadMode => cases hpreference
  | toggleMode => cases hpreference
  | setMode => cases hpreference
  | getKey => cases hkey
  | setKey => cases hkey
  | removeKey => cases hkey
  | _ => cases hexclusive

/-- A call that is neither exclusive nor an expiry is made of inner steps. -/
theorem inner_operation (c : ApiClient) {call : Call} (h : call.isExclusive = false)
    (hexpire : call ≠ .expire) : (call.operation c).Within ClientStep.Inner := by
  cases hpreference : call.isPreference with
  | true => exact (ofPreference_operation c hpreference).mono fun _ => ClientStep.OfPreference.inner
  | false =>
      cases hkey : call.isKeyAccess with
      | true => exact inner_keyAccess c hkey
      | false => exact (ofSession_operation c h hexpire hpreference hkey).mono fun _ => And.left

theorem keepsTo_expireIfUnauthorized (e : ApiError) :
    (Manager.expireIfUnauthorized e).Within (ClientStep.KeepsTo Session.key) := by
  unfold Manager.expireIfUnauthorized
  split
  next =>
    exact Manager.within_guarded
      (Manager.looks_dropSession.mono fun _ h => h.aside.ofSession.2) trivial trivial
  next => exact .pure _

/-- A call about the session keeps to the key of the session. -/
theorem keepsTo_operation (c : ApiClient) {call : Call} (hpreference : call.isPreference = false)
    (hkey : call.isKeyAccess = false) :
    (call.operation c).Within (ClientStep.KeepsTo Session.key) := by
  cases hexclusive : call.isExclusive with
  | true =>
      obtain ⟨β, work, make, hwork, hop⟩ := exists_exclusive c hexclusive
      rw [hop]
      exact .bind (Manager.within_exclusive (hwork.mono fun _ => And.right) trivial trivial
        fun _ => trivial) fun _ => .pure _
  | false =>
      by_cases hexpire : call = .expire
      · subst hexpire
        refine .bind (.perform trivial) fun last => ?_
        split
        next => exact .pure _
        next => exact .bind (keepsTo_expireIfUnauthorized _) fun _ => .pure _
      · exact (ofSession_operation c hexclusive hexpire hpreference hkey).mono fun _ => And.right

end Call

end SessionKeeper
