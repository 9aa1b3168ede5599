import SessionKeeper.Proofs.CommandLine.Ledger

/-!
# What operations do to a ledger

The operations of the client, run one step after another over a storage file that works. All that is
open about them is what the server answers.
-/

namespace SessionKeeper.CommandLine

open Program

variable {α : Type} {v w : Ledger} {a : α}

/-! ## Steps in front -/

theorem leads_report_bind {level message fields} {rest : Unit → Operation α} :
    Program.Leads clientEffect (Operation.report level message fields >>= rest) v a w ↔
      Program.Leads clientEffect (rest ()) v a w :=
  leads_perform_bind fun _ _ => (and_iff_right rfl).symm

theorem leads_readSession_bind {rest : Option Session → Operation α} :
    Program.Leads clientEffect (Operation.readSession >>= rest) v a w ↔
      Program.Leads clientEffect (rest v.session) v a w :=
  leads_perform_bind fun _ _ => Iff.rfl

theorem leads_writeSession_bind {session : Option Session} {rest : Unit → Operation α} :
    Program.Leads clientEffect (Operation.writeSession session >>= rest) v a w ↔
      Program.Leads clientEffect (rest ()) (v.withSession session) a w :=
  leads_perform_bind fun _ _ => (and_iff_right rfl).symm

theorem leads_get_bind {key : String}
    {rest : Except StoreError (Option String) → Operation α} :
    Program.Leads clientEffect (Operation.get key >>= rest) v a w ↔
      Program.Leads clientEffect (rest (.ok (v.texts key))) v a w :=
  leads_perform_bind fun _ _ => Iff.rfl

theorem leads_set_bind {key value : String} {rest : Except StoreError Unit → Operation α} :
    Program.Leads clientEffect (Operation.set key value >>= rest) v a w ↔
      Program.Leads clientEffect (rest (.ok ())) (v.put key value) a w :=
  leads_perform_bind fun _ _ => Iff.rfl

theorem leads_remove_bind {key : String} {rest : Except StoreError Unit → Operation α} :
    Program.Leads clientEffect (Operation.remove key >>= rest) v a w ↔
      Program.Leads clientEffect (rest (.ok ())) (v.drop key) a w :=
  leads_perform_bind fun _ _ => Iff.rfl

theorem leads_acquire_bind {rest : Unit → Operation α} :
    Program.Leads clientEffect (Operation.acquire >>= rest) v a w ↔
      Program.Leads clientEffect (rest ()) v a w :=
  leads_perform_bind fun _ _ => (and_iff_right rfl).symm

theorem leads_release_bind {rest : Unit → Operation α} :
    Program.Leads clientEffect (Operation.release >>= rest) v a w ↔
      Program.Leads clientEffect (rest ()) v a w :=
  leads_perform_bind fun _ _ => (and_iff_right rfl).symm

theorem leads_setLoading_bind {busy : Bool} {rest : Unit → Operation α} :
    Program.Leads clientEffect (Operation.setLoading busy >>= rest) v a w ↔
      Program.Leads clientEffect (rest ()) v a w :=
  leads_perform_bind fun _ _ => (and_iff_right rfl).symm

/-- A ledger has no guard. -/
theorem leads_guarded {op : Operation α} :
    Program.Leads clientEffect (Manager.guarded op) v a w ↔
      Program.Leads clientEffect op v a w := by
  rw [Manager.guarded, leads_acquire_bind, Program.leads_bind]
  constructor
  · rintro ⟨b, u, hop, hrest⟩
    rw [leads_release_bind] at hrest
    obtain ⟨rfl, rfl⟩ := Program.leads_pure.mp hrest
    exact hop
  · intro hop
    exact ⟨a, w, hop, leads_release_bind.mpr (Program.leads_pure.mpr ⟨rfl, rfl⟩)⟩

/-- A ledger does not show whether an operation is under way. -/
theorem leads_exclusive {op : Operation α} :
    Program.Leads clientEffect (Manager.exclusive op) v a w ↔
      Program.Leads clientEffect op v a w := by
  rw [Manager.exclusive, leads_guarded, leads_setLoading_bind, Program.leads_bind]
  constructor
  · rintro ⟨b, u, hop, hrest⟩
    rw [leads_setLoading_bind] at hrest
    obtain ⟨rfl, rfl⟩ := Program.leads_pure.mp hrest
    exact hop
  · intro hop
    exact ⟨a, w, hop, leads_setLoading_bind.mpr (Program.leads_pure.mpr ⟨rfl, rfl⟩)⟩

/-! ## Sessions and preferences -/

theorem leads_isSignedIn {signedIn : Bool} :
    Program.Leads clientEffect Manager.isSignedIn v signedIn w ↔
      signedIn = v.session.isSome ∧ w = v := by
  rw [Manager.isSignedIn, leads_readSession_bind, Program.leads_pure]

/-- Signing out removes the session from the store and from memory. -/
theorem leads_signOut {result : Except Error Unit}
    (h : Program.Leads clientEffect Manager.signOut v result w) :
    result = .ok () ∧ w = (v.drop Session.key).withSession none := by
  rw [Manager.signOut, leads_exclusive, leads_remove_bind, leads_readSession_bind] at h
  split at h
  next hsession =>
    obtain ⟨rfl, rfl⟩ := Program.leads_pure.mp h
    exact ⟨rfl, by rw [Ledger.withSession, ← hsession]⟩
  next session hsession =>
    rw [leads_writeSession_bind, leads_report_bind] at h
    exact Program.leads_pure.mp h

/-- A session is stored, and is in memory then. -/
theorem leads_establish {s : Session} {result : Except Error Session}
    (h : Program.Leads clientEffect (Manager.establish s) v result w) :
    result = .ok s ∧ w = (v.put Session.key s.render).withSession (some s) := by
  rw [Manager.establish, leads_set_bind, leads_writeSession_bind, leads_report_bind] at h
  exact Program.leads_pure.mp h

/-- Handling an error touches the session in memory only. -/
theorem leads_rejected {message email : String} {e : ApiError} {result : Except Error α}
    (h : Program.Leads clientEffect (Manager.rejected message email e) v result w) :
    result = .error (.api e) ∧ ∃ session, w = v.withSession session := by
  rw [Manager.rejected, leads_report_bind] at h
  split at h
  next =>
    obtain ⟨dropped, u, hdrop, hdone⟩ := Program.leads_bind.mp h
    obtain ⟨rfl, rfl⟩ := Program.leads_pure.mp hdone
    refine ⟨rfl, ?_⟩
    rw [Manager.dropSession, leads_readSession_bind] at hdrop
    split at hdrop
    next =>
      obtain ⟨-, rfl⟩ := Program.leads_pure.mp hdrop
      exact ⟨w.session, rfl⟩
    next =>
      rw [leads_writeSession_bind, leads_report_bind] at hdrop
      exact ⟨none, (Program.leads_pure.mp hdrop).2⟩
  next =>
    obtain ⟨rfl, rfl⟩ := Program.leads_pure.mp h
    exact ⟨rfl, w.session, rfl⟩

/-- A preference that is set is stored. -/
theorem leads_setMode {mode : ColorMode} {result : Except StoreError Unit}
    (h : Program.Leads clientEffect (Preference.set mode) v result w) :
    result = .ok () ∧ w = v.put ColorMode.key mode.render := by
  rw [Preference.set, leads_set_bind, leads_report_bind] at h
  exact Program.leads_pure.mp h

/-! ## Calls of the API -/

/-- Finding the token changes nothing. -/
theorem eq_of_leads_authorization {token : Option String}
    (h : Program.Leads clientEffect ApiClient.authorization v token w) : w = v := by
  have hwithout {message fields} {token : Option String}
      (h : Program.Leads clientEffect (ApiClient.withoutToken message fields) v token w) :
      w = v := by
    rw [ApiClient.withoutToken, leads_report_bind] at h
    exact (Program.leads_pure.mp h).2
  rw [ApiClient.authorization, leads_get_bind] at h
  split at h
  next hfailed => cases hfailed
  next => exact (Program.leads_pure.mp h).2
  next stored _ =>
    unfold ApiClient.authorizationOf at h
    split at h
    next => exact hwithout h
    next => exact (Program.leads_pure.mp h).2
    next =>
      split at h
      next => exact (Program.leads_pure.mp h).2
      next =>
        split at h
        next => exact (Program.leads_pure.mp h).2
        next => exact hwithout h

/-- What a call makes of an answer. -/
def verdict (parse : String → Except Json.Error α) (url : String) :
    Http.Answer → Except ApiError α
  | .failed fault => .error (.network fault)
  | .received status body =>
    if ApiClient.isSuccess status then ApiClient.decodeBody parse url body
    else .error (.ofStatus status (ApiClient.bodyText body))

/-- The ledger after an answer, by which the server may refuse the token. -/
def Ledger.heed (answer : Http.Answer) (v : Ledger) : Ledger :=
  match answer with
  | .failed _ => v
  | .received status _ => if status = 401 then v.drop Session.key else v

@[simp] theorem Ledger.console_heed (answer : Http.Answer) (v : Ledger) :
    (v.heed answer).console = v.console := by
  unfold heed
  split
  next => rfl
  next => split <;> rfl

@[simp] theorem Ledger.exchanges_heed (answer : Http.Answer) (v : Ledger) :
    (v.heed answer).exchanges = v.exchanges := by
  unfold heed
  split
  next => rfl
  next => split <;> rfl

theorem leads_forgetSession {url : String} {done : Unit}
    (h : Program.Leads clientEffect (ApiClient.forgetSession url) v done w) :
    w = v.drop Session.key := by
  rw [ApiClient.forgetSession, leads_report_bind, leads_remove_bind] at h
  exact (Program.leads_pure.mp h).2

theorem leads_refuse {url body : String} {status : Nat} {result : Except ApiError α}
    (h : Program.Leads clientEffect (ApiClient.refuse url status body) v result w) :
    result = .error (.ofStatus status body) ∧
      w = if status = 401 then v.drop Session.key else v := by
  change _ ∧ w = if status = ApiClient.unauthorized then _ else _
  by_cases hstatus : status = ApiClient.unauthorized
  · rw [ApiClient.refuse, if_pos hstatus] at h
    obtain ⟨done, u, hforget, hdone⟩ := Program.leads_bind.mp h
    rw [if_pos hstatus, ← leads_forgetSession hforget]
    exact Program.leads_pure.mp hdone
  · rw [ApiClient.refuse, if_neg hstatus] at h
    rw [if_neg hstatus]
    exact Program.leads_pure.mp h

theorem leads_handle {parse : String → Except Json.Error α} {url : String} {answer : Http.Answer}
    {result : Except ApiError α}
    (h : Program.Leads clientEffect (ApiClient.handle parse url answer) v result w) :
    result = verdict parse url answer ∧ w = v.heed answer := by
  cases answer with
  | failed fault => exact Program.leads_pure.mp h
  | received status body =>
      rw [ApiClient.handle] at h
      rw [verdict, Ledger.heed]
      split at h
      next hsuccess =>
        -- a success is no refusal
        have hstatus : status ≠ 401 := by
          rintro rfl
          cases hsuccess
        rw [if_pos hsuccess, if_neg hstatus]
        exact Program.leads_pure.mp h
      next hfailure =>
        rw [if_neg hfailure]
        exact leads_refuse h

/-- A call fails before anything is sent, or makes what it makes of the answer. -/
theorem leads_call {c : ApiClient} {method : Http.Method} {path : String} {body : Option String}
    {parse : String → Except Json.Error α} {result : Except ApiError α}
    (h : Program.Leads clientEffect (c.call method path body parse) v result w) :
    (w = v ∧ ∃ e, result = .error e) ∨ ∃ request answer,
      result = verdict parse (c.urlText path) answer ∧
        w = (v.exchange request answer).heed answer := by
  rw [ApiClient.call] at h
  dsimp only at h
  rw [leads_report_bind] at h
  obtain ⟨token, u, htoken, hparsed⟩ := Program.leads_bind.mp h
  obtain rfl := eq_of_leads_authorization htoken
  split at hparsed
  next e _ =>
    obtain ⟨rfl, rfl⟩ := Program.leads_pure.mp hparsed
    exact .inl ⟨rfl, _, rfl⟩
  next target _ =>
    split at hparsed
    next =>
      obtain ⟨ticket, u', hsend, hsent⟩ := Program.leads_bind.mp hparsed
      obtain ⟨rfl, answer, rfl⟩ := Program.leads_perform.mp hsend
      obtain ⟨received, u'', hreceive, hreceived⟩ := Program.leads_bind.mp hsent
      obtain ⟨rfl, rfl⟩ := Program.leads_perform.mp hreceive
      -- the answer that is waited for is that to the request just sent
      have hanswer : (u.exchange (c.request method target token body) answer).answer
          u.exchanges.length = answer := by
        simp [Ledger.exchange, Ledger.answer]
      rw [hanswer] at hreceived
      exact .inr ⟨_, answer, leads_handle hreceived⟩
    next =>
      obtain ⟨rfl, rfl⟩ := Program.leads_pure.mp hparsed
      exact .inl ⟨rfl, _, rfl⟩

end SessionKeeper.CommandLine
