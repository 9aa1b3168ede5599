import SessionKeeper.Api.Client
import SessionKeeper.Proofs.Exposure

/-!
# What a call of the API leaves behind

A call leaves the texts and the session alone unless the server refuses the token. Then it fails
with an error that says so, and the stored session is gone unless its removal failed.
-/

namespace SessionKeeper

/-! ## Turns to look for -/

namespace Turn

/-- An answer by which the server refuses the token. -/
def isRefusal : Turn clientSteps → Bool
  | ⟨.receive _, .received status _⟩ => status == ApiClient.unauthorized
  | _ => false

/-- A removal from the store that failed. -/
def isFailedRemoval : Turn clientSteps → Bool
  | ⟨.remove _, .error _⟩ => true
  | _ => false

/-- Turns in which the server refuses nothing and no removal fails. -/
def Silent (turns : List (Turn clientSteps)) : Prop :=
  turns.any isRefusal = false ∧ turns.any isFailedRemoval = false

theorem Silent.append {first rest : List (Turn clientSteps)} (h : Silent first)
    (h' : Silent rest) : Silent (first ++ rest) := by
  simp [Silent, List.any_append, h.1, h.2, h'.1, h'.2]

/-- Turns that agree on whether the server refuses the token and whether a removal fails. -/
def Alike (turns others : List (Turn clientSteps)) : Prop :=
  turns.any isRefusal = others.any isRefusal ∧
    turns.any isFailedRemoval = others.any isFailedRemoval

theorem Alike.silent {turns others : List (Turn clientSteps)} (h : Alike turns others)
    (hsilent : Silent turns) : Silent others :=
  ⟨h.1.symm.trans hsilent.1, h.2.symm.trans hsilent.2⟩

/-- Silent turns in front of others do not count. -/
theorem alike_append {first : List (Turn clientSteps)} (hfirst : Silent first)
    (turns : List (Turn clientSteps)) : Alike turns (first ++ turns) := by
  simp [Alike, List.any_append, hfirst.1, hfirst.2]

/-- Silent turns around others do not count. -/
theorem alike_around {first last : List (Turn clientSteps)} (hfirst : Silent first)
    (hlast : Silent last) (turns : List (Turn clientSteps)) :
    Alike turns (first ++ (turns ++ last)) := by
  simp [Alike, List.any_append, hfirst.1, hfirst.2, hlast.1, hlast.2]

end Turn

namespace Holdings

/-- The holdings without a stored session. -/
def forget (v : Holdings) : Holdings :=
  { v with texts := v.texts.drop Session.key }

/-- The holdings with nobody signed in. -/
def leave (v : Holdings) : Holdings :=
  { v with session := none }

end Holdings

namespace ApiError

theorem isUnauthorized_ofStatus (status : Nat) (body : String) :
    (ofStatus status body).isUnauthorized = (status == ApiClient.unauthorized) := by
  unfold ofStatus isUnauthorized
  by_cases hrejected : status = 400 ∨ status = 401
  · simp [hrejected, status?, ApiClient.unauthorized]
  · by_cases hmissing : status = 404
    · simp [hmissing, status?, ApiClient.unauthorized]
    · simp [hrejected, hmissing, status?, ApiClient.unauthorized]

end ApiError

namespace ApiClient

open Program

/-- How a call of the API can end. -/
inductive Outcome {α : Type} (v : Holdings) (turns : List (Turn clientSteps)) :
    Except ApiError α → Holdings → Prop
  | plain {result : Except ApiError α} (hsilent : Turn.Silent turns)
      (herror : ∀ e, result = .error e → e.isUnauthorized = false) : Outcome v turns result v
  | forgotten {e : ApiError} (hrefusal : turns.any Turn.isRefusal = true)
      (hremoval : turns.any Turn.isFailedRemoval = false) (herror : e.isUnauthorized = true) :
      Outcome v turns (.error e) v.forget
  | kept {e : ApiError} (hrefusal : turns.any Turn.isRefusal = true)
      (hremoval : turns.any Turn.isFailedRemoval = true) (herror : e.isUnauthorized = true) :
      Outcome v turns (.error e) v

variable {α : Type} {v w : Holdings} {turns : List (Turn clientSteps)}

theorem Outcome.alike {others : List (Turn clientSteps)} {result : Except ApiError α}
    (h : Outcome v turns result w) (halike : Turn.Alike turns others) :
    Outcome v others result w := by
  cases h with
  | plain hsilent he => exact .plain (halike.silent hsilent) he
  | forgotten hr hf he => exact .forgotten (halike.1 ▸ hr) (halike.2 ▸ hf) he
  | kept hr hf he => exact .kept (halike.1 ▸ hr) (halike.2 ▸ hf) he

theorem Outcome.behind {first : List (Turn clientSteps)} {result : Except ApiError α}
    (h : Outcome v turns result w) (hfirst : Turn.Silent first) :
    Outcome v (first ++ turns) result w :=
  h.alike (Turn.alike_append hfirst turns)

/-! ## Before the answer -/

theorem runs_withoutToken {message : String} {fields : List (String × String)}
    {token : Option String}
    (h : Runs ClientStep.effect (withoutToken message fields) v turns token w) :
    w = v ∧ Turn.Silent turns := by
  obtain ⟨rest, rfl, hrest⟩ := Operation.runs_report_bind h
  obtain ⟨rfl, rfl, rfl⟩ := runs_pure.mp hrest
  exact ⟨rfl, rfl, rfl⟩

theorem runs_authorizationOf {stored : String} {token : Option String}
    (h : Runs ClientStep.effect (authorizationOf stored) v turns token w) :
    w = v ∧ Turn.Silent turns := by
  have hnothing {result : Option String}
      (h : Runs ClientStep.effect (pure result) v turns token w) : w = v ∧ Turn.Silent turns := by
    obtain ⟨rfl, rfl, rfl⟩ := runs_pure.mp h
    exact ⟨rfl, rfl, rfl⟩
  unfold authorizationOf at h
  split at h
  next => exact runs_withoutToken h
  next => exact hnothing h
  next =>
    split at h
    next => exact hnothing h
    next =>
      split at h
      next => exact hnothing h
      next => exact runs_withoutToken h

/-- Finding the token changes nothing. -/
theorem runs_authorization {token : Option String}
    (h : Runs ClientStep.effect authorization v turns token w) : w = v ∧ Turn.Silent turns := by
  obtain ⟨stored, u, first, rest, rfl, hget, hrest⟩ := runs_bind.mp h
  obtain ⟨rfl, heffect⟩ := runs_perform.mp hget
  cases stored with
  | error e =>
      obtain rfl : u = v := heffect
      obtain ⟨rfl, hsilent⟩ := runs_withoutToken hrest
      exact ⟨rfl, .append ⟨rfl, rfl⟩ hsilent⟩
  | ok text =>
      obtain ⟨-, rfl⟩ := heffect
      cases text with
      | none =>
          obtain ⟨rfl, rfl, rfl⟩ := runs_pure.mp hrest
          exact ⟨rfl, rfl, rfl⟩
      | some stored =>
          obtain ⟨rfl, hsilent⟩ := runs_authorizationOf hrest
          exact ⟨rfl, .append ⟨rfl, rfl⟩ hsilent⟩

/-! ## From the answer on -/

/-- Forgetting the session removes it, or the removal failed. -/
theorem runs_forgetSession {url : String} {a : Unit}
    (h : Runs ClientStep.effect (forgetSession url) v turns a w) :
    turns.any Turn.isFailedRemoval = false ∧ w = v.forget ∨
      turns.any Turn.isFailedRemoval = true ∧ w = v := by
  obtain ⟨rest, rfl, hrest⟩ := Operation.runs_report_bind h
  obtain ⟨removed, u', first, rest, rfl, hremove, hlast⟩ := runs_bind.mp hrest
  obtain ⟨rfl, heffect⟩ := runs_perform.mp hremove
  cases removed with
  | ok _ =>
      obtain rfl : u' = v.forget := heffect
      obtain ⟨rfl, -, rfl⟩ := runs_pure.mp hlast
      exact .inl ⟨rfl, rfl⟩
  | error e =>
      obtain rfl : u' = v := heffect
      obtain ⟨rfl, rfl⟩ := runs_perform.mp hlast
      exact .inr ⟨rfl, rfl⟩

theorem not_isUnauthorized_of_decodeBody {parse : String → Except Json.Error α} {url : String}
    {body : Except Http.NetworkFault String} {e : ApiError}
    (h : decodeBody parse url body = .error e) : e.isUnauthorized = false := by
  unfold decodeBody at h
  split at h
  next => cases h; rfl
  next =>
    split at h
    next => cases h
    next => cases h; rfl

/-- An answer without success forgets the session if, and only if, it refuses the token. -/
theorem runs_refuse {url : String} {status : Nat} {body : Except Http.NetworkFault String}
    {ticket : Nat} {result : Except ApiError α}
    (h : Runs ClientStep.effect (refuse url status (bodyText body)) v turns result w) :
    Outcome v (⟨.receive ticket, .received status body⟩ :: turns) result w := by
  have hunauthorized := ApiError.isUnauthorized_ofStatus status (bodyText body)
  by_cases hstatus : status = unauthorized
  · have hrefusal : (Turn.mk (I := clientSteps) (.receive ticket)
        (.received status body)).isRefusal = true := by simp [Turn.isRefusal, hstatus]
    simp only [refuse, hstatus, ↓reduceIte] at h
    obtain ⟨_, u, first, rest, rfl, hforget, hrest⟩ := runs_bind.mp h
    obtain ⟨rfl, rfl, rfl⟩ := runs_pure.mp hrest
    rw [List.append_nil, ← hstatus]
    rw [hstatus, beq_self_eq_true] at hunauthorized
    rcases runs_forgetSession hforget with ⟨hremoval, rfl⟩ | ⟨hremoval, rfl⟩
    · exact .forgotten (by rw [List.any_cons, hrefusal, Bool.true_or])
        (by rw [List.any_cons, hremoval]; rfl) (hstatus ▸ hunauthorized)
    · exact .kept (by rw [List.any_cons, hrefusal, Bool.true_or])
        (by rw [List.any_cons, hremoval]; rfl) (hstatus ▸ hunauthorized)
  · rw [refuse, if_neg hstatus] at h
    obtain ⟨rfl, rfl, rfl⟩ := runs_pure.mp h
    refine .plain ⟨by simp [Turn.isRefusal, hstatus], rfl⟩ ?_
    rintro e ⟨⟩
    rw [hunauthorized]
    exact beq_false_of_ne hstatus

theorem runs_handle {parse : String → Except Json.Error α} {url : String} {answer : Http.Answer}
    {ticket : Nat} {result : Except ApiError α}
    (h : Runs ClientStep.effect (handle parse url answer) v turns result w) :
    Outcome v (⟨.receive ticket, answer⟩ :: turns) result w := by
  unfold handle at h
  split at h
  next fault =>
    obtain ⟨rfl, rfl, rfl⟩ := runs_pure.mp h
    refine .plain ⟨rfl, rfl⟩ ?_
    rintro e ⟨⟩
    rfl
  next status body =>
    split at h
    next hsuccess =>
      obtain ⟨rfl, rfl, rfl⟩ := runs_pure.mp h
      -- a success is no refusal: the status would have to be both
      have hstatus : status ≠ unauthorized := by
        rintro rfl
        cases hsuccess
      exact .plain ⟨by simp [Turn.isRefusal, hstatus], rfl⟩
        fun e he => not_isUnauthorized_of_decodeBody he
    next => exact runs_refuse h

/-! ## The whole call -/

/-- A call of the API leaves things alone unless the server refuses the token. -/
theorem runs_call {c : ApiClient} {method : Http.Method} {path : String} {body : Option String}
    {parse : String → Except Json.Error α} {result : Except ApiError α}
    (h : Runs ClientStep.effect (c.call method path body parse) v turns result w) :
    Outcome v turns result w := by
  have hnothing {u : Holdings} {turns : List (Turn clientSteps)} {fault : Http.NetworkFault}
      (h : Runs ClientStep.effect (pure (Except.error (ApiError.network fault))) u turns result
        w) : Outcome u turns result w := by
    obtain ⟨rfl, rfl, rfl⟩ := runs_pure.mp h
    refine .plain ⟨rfl, rfl⟩ ?_
    rintro e ⟨⟩
    rfl
  obtain ⟨rest, rfl, hrest⟩ := Operation.runs_report_bind h
  refine Outcome.behind ?_ ⟨rfl, rfl⟩
  obtain ⟨token, u', first, rest, rfl, htoken, hparsed⟩ := runs_bind.mp hrest
  obtain ⟨rfl, hsilent⟩ := runs_authorization htoken
  refine Outcome.behind ?_ hsilent
  split at hparsed
  next => exact hnothing hparsed
  next =>
    dsimp only at hparsed
    split at hparsed
    next =>
      obtain ⟨ticket, u, first, rest, rfl, hsend, hsent⟩ := runs_bind.mp hparsed
      obtain ⟨rfl, rfl⟩ := runs_perform.mp hsend
      refine Outcome.behind ?_ ⟨rfl, rfl⟩
      obtain ⟨answer, u, first, rest, rfl, hreceive, hreceived⟩ := runs_bind.mp hsent
      obtain ⟨rfl, rfl⟩ := runs_perform.mp hreceive
      exact runs_handle hreceived
    next => exact hnothing hparsed

end ApiClient

end SessionKeeper
