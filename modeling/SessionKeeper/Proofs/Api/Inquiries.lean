import SessionKeeper.Proofs.Api.Attempts
import SessionKeeper.Proofs.Manager.Admission

/-!
# What an inquiry does to the store

A call of the API reads the stored session and sends a request. The answer alone decides what comes
of it: whether there is a value or which error, and whether the store is asked to drop the session.
It is asked exactly if the status says that the token was refused, which is what the error says as
well. Whether the store could be read, or could drop the session, makes no difference to the caller.
-/

namespace SessionKeeper

open Program

/-! ## Answers and changes -/

namespace Turn

/-- The answer that came back in a turn. -/
def answer? : Turn clientSteps → Option Http.Answer
  | ⟨.receive _, answer⟩ => some answer
  | _ => none

/-- The answers that came back in some turns. -/
def answers (turns : List (Turn clientSteps)) : List Http.Answer :=
  turns.filterMap answer?

/-- The changes that the store was asked for in some turns, made or not. -/
def changes (turns : List (Turn clientSteps)) : List ClientStep :=
  (turns.map fun t => t.step).filter ClientStep.changesStore

theorem answers_append (first rest : List (Turn clientSteps)) :
    answers (first ++ rest) = answers first ++ answers rest :=
  List.filterMap_append

theorem changes_append (first rest : List (Turn clientSteps)) :
    changes (first ++ rest) = changes first ++ changes rest := by
  rw [changes, List.map_append, List.filter_append]
  rfl

theorem answers_of_aside {turns : List (Turn clientSteps)} (h : ∀ t ∈ turns, t.step.Aside) :
    answers turns = [] := by
  refine List.filterMap_eq_nil_iff.mpr fun t ht => ?_
  have hstep := h t ht
  obtain ⟨step, answer⟩ := t
  cases step with
  | receive => exact hstep.elim
  | _ => rfl

theorem changes_of_looks {turns : List (Turn clientSteps)} (h : ∀ t ∈ turns, t.step.Looks) :
    changes turns = [] := by
  refine List.filter_eq_nil_iff.mpr fun step hstep => ?_
  obtain ⟨t, ht, rfl⟩ := List.mem_map.mp hstep
  simp [(h t ht).calm.2]

end Turn

/-- Whether the server refuses the token. -/
def Http.Answer.isRefusal : Http.Answer → Bool
  | .received status _ => status == ApiClient.unauthorized
  | .failed _ => false

namespace ApiClient

variable {α V : Type} {E : Effects clientSteps V} {v w : V} {turns : List (Turn clientSteps)}

/-! ## What an answer amounts to -/

/-- Why no request can be made for a path, if none can. -/
def urlFault (c : ApiClient) (path : String) : Url.UrlError :=
  match Url.parse (c.urlText path) with
  | .error e => e
  | .ok target => .unsendable (c.request .get target none none).url.write

/-- What a call amounts to, given the answers that came back: one, or none for want of a URL. -/
def resultFrom (c : ApiClient) (path : String) (parse : String → Except Json.Error α) :
    List Http.Answer → Except ApiError α
  | [] => .error (.network (.badUrl (c.urlFault path)))
  | answer :: _ => resultOf parse (c.urlText path) answer

/-! ## The whole call -/

theorem runs_forgetSession_changes {url : String} {a : Unit}
    (h : Runs E (forgetSession url) v turns a w) : Turn.changes turns = [.remove Session.key] := by
  obtain ⟨_, u, first, rest, rfl, hreport, hrest⟩ := runs_bind.mp h
  obtain ⟨rfl, -⟩ := runs_perform.mp hreport
  obtain ⟨removed, u', second, rest, rfl, hremove, hlast⟩ := runs_bind.mp hrest
  obtain ⟨rfl, -⟩ := runs_perform.mp hremove
  cases removed with
  | ok _ =>
      obtain ⟨rfl, -, -⟩ := runs_pure.mp hlast
      rfl
  | error e =>
      obtain ⟨rfl, -⟩ := runs_perform.mp hlast
      rfl

/-- Handling an answer changes the store only if the token was refused, and then in one way. -/
theorem runs_handle_changes {parse : String → Except Json.Error α} {url : String}
    {answer : Http.Answer} {result : Except ApiError α}
    (h : Runs E (handle parse url answer) v turns result w) :
    Turn.changes turns = if answer.isRefusal then [.remove Session.key] else [] := by
  unfold handle at h
  split at h
  next fault =>
    obtain ⟨rfl, -, -⟩ := runs_pure.mp h
    rfl
  next status body =>
    rw [Http.Answer.isRefusal]
    split at h
    next hsuccess =>
      obtain ⟨rfl, -, -⟩ := runs_pure.mp h
      rw [if_neg]
      · rfl
      · rw [beq_iff_eq]
        rintro rfl
        cases hsuccess
    next =>
      unfold refuse at h
      split at h
      next hstatus =>
        obtain ⟨_, u, first, rest, rfl, hforget, hdone⟩ := runs_bind.mp h
        obtain ⟨rfl, -, -⟩ := runs_pure.mp hdone
        rw [List.append_nil, runs_forgetSession_changes hforget, if_pos (beq_iff_eq.mpr hstatus)]
      next hstatus =>
        obtain ⟨rfl, -, -⟩ := runs_pure.mp h
        rw [if_neg (mt beq_iff_eq.mp hstatus)]
        rfl

/-- What came back in a call decides what it amounts to and which changes the store is asked for. -/
structure DecidedBy (c : ApiClient) (path : String) (parse : String → Except Json.Error α)
    (answers : List Http.Answer) (result : Except ApiError α) (changes : List ClientStep) :
    Prop where
  few : answers.length ≤ 1
  result_eq : result = c.resultFrom path parse answers
  changes_eq : changes =
    if answers.any Http.Answer.isRefusal then [.remove Session.key] else []

theorem decided_call {c : ApiClient} {method : Http.Method} {path : String} {body : Option String}
    {parse : String → Except Json.Error α} {result : Except ApiError α}
    (h : Runs E (c.call method path body parse) v turns result w) :
    c.DecidedBy path parse (Turn.answers turns) result (Turn.changes turns) := by
  obtain ⟨_, u, first, rest, rfl, hreport, hrest⟩ := runs_bind.mp h
  obtain ⟨rfl, -⟩ := runs_perform.mp hreport
  obtain ⟨token, u', second, rest, rfl, htoken, hlast⟩ := runs_bind.mp hrest
  have hlooked := looks_authorization.step_of_mem htoken
  have hanswers : Turn.answers second = [] := Turn.answers_of_aside fun t ht => (hlooked t ht).aside
  have hchanges : Turn.changes second = [] := Turn.changes_of_looks hlooked
  -- neither the announcement nor the token counts, so what is left decides
  rw [Turn.answers_append, Turn.answers_append, hanswers, Turn.changes_append,
    Turn.changes_append, hchanges]
  split at hlast
  next e he =>
    obtain ⟨rfl, rfl, -⟩ := runs_pure.mp hlast
    exact ⟨Nat.zero_le _, by simp only [Turn.answers, resultFrom, urlFault, he]; rfl, rfl⟩
  next target htarget =>
    dsimp only at hlast
    split at hlast
    next =>
      obtain ⟨ticket, u, third, rest, rfl, hsend, hsent⟩ := runs_bind.mp hlast
      obtain ⟨rfl, -⟩ := runs_perform.mp hsend
      obtain ⟨answer, u, fourth, rest, rfl, hreceive, hhandle⟩ := runs_bind.mp hsent
      obtain ⟨rfl, -⟩ := runs_perform.mp hreceive
      have hnone : Turn.answers rest = [] :=
        Turn.answers_of_aside ((aside_handle ..).step_of_mem hhandle)
      rw [Turn.answers_append, Turn.answers_append, hnone, Turn.changes_append,
        Turn.changes_append, runs_handle_changes hhandle, runs_handle_eq hhandle]
      exact ⟨Nat.le_refl _, rfl, by simp [Turn.answers, Turn.answer?, Turn.changes,
        ClientStep.changesStore]⟩
    next hunsendable =>
      obtain ⟨rfl, rfl, -⟩ := runs_pure.mp hlast
      refine ⟨Nat.zero_le _, ?_, rfl⟩
      rw [c.url_request_congr method .get target token none body none]
      simp only [Turn.answers, resultFrom, urlFault, htarget]
      rfl

end ApiClient

/-! ## Inquiries -/

/-- A call of the API by itself. -/
inductive Inquiry
  | get (path : String)
  | post (path : String) (body : Json.Value)

namespace Inquiry

variable {α : Type}

/-- The path that is asked for. -/
def path : Inquiry → String
  | .get path => path
  | .post path _ => path

/-- The operation of an inquiry for a value that is read with `parse`. -/
def operation (c : ApiClient) (parse : String → Except Json.Error α) :
    Inquiry → Operation (Except ApiError α)
  | .get path => c.get path parse
  | .post path body => c.post path body parse

variable {c : ApiClient} {inquiry : Inquiry} {parse : String → Except Json.Error α}

theorem outcome {v w : Holdings} {turns : List (Turn clientSteps)} {result : Except ApiError α}
    (h : Runs ClientStep.effect (inquiry.operation c parse) v turns result w) :
    ApiClient.Outcome v turns result w := by
  cases inquiry with
  | get path => exact ApiClient.runs_call h
  | post path body => exact ApiClient.runs_call h

end Inquiry

namespace ApiClient.DecidedBy

variable {α : Type} {c : ApiClient} {path : String} {parse : String → Except Json.Error α}
  {answers : List Http.Answer} {result : Except ApiError α} {changes : List ClientStep}

theorem cases (h : c.DecidedBy path parse answers result changes) :
    answers = [] ∨ ∃ answer, answers = [answer] := by
  rcases answers with _ | ⟨answer, _ | ⟨_, _⟩⟩
  · exact .inl rfl
  · exact .inr ⟨answer, rfl⟩
  · exact absurd h.few (by simp)

end ApiClient.DecidedBy

namespace Sample

/-- A client with something stored as a session. The next two calls of its store will fail, and its
next request will be refused. -/
def troubled : Exposed MemoryStore :=
  ⟨World.start ⟨SortedMap.empty.insert Session.key "session"⟩ .unreachable,
    [some .interrupted, some .interrupted], [refusal]⟩

end Sample

namespace Inquiry

end Inquiry

end SessionKeeper
