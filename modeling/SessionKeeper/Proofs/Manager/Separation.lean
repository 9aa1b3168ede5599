import SessionKeeper.Proofs.Api.Requests
import SessionKeeper.Proofs.Manager.Loading
import SessionKeeper.Proofs.Program.Apart
import SessionKeeper.Proofs.Store.Separate

/-!
# The session and the colour preference keep apart

Calls about the session and calls about the preference share a store, and nothing else that both of
them look at. As long as no call of the store fails, each group does what it would do if the other
had never been there, however their steps are mixed.
-/

namespace SessionKeeper

theorem ClientStep.exists_send {step : ClientStep} (h : ¬ step.Mute) :
    ∃ request, step = .send request := by
  cases step with
  | send request => exact ⟨request, rfl⟩
  | _ => exact absurd rfl h

theorem ClientStep.OfPreference.mute {step : ClientStep} (h : step.OfPreference) :
    step.Mute := by
  cases step with
  | send => exact h.elim
  | _ => rfl

namespace Exposed

variable {σ : Type} [Store σ]

/-- Where no faults are to be met, the store is called. -/
theorem answer_of_faultless {step : ClientStep} {x : Exposed σ} (h : x.faults = [])
    (hmute : step.Mute) : answer step x = x.through step := by
  obtain ⟨world, faults, answers⟩ := x
  cases h
  cases step with
  | send => cases hmute
  | _ => rfl

variable [SeparateStore σ]

/-- Clients that are the same to calls about the session. -/
structure SameSession (x y : Exposed σ) : Prop where
  store : SeparateStore.Same Session.key x.world.store y.world.store
  session : x.world.session = y.world.session
  loading : x.world.loading = y.world.loading
  held : x.world.held = y.world.held
  network : x.world.network = y.world.network
  exchanges : x.world.exchanges = y.world.exchanges
  lastError : x.world.lastError = y.world.lastError
  answers : x.answers = y.answers
  faultless : x.faults = []
  faultless' : y.faults = []

/-- Clients that are the same to calls about the preference. -/
structure SamePreference (x y : Exposed σ) : Prop where
  store : SeparateStore.Same ColorMode.key x.world.store y.world.store
  faultless : x.faults = []
  faultless' : y.faults = []

/-- A request gets the same number and the same answer. -/
theorem SameSession.send {x y : Exposed σ} (h : x.SameSession y) (request : Http.Request) :
    (answer (.send request) x).1 = (answer (.send request) y).1 ∧
      (answer (.send request) x).2.SameSession (answer (.send request) y).2 := by
  have hexchanges := h.exchanges
  rw [answer, answer, h.answers]
  split
  next =>
    refine ⟨congrArg List.length hexchanges, { h with network := ?_, exchanges := ?_ }⟩
    · exact congrArg (fun network => (network.exchange request).2) h.network
    · change x.world.exchanges ++ _ = y.world.exchanges ++ _
      rw [hexchanges, h.network]
  next =>
    exact ⟨congrArg List.length hexchanges,
      { h with answers := rfl, exchanges := congrArg (· ++ _) hexchanges }⟩

/-- Calls about the session do not notice those about the preference. -/
theorem separates_session : (handler σ).Separates (handler σ) SameSession
    (fun t => t.isFailedCall = false) (ClientStep.KeepsTo Session.key)
    ClientStep.OfPreference where
  blocked step x y _ h := by
    cases step with
    | acquire => exact h.held
    | _ => rfl
  answer step x y hstep h _ hok := by
    change Turn.isFailedCall ⟨step, (answer step x).1⟩ = false at hok
    change (answer step x).1 = (answer step y).1 ∧ (answer step x).2.SameSession (answer step y).2
    by_cases hmute : step.Mute
    case neg =>
      obtain ⟨request, rfl⟩ := ClientStep.exists_send hmute
      exact h.send request
    rw [answer_of_faultless h.faultless hmute] at hok ⊢
    rw [answer_of_faultless h.faultless' hmute]
    cases step with
    | get key =>
        obtain rfl : key = Session.key := hstep
        exact ⟨SeparateStore.get h.store, h⟩
    | set key value =>
        obtain rfl : key = Session.key := hstep
        obtain ⟨hok', hstore⟩ := SeparateStore.set h.store (Turn.set_eq_ok hok)
        exact ⟨(Turn.set_eq_ok hok).trans hok'.symm, { h with store := hstore }⟩
    | remove key =>
        obtain rfl : key = Session.key := hstep
        obtain ⟨hok', hstore⟩ := SeparateStore.remove h.store (Turn.remove_eq_ok hok)
        exact ⟨(Turn.remove_eq_ok hok).trans hok'.symm, { h with store := hstore }⟩
    | acquire => exact ⟨rfl, { h with held := rfl }⟩
    | release => exact ⟨rfl, { h with held := rfl }⟩
    | setLoading busy => exact ⟨rfl, { h with loading := rfl }⟩
    | isLoading => exact ⟨h.loading, h⟩
    | readSession => exact ⟨h.session, h⟩
    | writeSession session => exact ⟨rfl, { h with session := rfl }⟩
    | send => cases hmute
    | receive ticket =>
        exact ⟨by simp only [through, ClientStep.answer, World.answer, h.exchanges], h⟩
    | report event => exact ⟨rfl, { h with }⟩
    | lastError => exact ⟨h.lastError, h⟩
    | noteError e => exact ⟨rfl, { h with lastError := rfl }⟩
  unnoticed step x y hstep h hok := by
    change Turn.isFailedCall ⟨step, (answer step x).1⟩ = false at hok
    change (answer step x).2.SameSession y
    rw [answer_of_faultless h.faultless hstep.mute] at hok ⊢
    cases step with
    | get key => exact h
    | set key value =>
        obtain rfl : key = ColorMode.key := hstep
        exact { h with store := SeparateStore.set_other h.store (by decide) (Turn.set_eq_ok hok) }
    | report event => exact { h with }
    | _ => exact hstep.elim

/-- Calls about the preference do not notice those about the session. -/
theorem separates_preference : (handler σ).Separates (handler σ) SamePreference
    (fun t => t.isFailedCall = false) ClientStep.OfPreference
    (ClientStep.KeepsTo Session.key) where
  blocked step x y hstep _ := by
    cases step with
    | acquire => exact hstep.elim
    | _ => rfl
  answer step x y hstep h _ hok := by
    change Turn.isFailedCall ⟨step, (answer step x).1⟩ = false at hok
    change (answer step x).1 = (answer step y).1 ∧
      (answer step x).2.SamePreference (answer step y).2
    rw [answer_of_faultless h.faultless hstep.mute] at hok ⊢
    rw [answer_of_faultless h.faultless' hstep.mute]
    cases step with
    | get key =>
        obtain rfl : key = ColorMode.key := hstep
        exact ⟨SeparateStore.get h.store, h⟩
    | set key value =>
        obtain rfl : key = ColorMode.key := hstep
        obtain ⟨hok', hstore⟩ := SeparateStore.set h.store (Turn.set_eq_ok hok)
        exact ⟨(Turn.set_eq_ok hok).trans hok'.symm, { h with store := hstore }⟩
    | report event => exact ⟨rfl, { h with }⟩
    | _ => exact hstep.elim
  unnoticed step x y hstep h hok := by
    change Turn.isFailedCall ⟨step, (answer step x).1⟩ = false at hok
    change (answer step x).2.SamePreference y
    by_cases hmute : step.Mute
    -- a request changes the network and the exchanges, which the preference does not look at
    case neg =>
      obtain ⟨request, rfl⟩ := ClientStep.exists_send hmute
      rw [answer]
      split <;> exact { h with }
    rw [answer_of_faultless h.faultless hmute] at hok ⊢
    cases step with
    | set key value =>
        obtain rfl : key = Session.key := hstep
        exact { h with store := SeparateStore.set_other h.store (by decide) (Turn.set_eq_ok hok) }
    | remove key =>
        obtain rfl : key = Session.key := hstep
        exact { h with
          store := SeparateStore.remove_other h.store (by decide) (Turn.remove_eq_ok hok) }
    | send => cases hmute
    | _ => exact { h with }

end Exposed

/-! ## Errands that share a store -/

namespace Errand

/-- Whether an errand is about the preference. -/
def isPreference : Errand → Bool
  | .call made => made.isPreference
  | .expire _ => false

/-- Whether an errand reads or changes a key of the store that it is given. -/
def isKeyAccess : Errand → Bool
  | .call made => made.isKeyAccess
  | .expire _ => false

/-- Whether the errand of an index is about the preference. -/
def preferenceAt (errands : List Errand) (i : Nat) : Bool :=
  errands[i]?.any isPreference

/-- The moves of a schedule by errands about the preference. -/
def preferenceMoves (errands : List Errand) (schedule : List Nat) : List Nat :=
  schedule.filter (preferenceAt errands)

/-- The moves of a schedule by errands about the session. -/
def sessionMoves (errands : List Errand) (schedule : List Nat) : List Nat :=
  schedule.filter fun i => !preferenceAt errands i

variable {σ : Type} [Store σ]

/-- The turns of errands that go on at the same time, under a schedule. -/
def trace (c : ApiClient) (errands : List Errand) (x : Exposed σ) (schedule : List Nat) :
    List (Nat × Turn clientSteps) :=
  (Pool.start (errands.map (operation c)) x).trace (Exposed.handler σ) schedule

/-- Errands that go on at the same time, after the moves of a schedule. -/
def after (c : ApiClient) (errands : List Errand) (x : Exposed σ) (schedule : List Nat) :
    Pool clientSteps (Exposed σ) Reply :=
  (Pool.start (errands.map (operation c)) x).run (Exposed.handler σ) schedule

theorem ofPreference_operation (c : ApiClient) {errand : Errand}
    (h : errand.isPreference = true) :
    (errand.operation c).Within ClientStep.OfPreference := by
  cases errand with
  | call made => exact Call.ofPreference_operation c h
  | expire e => cases h

theorem keepsTo_operation (c : ApiClient) {errand : Errand}
    (hpreference : errand.isPreference = false) (hkey : errand.isKeyAccess = false) :
    (errand.operation c).Within (ClientStep.KeepsTo Session.key) := by
  cases errand with
  | call made => exact Call.keepsTo_operation c hpreference hkey
  | expire e => exact .bind (Call.keepsTo_expireIfUnauthorized e) fun _ => .pure _

theorem exists_errand {c : ApiClient} {errands : List Errand} {i : Nat} {op : Operation Reply}
    (hop : (errands.map (operation c))[i]? = some op) :
    ∃ errand ∈ errands, preferenceAt errands i = errand.isPreference ∧
      op = errand.operation c := by
  rw [List.getElem?_map, Option.map_eq_some_iff] at hop
  obtain ⟨errand, herrand, rfl⟩ := hop
  refine ⟨errand, List.mem_of_getElem? herrand, ?_, rfl⟩
  rw [preferenceAt, herrand, Option.any_some]

variable [SeparateStore σ]

/-- Errands about the session and errands about the preference do not interfere. They go on at the
same time over one store, or one after another, and no call of the store fails; the server may
answer anything. Without the moves of the errands about the preference, those about the session
would have come just as far, with the same results, the same requests, the same session in memory
and the same text under its key; and without the moves of those, the errands about the preference
would have come just as far, with the same results and the same text under theirs. -/
theorem session_and_preference_apart (c : ApiClient) (errands : List Errand)
    (hkeys : ∀ errand ∈ errands, errand.isKeyAccess = false) (x : Exposed σ)
    (hcalm : x.faults = []) (schedule : List Nat)
    (hworks : ∀ t ∈ trace c errands x schedule, t.2.isFailedCall = false) :
    ((∀ i, preferenceAt errands i = false → (after c errands x schedule).tasks[i]? =
        (after c errands x (sessionMoves errands schedule)).tasks[i]?) ∧
      (after c errands x schedule).world.world.session =
        (after c errands x (sessionMoves errands schedule)).world.world.session ∧
      (after c errands x schedule).world.world.exchanges =
        (after c errands x (sessionMoves errands schedule)).world.world.exchanges ∧
      Store.get Session.key (after c errands x schedule).world.world.store =
        Store.get Session.key
          (after c errands x (sessionMoves errands schedule)).world.world.store) ∧
    (∀ i, preferenceAt errands i = true → (after c errands x schedule).tasks[i]? =
        (after c errands x (preferenceMoves errands schedule)).tasks[i]?) ∧
      Store.get ColorMode.key (after c errands x schedule).world.world.store =
        Store.get ColorMode.key
          (after c errands x (preferenceMoves errands schedule)).world.world.store := by
  have hsame (key : String) := SeparateStore.refl key x.world.store
  constructor
  · have hstart : (Pool.start (errands.map (operation c)) x).Apart Exposed.SameSession
        (fun i => !preferenceAt errands i) (ClientStep.KeepsTo Session.key)
        ClientStep.OfPreference (.start (errands.map (operation c)) x) := by
      refine .start ⟨hsame _, rfl, rfl, rfl, rfl, rfl, rfl, rfl, hcalm, hcalm⟩
        (fun i op hop hi => ?_) fun i op hop hi => ?_
      · obtain ⟨errand, hmem, hkind, rfl⟩ := exists_errand hop
        rw [hkind, Bool.not_eq_true'] at hi
        exact keepsTo_operation c hi (hkeys errand hmem)
      · obtain ⟨errand, hmem, hkind, rfl⟩ := exists_errand hop
        rw [hkind, Bool.not_eq_false'] at hi
        exact ofPreference_operation c hi
    have hrun := hstart.run Exposed.separates_session hworks
    exact ⟨fun i hi => hrun.tasks i (by rw [hi]; rfl), hrun.world.session, hrun.world.exchanges,
      SeparateStore.get hrun.world.store⟩
  · have hstart : (Pool.start (errands.map (operation c)) x).Apart Exposed.SamePreference
        (preferenceAt errands) ClientStep.OfPreference (ClientStep.KeepsTo Session.key)
        (.start (errands.map (operation c)) x) := by
      refine .start ⟨hsame _, hcalm, hcalm⟩ (fun i op hop hi => ?_) fun i op hop hi => ?_
      · obtain ⟨errand, hmem, hkind, rfl⟩ := exists_errand hop
        exact ofPreference_operation c (hkind.symm.trans hi)
      · obtain ⟨errand, hmem, hkind, rfl⟩ := exists_errand hop
        exact keepsTo_operation c (hkind.symm.trans hi) (hkeys errand hmem)
    have hrun := hstart.run Exposed.separates_preference hworks
    exact ⟨hrun.tasks, SeparateStore.get hrun.world.store⟩

end Errand

namespace Sample

/-- Somebody signs in while the preference is toggled. -/
def household : List Errand :=
  [.call (.signIn credentials), .call .toggleMode]

/-- A client whose storage file is still to be made, and the directory of it too. -/
def unfiled : Exposed FileStore :=
  ⟨World.start ⟨⟨"data/storage.json"⟩, .empty⟩ .unreachable, [], [grant]⟩

/-- The sign-in and the toggling take turns, move by move. -/
def mixed : List Nat :=
  (List.replicate 16 [0, 1]).flatten

end Sample

/-- Mixed with a sign-in, which writes the same file, toggling comes to what it would have come to
alone: the mode is stored. -/
theorem Errand.session_and_preference_apart_of_household :
    Store.get ColorMode.key (after Sample.client Sample.household Sample.unfiled
        Sample.mixed).world.world.store = .ok (some ColorMode.dark.render) ∧
      Store.get ColorMode.key (after Sample.client Sample.household Sample.unfiled
        (preferenceMoves Sample.household Sample.mixed)).world.world.store =
        .ok (some ColorMode.dark.render) := by
  have hkeys : ∀ errand ∈ Sample.household, errand.isKeyAccess = false := by
    decide +kernel
  have hworks : ∀ t ∈ trace Sample.client Sample.household Sample.unfiled Sample.mixed,
      t.2.isFailedCall = false := by
    decide +kernel
  have halone : Store.get ColorMode.key (after Sample.client Sample.household Sample.unfiled
      (preferenceMoves Sample.household Sample.mixed)).world.world.store =
        .ok (some ColorMode.dark.render) := by
    decide +kernel
  have hapart := session_and_preference_apart Sample.client Sample.household hkeys Sample.unfiled
    rfl Sample.mixed hworks
  exact ⟨hapart.2.2.trans halone, halone⟩

end SessionKeeper
