import SessionKeeper.Proofs.Program.Runs
import SessionKeeper.Proofs.Store.Lawful
import SessionKeeper.World

/-!
# Clients exposed to faults

The world of a client together with what it will meet: which of the coming calls of the store fail,
and what comes back for the coming requests. For proofs about the session only two things in it
matter, the texts of the store and the session in memory; each step acts on these two within
`ClientStep.effect`.
-/

namespace SessionKeeper

/-- A world, the faults that the next calls of its store meet, and the answers to its next requests.
Calls beyond the faults reach the store, and requests beyond the answers reach the network. -/
structure Exposed (σ : Type) where
  world : World σ
  faults : List (Option StoreError)
  answers : List Http.Answer

/-- The stored texts and the session in memory. -/
structure Holdings where
  texts : Texts
  session : Option Session

namespace Exposed

variable {σ α : Type} [Store σ]

/-- Lets a step act on the world. -/
def through (step : ClientStep) (x : Exposed σ) : step.Answer × Exposed σ :=
  ((step.answer x.world).1, { x with world := (step.answer x.world).2 })

/-- The world after the next fault was met or missed. -/
def pastFault (x : Exposed σ) : Exposed σ :=
  { x with faults := x.faults.tail }

/-- The fault that the next call of the store meets. -/
def fault? (x : Exposed σ) : Option StoreError :=
  x.faults.head?.join

/-- How a step acts. A call of the store that meets a fault changes nothing but the faults to
come. -/
def answer : (step : ClientStep) → Exposed σ → step.Answer × Exposed σ
  | .get key, x =>
    match x.fault? with
    | some e => (.error e, x.pastFault)
    | none => x.pastFault.through (.get key)
  | .set key value, x =>
    match x.fault? with
    | some e => (.error e, x.pastFault)
    | none => x.pastFault.through (.set key value)
  | .remove key, x =>
    match x.fault? with
    | some e => (.error e, x.pastFault)
    | none => x.pastFault.through (.remove key)
  | .send request, x =>
    match x.answers with
    | [] => x.through (.send request)
    | answer :: answers =>
      (x.world.exchanges.length,
        { x with
          world := { x.world with exchanges := x.world.exchanges ++ [⟨request, answer⟩] }
          answers := answers })
  | step, x => x.through step

/-- Whether a step has to wait, which is for the guard. When an answer arrives is left to whoever
makes the moves. -/
def isBlocked : ClientStep → Exposed σ → Bool
  | .acquire, x => x.world.held
  | _, _ => false

/-- How the steps of the client act on a world that is exposed to faults. -/
def handler (σ : Type) [Store σ] : Handler clientSteps (Exposed σ) :=
  ⟨answer, isBlocked⟩

/-- Runs an operation to its end with no other in between. -/
def run (op : Operation α) (x : Exposed σ) : α × Exposed σ :=
  Program.run (handler σ) op x

/-- A world that meets no faults, with nothing but the network to answer its requests. -/
def calm (w : World σ) : Exposed σ :=
  ⟨w, [], []⟩

/-- A new client over the store of another. -/
def restart (x : Exposed σ) (faults : List (Option StoreError)) (answers : List Http.Answer) :
    Exposed σ :=
  ⟨x.world.restart, faults, answers⟩

/-- What proofs about the session look at. -/
def holdings [LawfulStore σ] (x : Exposed σ) : Holdings :=
  ⟨LawfulStore.texts x.world.store, x.world.session⟩

end Exposed

/-- The answers that a step may get, and what it may do to the texts and the session. A call of the
store that fails does nothing to them. -/
def ClientStep.effect : Effects clientSteps Holdings
  | .readSession, v, session, w => session = v.session ∧ w = v
  | .writeSession session, v, _, w => w = { v with session := session }
  | .get key, v, .ok text, w => text = v.texts key ∧ w = v
  | .set key value, v, .ok (), w => w = { v with texts := v.texts.put key value }
  | .remove key, v, .ok (), w => w = { v with texts := v.texts.drop key }
  | _, v, _, w => w = v

/-! ## Steps act within their effects -/

namespace Exposed

variable {σ α : Type} [Store σ] [LawfulStore σ]

theorem effect_get (key : String) (x : Exposed σ) :
    ClientStep.effect (.get key) x.holdings (x.through (.get key)).1
      (x.through (.get key)).2.holdings := by
  change ClientStep.effect (.get key) x.holdings (Store.get key x.world.store) x.holdings
  cases hget : Store.get key x.world.store with
  | error e => rfl
  | ok text => exact ⟨LawfulStore.texts_of_get hget, rfl⟩

theorem effect_set (key value : String) (x : Exposed σ) :
    ClientStep.effect (.set key value) x.holdings (x.through (.set key value)).1
      (x.through (.set key value)).2.holdings := by
  change ClientStep.effect (.set key value) x.holdings (Store.set key value x.world.store).result
    ⟨LawfulStore.texts (Store.set key value x.world.store).store, x.world.session⟩
  cases hset : (Store.set key value x.world.store).result with
  | error e =>
      rw [LawfulStore.texts_set_of_error hset]
      rfl
  | ok _ =>
      rw [LawfulStore.texts_set hset]
      rfl

theorem effect_remove (key : String) (x : Exposed σ) :
    ClientStep.effect (.remove key) x.holdings (x.through (.remove key)).1
      (x.through (.remove key)).2.holdings := by
  change ClientStep.effect (.remove key) x.holdings (Store.remove key x.world.store).result
    ⟨LawfulStore.texts (Store.remove key x.world.store).store, x.world.session⟩
  cases hremove : (Store.remove key x.world.store).result with
  | error e =>
      rw [LawfulStore.texts_remove_of_error hremove]
      rfl
  | ok _ =>
      rw [LawfulStore.texts_remove hremove]
      rfl

theorem effect_answer (step : ClientStep) (x : Exposed σ) :
    step.effect x.holdings (answer step x).1 (answer step x).2.holdings := by
  cases step with
  | get key =>
      rw [answer]
      split
      next => rfl
      next => exact effect_get key x.pastFault
  | set key value =>
      rw [answer]
      split
      next => rfl
      next => exact effect_set key value x.pastFault
  | remove key =>
      rw [answer]
      split
      next => rfl
      next => exact effect_remove key x.pastFault
  | send request =>
      rw [answer]
      split <;> rfl
  | readSession => exact ⟨rfl, rfl⟩
  | _ => rfl

/-- Every run of an operation acts within the effects of its steps. -/
theorem runs_run (op : Operation α) (x : Exposed σ) :
    Program.Runs ClientStep.effect op x.holdings (op.turns (handler σ) x) (run op x).1
      (run op x).2.holdings :=
  Program.runs_run holdings effect_answer op x

end Exposed

/-! ## Steps in front -/

namespace Operation

variable {α : Type} {rest : Unit → Operation α} {v w : Holdings} {turns : List (Turn clientSteps)}
  {a : α}

theorem runs_report_bind {level : Level} {message : String} {fields : List (String × String)}
    (h : Program.Runs ClientStep.effect (report level message fields >>= rest) v turns a w) :
    ∃ tail, turns = [⟨.report ⟨level, message, fields⟩, ()⟩] ++ tail ∧
      Program.Runs ClientStep.effect (rest ()) v tail a w := by
  obtain ⟨_, u, first, tail, rfl, hreport, hrest⟩ := Program.runs_bind.mp h
  obtain ⟨rfl, rfl⟩ := Program.runs_perform.mp hreport
  exact ⟨tail, rfl, hrest⟩

theorem runs_writeSession_bind {session : Option Session}
    (h : Program.Runs ClientStep.effect (writeSession session >>= rest) v turns a w) :
    ∃ tail, turns = [⟨.writeSession session, ()⟩] ++ tail ∧
      Program.Runs ClientStep.effect (rest ()) { v with session := session } tail a w := by
  obtain ⟨_, u, first, tail, rfl, hwrite, hrest⟩ := Program.runs_bind.mp h
  obtain ⟨rfl, rfl⟩ := Program.runs_perform.mp hwrite
  exact ⟨tail, rfl, hrest⟩

end Operation

end SessionKeeper
