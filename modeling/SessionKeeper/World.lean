import SessionKeeper.Step
import SessionKeeper.Store.Basic

/-!
# The world of the client

The session in memory, the store, the network, and what was sent and reported so far, for a store
with states of any type.
-/

namespace SessionKeeper

/-- A request and what became of it. -/
structure Exchange where
  request : Http.Request
  answer : Http.Answer

/-- Everything that the steps of the client act on. `held` tells whether an operation has the guard,
and `arrived` how many of the answers have come in. -/
structure World (σ : Type) where
  store : σ
  session : Option Session
  loading : Bool
  held : Bool
  network : Http.Network
  exchanges : List Exchange
  arrived : Nat
  events : List Event
  lastError : Option ApiError

namespace World

variable {σ : Type}

/-- The world of a client that was just started: nobody is signed in, and the first operation is
still to come. -/
def start (store : σ) (network : Http.Network) : World σ where
  store := store
  session := none
  loading := true
  held := false
  network := network
  exchanges := []
  arrived := 0
  events := []
  lastError := none

/-- The world after the client was started again over the same store. -/
def restart (w : World σ) : World σ :=
  { w with session := none, loading := true, held := false, lastError := none }

/-- The world after a change of the store. -/
def change (w : World σ) (c : Change σ) : Except StoreError Unit × World σ :=
  (c.result, { w with store := c.store, events := w.events ++ c.events })

/-- The world after a request was sent, and its number. -/
def send (w : World σ) (request : Http.Request) : Nat × World σ :=
  match w.network.exchange request with
  | (answer, network) =>
    (w.exchanges.length,
      { w with network := network, exchanges := w.exchanges ++ [⟨request, answer⟩] })

/-- The answer to a request that was sent. -/
def answer (w : World σ) (ticket : Nat) : Http.Answer :=
  match w.exchanges[ticket]? with
  | some exchange => exchange.answer
  | none => .failed .cutShort

/-- Whether the answer to a request is still on its way. -/
def isUnderWay (w : World σ) (ticket : Nat) : Bool :=
  w.arrived ≤ ticket && !(w.answer ticket).isImmediate

/-- The world after all answers have come in. -/
def deliver (w : World σ) : World σ :=
  { w with arrived := w.exchanges.length }

end World

/-- How a step acts on the world. -/
def ClientStep.answer {σ : Type} [Store σ] : (step : ClientStep) → World σ → step.Answer × World σ
  | .acquire, w => ((), { w with held := true })
  | .release, w => ((), { w with held := false })
  | .setLoading busy, w => ((), { w with loading := busy })
  | .isLoading, w => (w.loading, w)
  | .readSession, w => (w.session, w)
  | .writeSession session, w => ((), { w with session := session })
  | .get key, w => (Store.get key w.store, w)
  | .set key value, w => w.change (Store.set key value w.store)
  | .remove key, w => w.change (Store.remove key w.store)
  | .send request, w => w.send request
  | .receive ticket, w => (w.answer ticket, w)
  | .report event, w => ((), { w with events := w.events ++ [event] })
  | .lastError, w => (w.lastError, w)
  | .noteError error, w => ((), { w with lastError := some error })

/-- Whether a step has to wait: for the guard while another operation has it, and for an answer that
is on its way. -/
def ClientStep.isBlocked {σ : Type} : ClientStep → World σ → Bool
  | .acquire, w => w.held
  | .receive ticket, w => w.isUnderWay ticket
  | _, _ => false

/-- How the steps of the client act on the world. -/
def clientHandler (σ : Type) [Store σ] : Handler clientSteps (World σ) :=
  ⟨ClientStep.answer, ClientStep.isBlocked⟩

/-- Runs an operation to its end with no other in between. -/
def Operation.run {σ α : Type} [Store σ] (op : Operation α) (w : World σ) : α × World σ :=
  Program.run (clientHandler σ) op w

end SessionKeeper
