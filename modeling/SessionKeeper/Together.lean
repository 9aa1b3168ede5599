import SessionKeeper.Call
import SessionKeeper.Program.Pool
import SessionKeeper.Storage
import SessionKeeper.Store.Outage

/-!
# Calls at the same time

Calls that a single thread makes at the same time. Where the store takes its time, the calls of the
store are served in the order in which they were made, before any answer of the server comes in.
-/

namespace SessionKeeper

/-- Whether a step is a call of a store that takes time. The memory answers at once, and so does an
outage. -/
def ClientStep.isSlow : ClientStep → World (Unreliable Storage) → Bool
  | .get _, w => w.store.store.medium != .memory && !w.store.outage.reading
  | .set _ _, w => w.store.store.medium != .memory && !w.store.outage.writing
  | .remove _, w => w.store.store.medium != .memory && !w.store.outage.removing
  | _, _ => false

namespace Call

/-- How often a call may wait: for the guard, for an answer, and for the store, which it calls at
most twice. -/
def maxWaits : Nat := 4

/-- Makes calls at the same time. Each begins when its turn first comes and goes on as far as it
can; answers come in when all are waiting for them. Without a reply from all there is no list of
replies. -/
def runTogether (c : ApiClient) (calls : List Call) (w : World (Unreliable Storage)) :
    Option (List Reply) × World (Unreliable Storage) :=
  Pool.settle (clientHandler (Unreliable Storage)) ClientStep.isSlow World.deliver
    (maxWaits * calls.length + 2) [] (calls.map fun call => .waiting fun _ => call.noting c)
    w.deliver

end Call

end SessionKeeper
