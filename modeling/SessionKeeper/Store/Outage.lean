import SessionKeeper.Store.Basic

/-!
# Outages of a store

A store behind which calls of some kinds fail. A failing call changes nothing, and says which call
it was.
-/

namespace SessionKeeper

/-- The kinds of calls that fail. -/
structure Outage where
  reading : Bool
  writing : Bool
  removing : Bool
  deriving DecidableEq, Repr, Inhabited

/-- No call fails. -/
def Outage.none : Outage :=
  ⟨false, false, false⟩

/-- A store, and the calls of it that fail. -/
structure Unreliable (σ : Type) where
  store : σ
  outage : Outage

namespace Unreliable

variable {σ : Type} [Store σ]

/-- The store without failing calls. -/
def repaired (u : Unreliable σ) : Unreliable σ :=
  { u with outage := .none }

/-- A change that failed and left everything as it was. -/
def refuse (u : Unreliable σ) (reason : String) : Change (Unreliable σ) :=
  ⟨.error (.unavailable reason), u, []⟩

/-- A change of the store itself. -/
def accept (u : Unreliable σ) (change : Change σ) : Change (Unreliable σ) :=
  ⟨change.result, { u with store := change.store }, change.events⟩

instance : Store (Unreliable σ) where
  get key u :=
    if u.outage.reading then .error (.unavailable "get failed") else Store.get key u.store
  set key value u :=
    if u.outage.writing then u.refuse "set failed" else u.accept (Store.set key value u.store)
  remove key u :=
    if u.outage.removing then u.refuse "remove failed" else u.accept (Store.remove key u.store)

end Unreliable

end SessionKeeper
