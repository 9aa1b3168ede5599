import SessionKeeper.Event
import SessionKeeper.Store.Error

/-!
# Key-value stores

A store keeps a text under each key. Reading changes nothing; a change gives its result, the store
after it and the events it reports.
-/

namespace SessionKeeper

/-- What a change of a store amounts to. -/
structure Change (σ : Type) where
  result : Except StoreError Unit
  store : σ
  events : List Event

/-- The operations of a key-value store whose states are of type `σ`. -/
class Store (σ : Type) where
  /-- The text under a key, if there is one. -/
  get : String → σ → Except StoreError (Option String)
  /-- Puts a text under a key, over an earlier one. -/
  set : String → String → σ → Change σ
  /-- Removes a key. It need not be there. -/
  remove : String → σ → Change σ

end SessionKeeper
