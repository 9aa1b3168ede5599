import SessionKeeper.Api.Error
import SessionKeeper.Store.Error

/-!
# Errors of the manager

Every failure that an operation on the session can end in.
-/

namespace SessionKeeper

/-- Why an operation on the session failed. -/
inductive Error
  | api (error : ApiError)
  | storage (error : StoreError)
  | corruptSession (error : Json.Error)
  deriving DecidableEq, Repr

namespace Error

/-- The wording of an error. -/
def message : Error → String
  | .api e => e.message
  | .storage e => e.message
  | .corruptSession e => s!"Stored session is not valid JSON: {e.message}"

/-- The messages of what the error comes from, outermost first. -/
def sources : Error → List String
  | .api e => e.sources
  | .storage e => e.sources
  | .corruptSession e => [e.message]

/-- What the error is about. -/
def kind : Error → ErrorKind
  | .api e => e.kind
  | .storage _ => .storage
  | .corruptSession _ => .storage

/-- What the person at the keyboard is told. -/
def userMessage : Error → String
  | .api e => e.userMessage
  | .storage _ => "Could not access local storage"
  | .corruptSession _ => "Saved session is damaged. Please sign in again."

/-- The error of the API, if it is one. -/
def api? : Error → Option ApiError
  | .api e => some e
  | _ => none

end Error

end SessionKeeper
