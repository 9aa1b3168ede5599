import SessionKeeper.FileTree.Basic
import SessionKeeper.Json.Fault

/-!
# Store errors

What can go wrong when a key-value store is read or changed.
-/

namespace SessionKeeper

/-- Why the keychain of the system refused a call. -/
inductive KeychainError
  | noEntry
  | platformFailure (text : String)
  | noStorageAccess (text : String)
  | badEncoding
  | tooLong (name : String) (limit : Nat)
  | invalid (name reason : String)
  deriving DecidableEq, Repr

/-- The wording of the refusal. -/
def KeychainError.message : KeychainError → String
  | .noEntry => "No matching entry found in secure storage"
  | .platformFailure text => s!"Platform secure storage failure: {text}"
  | .noStorageAccess text => s!"Couldn't access platform secure storage: {text}"
  | .badEncoding => "Data is not UTF-8 encoded"
  | .tooLong name limit => s!"Attribute '{name}' is longer than platform limit of {limit} chars"
  | .invalid name reason => s!"Attribute {name} is invalid: {reason}"

/-- Why a store could not be read or changed. -/
inductive StoreError
  | io (error : IoError)
  | keychain (error : KeychainError)
  | damaged (error : Json.Error)
  | unavailable (reason : String)
  | interrupted
  deriving DecidableEq, Repr

/-- What the error is about, and what it comes from, outermost first. -/
def StoreError.message : StoreError → String
  | .io e => s!"Storage I/O failed: {e.message}"
  | .keychain e => s!"Keychain access failed: {e.message}"
  | .damaged e => s!"Storage file is not valid JSON: {e.message}"
  | .unavailable reason => s!"Storage unavailable: {reason}"
  | .interrupted => "Storage unavailable: keychain task failed: task panicked"

/-- The messages of what the error comes from, outermost first. -/
def StoreError.sources : StoreError → List String
  | .io e => [e.message]
  | .keychain e => [e.message]
  | .damaged e => [e.message]
  | .unavailable _ => []
  | .interrupted => []

end SessionKeeper
