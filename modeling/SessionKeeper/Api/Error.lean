import SessionKeeper.ErrorKind
import SessionKeeper.Http.Exchange
import SessionKeeper.Json.Record
import SessionKeeper.Text.Boundary

/-!
# API errors

What a call of the API can fail with. An answer that is no success is classified by its status, and
its message is taken from the body: the text of its `error` field, or the body itself, shortened.
-/

namespace SessionKeeper

/-- Why a call of the API failed. -/
inductive ApiError
  | authRejected (status : Nat) (message : String)
  | notFound (message : String)
  | serverError (status : Nat) (message : String)
  | network (fault : Http.NetworkFault)
  | invalidResponse (message : String)
  deriving DecidableEq, Repr

namespace ApiError

/-- The longest body that is shown whole, in bytes. -/
def bodyLimit : Nat := 500

/-- A body, cut between characters when it is longer than the limit. -/
def shortened (body : String) : String :=
  if body.utf8ByteSize ≤ bodyLimit then body
  else
    let cs := body.toList
    String.ofList (Text.takeSize (Text.floorBoundary cs bodyLimit) cs) ++
      s!"... (truncated, {body.utf8ByteSize} total bytes)"

/-- The body of a failure, while it is read. -/
structure BodyDraft where
  error : Option String

/-- The body of a failure: a message under `error`. -/
def bodyShape : Json.Shape BodyDraft String where
  name := "ErrorBody"
  slots := [.of "error" false (·.error) (fun s d => { d with error := some s })
    fun _ => Json.readText "a string"]
  blank := ⟨none⟩
  build := fun d =>
    match d.error with
    | some message => .ok message
    | none => .error "error"

/-- The message that a body gives. -/
def messageOfBody (body : String) : String :=
  match Json.readWhole bodyShape.read body with
  | .ok message => message
  | .error _ => shortened body

/-- The error that an answer without success amounts to. -/
def ofStatus (status : Nat) (body : String) : ApiError :=
  let message := messageOfBody body
  if status = 400 ∨ status = 401 then .authRejected status message
  else if status = 404 then .notFound message
  else .serverError status message

/-- The wording of an error. -/
def message : ApiError → String
  | .authRejected status message => s!"Credentials rejected (status {status}): {message}"
  | .notFound message => s!"User not found: {message}"
  | .serverError status message => s!"Server error (status {status}): {message}"
  | .network fault => s!"Network error: {fault.message}"
  | .invalidResponse message => s!"Invalid response: {message}"

/-- The messages of what the error comes from, outermost first. -/
def sources : ApiError → List String
  | .network fault => fault.chain
  | _ => []

/-- The status of the answer, if one was classified by it. -/
def status? : ApiError → Option Nat
  | .authRejected status _ => some status
  | .serverError status _ => some status
  | .notFound _ => some 404
  | .network _ => none
  | .invalidResponse _ => none

/-- Whether the server refused the token. -/
def isUnauthorized (e : ApiError) : Bool :=
  e.status? == some 401

/-- What the error is about. An answer that cannot be read is the fault of the server. -/
def kind : ApiError → ErrorKind
  | .authRejected _ _ => .authRejected
  | .notFound _ => .notFound
  | .serverError _ _ => .server
  | .invalidResponse _ => .server
  | .network _ => .network

/-- What the person at the keyboard is told. -/
def userMessage : ApiError → String
  | .authRejected _ _ => "Invalid email or password"
  | .notFound _ => "User not found. Check the email address."
  | .serverError status _ => s!"Server error: {status}"
  | .invalidResponse _ => "Unexpected response from server"
  | .network fault =>
    if fault.isTimeout then "Connection timed out. Please try again."
    else "Unable to reach the server. Check your connection."

end ApiError

end SessionKeeper
