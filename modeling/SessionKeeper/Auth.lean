import SessionKeeper.Api.Client
import SessionKeeper.Credentials

/-!
# Signing in and registering

The two calls that send credentials, and the questions about the stored session that need no
manager. Failures are handed on as they are.
-/

namespace SessionKeeper.Auth

/-- Signs in. -/
def login (c : ApiClient) (credentials : Credentials) :
    Operation (Except ApiError LoginResponse) := do
  Operation.report .debug "Sending login request" [("credentials", credentials.shown)]
  c.post "/login" credentials.toValue LoginResponse.parse

/-- Registers a new user. -/
def register (c : ApiClient) (credentials : Credentials) :
    Operation (Except ApiError RegisterResponse) := do
  Operation.report .debug "Sending registration request" [("credentials", credentials.shown)]
  c.post "/register" credentials.toValue RegisterResponse.parse

/-- Removes the stored session, whoever is signed in. -/
def logout : Operation (Except StoreError Unit) :=
  Operation.remove Session.key

/-- Whether something is stored as a session. A store that cannot be read counts as none. -/
def isAuthenticated : Operation Bool := do
  match ← Operation.get Session.key with
  | .ok (some stored) => return stored != ""
  | .ok none => return false
  | .error e =>
    Operation.report .warn "Could not read session, treating as signed out" [("error", e.message)]
    return false

end SessionKeeper.Auth
