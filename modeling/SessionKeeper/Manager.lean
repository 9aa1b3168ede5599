import SessionKeeper.Auth

/-!
# The session manager

The one authority for who is signed in. Its operations take turns: each holds a guard from its first
step to its last. The store is written before the session in memory on signing in, and cleared
before it on signing out.
-/

namespace SessionKeeper.Manager

/-- Runs an operation while holding the guard. -/
def guarded {α : Type} (op : Operation α) : Operation α := do
  Operation.acquire
  let a ← op
  Operation.release
  return a

/-- Runs an operation while holding the guard, and is loading meanwhile. -/
def exclusive {α : Type} (op : Operation α) : Operation α :=
  guarded do
    Operation.setLoading true
    let a ← op
    Operation.setLoading false
    return a

/-- Takes the stored session into memory, if there is one. -/
def restore : Operation (Except Error (Option Session)) := do
  match ← Operation.get Session.key with
  | .error e => return .error (.storage e)
  | .ok stored =>
    match stored.getD "" with
    | "" =>
      Operation.report .debug "No stored session" []
      return .ok none
    | text =>
      match Session.parse text with
      | .error e => return .error (.corruptSession e)
      | .ok session =>
        Operation.report .info "Restored stored session" [("email", session.email)]
        Operation.writeSession (some session)
        return .ok (some session)

/-- Stores a session, and only then makes it the one in memory. -/
def establish (session : Session) : Operation (Except Error Session) := do
  match ← Operation.set Session.key session.render with
  | .error e => return .error (.storage e)
  | .ok () =>
    Operation.writeSession (some session)
    Operation.report .info "Session established" [("email", session.email), ("id", session.id)]
    return .ok session

/-- Drops the session in memory. Tells whether there was one. -/
def dropSession : Operation Bool := do
  match ← Operation.readSession with
  | none => return false
  | some session =>
    Operation.writeSession none
    Operation.report .info "Session rejected by server, signed out" [("email", session.email)]
    return true

/-- Handles the error of a call with credentials. A refused token has already left the store. -/
def rejected {α : Type} (message email : String) (e : ApiError) : Operation (Except Error α) := do
  Operation.report .warn message [("email", email), ("error", e.message)]
  if e.isUnauthorized then
    let _ ← dropSession
  return .error (.api e)

/-- Takes the stored session into memory. Meant to be the first operation. -/
def bootstrap : Operation (Except Error (Option Session)) :=
  exclusive restore

/-- Signs in, and keeps the session. -/
def signIn (c : ApiClient) (credentials : Credentials) : Operation (Except Error Session) :=
  exclusive do
    match ← Auth.login c credentials with
    | .error e => rejected "Sign-in failed" credentials.email e
    | .ok response =>
      establish ⟨Session.placeholderId, credentials.email, none, response.token⟩

/-- Registers, and keeps the session. The name is never sent. -/
def registerUser (c : ApiClient) (credentials : Credentials) (name : Option String) :
    Operation (Except Error Session) :=
  exclusive do
    match ← Auth.register c credentials with
    | .error e => rejected "Registration failed" credentials.email e
    | .ok response =>
      establish
        ⟨response.id.getD Session.placeholderId, credentials.email, name, response.token⟩

/-- Removes the stored session, and then the one in memory. -/
def signOut : Operation (Except Error Unit) :=
  exclusive do
    match ← Operation.remove Session.key with
    | .error e => return .error (.storage e)
    | .ok () =>
      match ← Operation.readSession with
      | none => return .ok ()
      | some session =>
        Operation.writeSession none
        Operation.report .info "Signed out" [("email", session.email)]
        return .ok ()

/-- Drops the session in memory if the error of some call says that the server refused the token.
Tells whether there was one. -/
def expireIfUnauthorized (e : ApiError) : Operation Bool :=
  if e.isUnauthorized then guarded dropSession else return false

/-- Who is signed in. -/
def current : Operation (Option Session) :=
  Operation.readSession

/-- Whether anybody is signed in. -/
def isSignedIn : Operation Bool := do
  return (← Operation.readSession).isSome

end SessionKeeper.Manager
