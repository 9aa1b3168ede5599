import SessionKeeper.Manager
import SessionKeeper.Preference
import SessionKeeper.World

/-!
# Calls

The operations of the client as data, so that a history of calls is a list. Each call gives a reply;
one that fails with an error of the API notes it for a later `expire`.
-/

namespace SessionKeeper

/-- A call of the client. -/
inductive Call
  | bootstrap
  | signIn (credentials : Credentials)
  | registerUser (credentials : Credentials) (name : Option String)
  | signOut
  | expire
  | current
  | isSignedIn
  | isLoading
  | login (credentials : Credentials)
  | register (credentials : Credentials)
  | logout
  | isAuthenticated
  | get (path : String)
  | post (path : String) (body : Json.Value)
  | loadMode
  | toggleMode
  | setMode (mode : ColorMode)
  | getKey (key : String)
  | setKey (key value : String)
  | removeKey (key : String)

/-- What a call gives. -/
inductive Reply
  | restored (result : Except Error (Option Session))
  | established (result : Except Error Session)
  | signedOut (result : Except Error Unit)
  | loggedIn (result : Except ApiError LoginResponse)
  | registered (result : Except ApiError RegisterResponse)
  | value (result : Except ApiError Json.Value)
  | session (session : Option Session)
  | flag (answer : Bool)
  | noErrorYet
  | mode (mode : ColorMode)
  | toggled (result : Except StoreError ColorMode)
  | changed (result : Except StoreError Unit)
  | found (result : Except StoreError (Option String))

namespace Reply

/-- The error of the API that an operation of the manager failed with. -/
def managerError? {α : Type} : Except Error α → Option ApiError
  | .ok _ => none
  | .error e => e.api?

/-- The error of the API that a call failed with. -/
def callError? {α : Type} : Except ApiError α → Option ApiError
  | .ok _ => none
  | .error e => some e

/-- The error of the API that a reply holds. -/
def apiError? : Reply → Option ApiError
  | .restored result => managerError? result
  | .established result => managerError? result
  | .signedOut result => managerError? result
  | .loggedIn result => callError? result
  | .registered result => callError? result
  | .value result => callError? result
  | _ => none

end Reply

namespace Call

/-- The value of any JSON document. -/
def parseValue (text : String) : Except Json.Error Json.Value :=
  (Json.readWhole Json.readValue text).map Json.Value.normalized

/-- Hands the latest error of the API to the manager. -/
def expireLast : Operation Reply := do
  match ← Operation.lastError with
  | none => return .noErrorYet
  | some e => return .flag (← Manager.expireIfUnauthorized e)

/-- The operation of a call. -/
def operation (c : ApiClient) : Call → Operation Reply
  | .bootstrap => return .restored (← Manager.bootstrap)
  | .signIn credentials => return .established (← Manager.signIn c credentials)
  | .registerUser credentials name =>
    return .established (← Manager.registerUser c credentials name)
  | .signOut => return .signedOut (← Manager.signOut)
  | .expire => expireLast
  | .current => return .session (← Manager.current)
  | .isSignedIn => return .flag (← Manager.isSignedIn)
  | .isLoading => return .flag (← Operation.isLoading)
  | .login credentials => return .loggedIn (← Auth.login c credentials)
  | .register credentials => return .registered (← Auth.register c credentials)
  | .logout => return .changed (← Auth.logout)
  | .isAuthenticated => return .flag (← Auth.isAuthenticated)
  | .get path => return .value (← c.get path parseValue)
  | .post path body => return .value (← c.post path body.normalized parseValue)
  | .loadMode => return .mode (← Preference.load)
  | .toggleMode => return .toggled (← Preference.toggle)
  | .setMode mode => return .changed (← Preference.set mode)
  | .getKey key => return .found (← Operation.get key)
  | .setKey key value => return .changed (← Operation.set key value)
  | .removeKey key => return .changed (← Operation.remove key)

/-- The operation of a call, which notes the error that it fails with. -/
def noting (c : ApiClient) (call : Call) : Operation Reply := do
  let reply ← call.operation c
  match reply.apiError? with
  | none => return reply
  | some e =>
    Operation.noteError e
    return reply

/-- Makes a call, with no other in between. -/
def run {σ : Type} [Store σ] (c : ApiClient) (call : Call) (w : World σ) : Reply × World σ :=
  (call.noting c).run w.deliver

end Call

end SessionKeeper
