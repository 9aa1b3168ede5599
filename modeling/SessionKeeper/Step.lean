import SessionKeeper.Error
import SessionKeeper.Event
import SessionKeeper.Program.Basic
import SessionKeeper.Session

/-!
# The steps of the client

What the operations of the client ask for, each step being one that others can come before or after:
taking and giving back the guard, looking at and changing the session in memory, one call of the
store, sending a request, and waiting for its answer.
-/

namespace SessionKeeper

/-- One step of an operation of the client. -/
inductive ClientStep
  | acquire
  | release
  | setLoading (busy : Bool)
  | isLoading
  | readSession
  | writeSession (session : Option Session)
  | get (key : String)
  | set (key value : String)
  | remove (key : String)
  | send (request : Http.Request)
  | receive (ticket : Nat)
  | report (event : Event)
  | lastError
  | noteError (error : ApiError)

/-- What a step answers. -/
abbrev ClientStep.Answer : ClientStep → Type
  | .acquire => Unit
  | .release => Unit
  | .setLoading _ => Unit
  | .isLoading => Bool
  | .readSession => Option Session
  | .writeSession _ => Unit
  | .get _ => Except StoreError (Option String)
  | .set _ _ => Except StoreError Unit
  | .remove _ => Except StoreError Unit
  | .send _ => Nat
  | .receive _ => Http.Answer
  | .report _ => Unit
  | .lastError => Option ApiError
  | .noteError _ => Unit

/-- The interface of the client's steps. -/
abbrev clientSteps : Interface :=
  ⟨ClientStep, ClientStep.Answer⟩

/-- An operation of the client. -/
abbrev Operation (α : Type) := Program clientSteps α

namespace Operation

/-- Waits for the guard and takes it. -/
def acquire : Operation Unit := Program.perform (I := clientSteps) .acquire

/-- Gives the guard back. -/
def release : Operation Unit := Program.perform (I := clientSteps) .release

/-- Says whether an operation is under way. -/
def setLoading (busy : Bool) : Operation Unit :=
  Program.perform (I := clientSteps) (.setLoading busy)

/-- Whether an operation is under way. -/
def isLoading : Operation Bool := Program.perform (I := clientSteps) .isLoading

/-- The session in memory. -/
def readSession : Operation (Option Session) := Program.perform (I := clientSteps) .readSession

/-- Changes the session in memory. -/
def writeSession (session : Option Session) : Operation Unit :=
  Program.perform (I := clientSteps) (.writeSession session)

/-- The text under a key of the store. -/
def get (key : String) : Operation (Except StoreError (Option String)) :=
  Program.perform (I := clientSteps) (.get key)

/-- Puts a text under a key of the store. -/
def set (key value : String) : Operation (Except StoreError Unit) :=
  Program.perform (I := clientSteps) (.set key value)

/-- Removes a key of the store. -/
def remove (key : String) : Operation (Except StoreError Unit) :=
  Program.perform (I := clientSteps) (.remove key)

/-- Sends a request. -/
def send (request : Http.Request) : Operation Nat :=
  Program.perform (I := clientSteps) (.send request)

/-- Waits for the answer to a request. -/
def receive (ticket : Nat) : Operation Http.Answer :=
  Program.perform (I := clientSteps) (.receive ticket)

/-- Reports an event. -/
def report (level : Level) (message : String) (fields : List (String × String)) : Operation Unit :=
  Program.perform (I := clientSteps) (.report ⟨level, message, fields⟩)

/-- The latest error of the API that was noted. -/
def lastError : Operation (Option ApiError) := Program.perform (I := clientSteps) .lastError

/-- Notes an error of the API. -/
def noteError (error : ApiError) : Operation Unit :=
  Program.perform (I := clientSteps) (.noteError error)

end Operation

end SessionKeeper
