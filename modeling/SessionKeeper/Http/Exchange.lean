import SessionKeeper.Http.Header
import SessionKeeper.Url.Basic

/-!
# Requests and answers

A request as it leaves the client, what can come back, and the network that stands between. A
network that cannot be reached fails every request at once; a peer follows a script, one response
for each request, and hangs up when the script is over.
-/

namespace SessionKeeper.Http

/-- The methods that requests use. -/
inductive Method
  | get
  | post
  deriving DecidableEq, Repr

/-- The name of a method. -/
def Method.name : Method → String
  | .get => "GET"
  | .post => "POST"

/-- Whether a request goes to the server itself or to the proxy of the system. -/
inductive Route
  | direct
  | proxy
  deriving DecidableEq, Repr

/-- A request. Every request asks for JSON and is said to hold JSON. -/
structure Request where
  method : Method
  url : Url.HttpUrl
  route : Route
  authorization : Option String
  apiKey : String
  body : Option String
  deriving DecidableEq, Repr

/-- The media type of requests and answers. -/
def mediaType : String := "application/json"

/-- Why no usable answer came back. -/
inductive NetworkFault
  | badUrl (error : Url.UrlError)
  | unreachable (url : Url.HttpUrl)
  | hungUp (url : Url.HttpUrl)
  | timedOut (url : Url.HttpUrl)
  | cutShort
  deriving DecidableEq, Repr

/-- The wording of a request that failed on its way. -/
def sendingMessage (url : Url.HttpUrl) : String :=
  s!"error sending request for url ({url.text})"

/-- The wording of a fault and of what it comes from, outermost first. -/
def NetworkFault.chain : NetworkFault → List String
  | .badUrl (.otherScheme text) =>
    [s!"builder error for url ({String.ofList text})", (Url.UrlError.otherScheme text).message]
  | .badUrl (.unsendable text) =>
    [s!"builder error for url ({String.ofList text})", (Url.UrlError.unsendable text).message]
  | .badUrl e => ["builder error", e.message]
  | .unreachable url =>
    [sendingMessage url, "client error (Connect)", "tcp connect error",
      "Network is unreachable (os error 101)"]
  | .hungUp url =>
    [sendingMessage url, "client error (SendRequest)", "connection closed before message completed"]
  | .timedOut url => [sendingMessage url, "operation timed out"]
  | .cutShort =>
    ["error decoding response body", "request or response body error",
      "error reading a body from connection", "end of file before message length reached"]

/-- The wording of a fault. -/
def NetworkFault.message (f : NetworkFault) : String :=
  f.chain.headD ""

/-- Whether the fault is that no answer came in time. -/
def NetworkFault.isTimeout : NetworkFault → Bool
  | .timedOut _ => true
  | _ => false

/-- What comes back for a request. The body is read after the status and may fail by itself. -/
inductive Answer
  | failed (fault : NetworkFault)
  | received (status : Nat) (body : Except NetworkFault String)

/-- Whether the answer is known as soon as the request is sent. -/
def Answer.isImmediate : Answer → Bool
  | .failed (.unreachable _) => true
  | _ => false

/-- Whether the request got through to a peer. -/
def Answer.hasArrived : Answer → Bool
  | .failed (.unreachable _) => false
  | .failed (.badUrl _) => false
  | _ => true

/-- What a peer does with a request. -/
inductive Response
  | answer (status : Nat) (body : ByteArray) (isComplete : Bool)
  | hangUp
  | silence
  deriving DecidableEq

/-- Statuses whose answers have no body. -/
def hasNoBody (status : Nat) : Bool :=
  status == 204 || status == 304

/-- What a response amounts to for the request it answers. -/
def Response.toAnswer (request : Request) : Response → Answer
  | .answer status body isComplete =>
    if hasNoBody status then .received status (.ok "")
    else if isComplete then .received status (.ok (Text.decodeLossy body))
    else .received status (.error .cutShort)
  | .hangUp => .failed (.hungUp request.url)
  | .silence => .failed (.timedOut request.url)

/-- What stands between the client and the server. -/
inductive Network
  | unreachable
  | peer (script : List Response)
  deriving DecidableEq

/-- Sends a request. -/
def Network.exchange (request : Request) : Network → Answer × Network
  | .unreachable => (.failed (.unreachable request.url), .unreachable)
  | .peer [] => (Response.hangUp.toAnswer request, .peer [])
  | .peer (response :: script) => (response.toAnswer request, .peer script)

end SessionKeeper.Http
