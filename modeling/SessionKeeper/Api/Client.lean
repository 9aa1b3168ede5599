import SessionKeeper.Settings
import SessionKeeper.Step

/-!
# The API client

Requests to the server of the settings. A request carries the token of the stored session if there
is one that can be sent. An answer without success becomes an error; a 401 removes the stored
session before the error is handed on.
-/

namespace SessionKeeper

/-- What requests are made with. -/
structure ApiClient where
  baseUrl : String
  apiKey : String
  route : Http.Route
  deriving DecidableEq, Repr

/-- Why there is no client for some settings. -/
inductive ClientError
  | invalidKey
  deriving DecidableEq, Repr

/-- The wording of the error and of what it comes from, outermost first. -/
def ClientError.chain : ClientError → List String
  | .invalidKey => ["API key is not a valid header value", "failed to parse header value"]

namespace ApiClient

/-- A text without the slashes at its end. -/
def dropTrailingSlashes (s : String) : String :=
  String.ofList (s.toList.reverse.dropWhile fun c => c == '/').reverse

/-- A text without the slashes in front. -/
def dropLeadingSlashes (s : String) : String :=
  String.ofList (s.toList.dropWhile fun c => c == '/')

/-- The client for a server. The own machine is reached without a proxy. -/
def new (settings : Settings) : Except ClientError ApiClient :=
  if Http.isHeaderValue settings.apiKey then
    .ok
      { baseUrl := dropTrailingSlashes settings.baseUrl
        apiKey := settings.apiKey
        route := if Url.isLoopback settings.baseUrl then .direct else .proxy }
  else .error .invalidKey

/-- The text of the URL of a path. -/
def urlText (c : ApiClient) (path : String) : String :=
  c.baseUrl ++ "/" ++ dropLeadingSlashes path

/-- Warns that no token can be sent. -/
def withoutToken (message : String) (fields : List (String × String)) :
    Operation (Option String) := do
  Operation.report .warn message fields
  return none

/-- The authorization of a stored text. -/
def authorizationOf (stored : String) : Operation (Option String) :=
  match storedToken stored with
  | .error e =>
    withoutToken "Stored session is not valid JSON, sending request without token"
      [("error", e.message)]
  | .ok none => return none
  | .ok (some token) =>
    if token = "" then return none
    else if Http.isHeaderValue (Http.bearer token) then return some (Http.bearer token)
    else withoutToken "Stored token is not a valid header value" []

/-- The authorization that the stored session gives. -/
def authorization : Operation (Option String) := do
  match ← Operation.get Session.key with
  | .error e =>
    withoutToken "Could not read session, sending request without token" [("error", e.message)]
  | .ok none => return none
  | .ok (some stored) => authorizationOf stored

/-- The user and password of a URL, as they are sent. -/
def urlAuthorization (url : Url.HttpUrl) : Option String :=
  match Text.decode ⟨(Url.decodePercent url.authority.user).toArray⟩ with
  | none => none
  | some user =>
    let password? := url.authority.password.bind fun cs =>
      Text.decode ⟨(Url.decodePercent cs).toArray⟩
    if user = "" ∧ password? = none then none
    else some (Http.basic user (password?.getD ""))

/-- The request for a URL. The stored token goes before a user in the URL. -/
def request (c : ApiClient) (method : Http.Method) (url : Url.HttpUrl) (token : Option String)
    (body : Option String) : Http.Request :=
  match urlAuthorization url with
  | none => ⟨method, url, c.route, token, c.apiKey, body⟩
  | some value => ⟨method, url.withoutUser, c.route, some (token.getD value), c.apiKey, body⟩

/-- Whether a status is a success. -/
def isSuccess (status : Nat) : Bool :=
  200 ≤ status && status < 300

/-- The status of an answer by which the server refuses the token. -/
def unauthorized : Nat := 401

/-- Removes the stored session. -/
def forgetSession (url : String) : Operation Unit := do
  Operation.report .debug "Unauthorized response, clearing stored session" [("url", url)]
  match ← Operation.remove Session.key with
  | .ok () => return ()
  | .error e => Operation.report .warn "Failed to clear session after 401" [("error", e.message)]

/-- Handles an answer without success. -/
def refuse {α : Type} (url : String) (status : Nat) (body : String) :
    Operation (Except ApiError α) := do
  if status = unauthorized then forgetSession url
  return .error (.ofStatus status body)

/-- The value of the body of a success. -/
def decodeBody {α : Type} (parse : String → Except Json.Error α) (url : String) :
    Except Http.NetworkFault String → Except ApiError α
  | .error fault => .error (.network fault)
  | .ok text =>
    match parse text with
    | .ok a => .ok a
    | .error e =>
      .error (.invalidResponse s!"Failed to parse JSON response from {url}: {e.message}")

/-- The text of a body, or none if it could not be read. -/
def bodyText : Except Http.NetworkFault String → String
  | .ok text => text
  | .error _ => ""

/-- Handles an answer. -/
def handle {α : Type} (parse : String → Except Json.Error α) (url : String) :
    Http.Answer → Operation (Except ApiError α)
  | .failed fault => return .error (.network fault)
  | .received status body =>
    if isSuccess status then return decodeBody parse url body
    else refuse url status (bodyText body)

/-- Sends a request and handles its answer. -/
def call {α : Type} (c : ApiClient) (method : Http.Method) (path : String) (body : Option String)
    (parse : String → Except Json.Error α) : Operation (Except ApiError α) := do
  let url := c.urlText path
  Operation.report .debug method.name [("url", url)]
  let token ← authorization
  match Url.parse url with
  | .error e => return .error (.network (.badUrl e))
  | .ok target =>
    let request := c.request method target token body
    if request.url.isSendable then
      let ticket ← Operation.send request
      let answer ← Operation.receive ticket
      handle parse url answer
    else return .error (.network (.badUrl (.unsendable request.url.write)))

/-- Asks for a value. -/
def get {α : Type} (c : ApiClient) (path : String) (parse : String → Except Json.Error α) :
    Operation (Except ApiError α) :=
  c.call .get path none parse

/-- Sends a document and asks for a value. -/
def post {α : Type} (c : ApiClient) (path : String) (body : Json.Value)
    (parse : String → Except Json.Error α) : Operation (Except ApiError α) :=
  c.call .post path (some body.compact) parse

end ApiClient

end SessionKeeper
