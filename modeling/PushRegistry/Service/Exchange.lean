import PushRegistry.Enrolment.Binding
import PushRegistry.Json.Display
import PushRegistry.Json.Reader
import PushRegistry.Service.Address
import PushRegistry.Text.Base64

/-!
# The exchange with the activation service

The service is asked for an activation with one request and answers with a status, headers and
a body. An activation that it does not know does not exist; an activation whose state has no
meaning here is of unknown state.

Requests are sent by a client of the web, which may complain about an answer before it hands it
over. What it complains about, how deep a document may be nested, and which bodies it can show as
text are left open here.

## Main definitions

* `ActivationService`: where the service is and how one presents oneself to it.
* `ServiceRequest`, `ActivationService.request?`: the request about an activation.
* `ServiceResponse`, `Transport`: an answer, and what happens to each request.
* `HttpClient`, `HttpClient.exchange`: the client, and the answer that it hands over.
* `ServiceResponse.report`: what an answer says about an activation.
* `ActivationService.oracle`: the service as an oracle.
-/

namespace PushRegistry

/-! ### Requests -/

/-- Where the activation service is, and the user and password to present. -/
structure ActivationService where
  baseUrl : String
  credentials : Option (String × String)
  deriving DecidableEq, Repr

/-- A request to the activation service. -/
structure ServiceRequest where
  activationId : String
  url : String
  authorization : Option String
  body : List Char
  deriving DecidableEq, Repr

/-- The value of a header that presents a user with a password. -/
def basicAuthorization (user password : String) : String :=
  "Basic " ++ String.ofList (Text.base64 (Text.toUtf8 (user ++ ":" ++ password)))

/-- The kind of content of a request. -/
def ServiceRequest.contentType : String := "application/json"

namespace ActivationService

/-- A text without the slashes at its end. -/
def withoutSlashes (s : String) : String :=
  String.ofList (s.toList.reverse.dropWhile (· = '/')).reverse

/-- The text of the address of status requests. -/
def endpoint (baseUrl : String) : String := withoutSlashes baseUrl ++ "/v3/activation/status"

/-- The body of a request about an activation. -/
def requestBody (activationId : String) : Json :=
  .record [("requestObject", .record [("activationId", .text activationId)])]

/-- The request about an activation; none if the address of the service is not valid. Credentials
of the service's own win over those in its address. -/
def request? (service : ActivationService) (activationId : String) : Option ServiceRequest :=
  (Address.ofText? (endpoint service.baseUrl)).map fun address =>
    let target := address.target
    { activationId
      url := target.text
      authorization := (service.credentials <|> target.credentials?).map fun (user, password) =>
        basicAuthorization user password
      body := Json.write (requestBody activationId) }

end ActivationService

/-! ### Answers -/

/-- An answer of the activation service. The body is its content, of which any compression has been
undone. -/
structure ServiceResponse where
  status : Int
  headers : List (String × String)
  body : List UInt8
  deriving DecidableEq, Repr

/-- The value of a header, whose name is in any case. -/
def ServiceResponse.header? (name : String) (r : ServiceResponse) : Option String :=
  (r.headers.find? fun (key, _) => Text.lower key = name).map Prod.snd

/-- Why a request got no answer. -/
inductive TransportFault where
  | unreachable
  | invalidAddress
  | cookieConflict
  deriving DecidableEq, Repr

/-- The failure that a fault of the transport is. -/
def TransportFault.failure : TransportFault → Failure
  | unreachable => .app .serviceUnreachable
  | invalidAddress => .defect .invalidAddress
  | cookieConflict => .defect .cookieConflict

/-- What happens to the request about each activation. -/
abbrev Transport : Type := String → Except TransportFault ServiceResponse

/-- A client that sends requests and hands answers over. -/
structure HttpClient where
  /-- Why an answer to a request is not handed over, if it is not. -/
  fault? : ServiceRequest → ServiceResponse → Option TransportFault
  /-- How many lists and objects may be inside one another in a document that is read. -/
  room : Nat
  /-- Whether the body of an answer can be shown as text. -/
  showsText : ServiceResponse → Bool

/-- The answer that is handed over. -/
def HttpClient.exchange (client : HttpClient) (transport : Transport) (request : ServiceRequest) :
    Except TransportFault ServiceResponse :=
  match transport request.activationId with
  | .error fault => .error fault
  | .ok r =>
    match client.fault? request r with
    | some fault => .error fault
    | none => .ok r

namespace ServiceResponse

/-- The object that the body of an answer is, with room for some lists and objects inside one
another. -/
def object (room : Nat) (r : ServiceResponse) : Except Failure Json :=
  match Text.points? r.body with
  | none => .error (.app .answerMalformed)
  | some points =>
    match Json.read room points with
    | .ok (.object fields) => .ok (.object fields)
    | .ok _ => .error (.app .answerMalformed)
    | .error ⟨.tooDeep, _⟩ => .error (.defect .documentTooDeep)
    | .error _ => .error (.app .answerMalformed)

/-- The code of an answer about an activation that does not exist. -/
def notFoundCode : String := "ERR_ACTIVATION_NOT_FOUND"

/-- The states that the service names, by the names in upper case. -/
def statusNames : List (String × ActivationStatus) :=
  [("ACTIVE", .active), ("CREATED", .inactive), ("PENDING_COMMIT", .inactive),
    ("BLOCKED", .inactive), ("REMOVED", .removed)]

/-- The state that a value names, in any case; a value without content is an empty name. -/
def statusOf (value : Json) : ActivationStatus :=
  let name := if value.hasContent then Text.upper (String.ofList value.display) else ""
  (statusNames.lookup name).getD .unknown

/-- The value under a name; null if there is none. -/
def fieldOrNull (name : String) (value : Json) : Json := (value.field? name).getD .null

/-- The object inside a body that describes the activation. A value without content counts as an
empty object; any other value that is no object is not provided for. -/
def description (body : Json) : Except Failure Json :=
  match fieldOrNull "responseObject" body with
  | .object fields => .ok (.object fields)
  | value => if value.hasContent then .error (.defect .answerNotObject) else .ok (.object [])

/-- What an answer says about an activation. That the service knows nothing of it under the address
is seen before the body is read. Any other error of the service is noted with the text of the body
before it is passed on. -/
def report (client : HttpClient) (activationId : String) (r : ServiceResponse) :
    Except Failure (Option ActivationReport) :=
  if r.status = 404 then .ok none
  else do
    let body ← r.object client.room
    let inner ← description body
    if 400 ≤ r.status || fieldOrNull "status" body = .text "ERROR" then
      if fieldOrNull "code" inner = .text notFoundCode then return none
      else if client.showsText r then throw (.app (.statusRefused activationId r.status))
      else throw (.defect .answerNotText)
    else
      return some ⟨activationId, statusOf (fieldOrNull "activationStatus" inner),
        fieldOrNull "userId" inner⟩

end ServiceResponse

/-! ### The service as an oracle -/

namespace ActivationService

/-- The answers about activations that come through a client over a transport. -/
def oracle (service : ActivationService) (client : HttpClient) (transport : Transport) :
    Oracle := fun activationId =>
  match service.request? activationId with
  | none => .error (.defect .invalidAddress)
  | some request =>
    match client.exchange transport request with
    | .error fault => .error fault.failure
    | .ok r => r.report client activationId

/-- The requests that questions about activations lead to. -/
def requests (service : ActivationService) (asked : List String) : List ServiceRequest :=
  asked.filterMap service.request?

end ActivationService

end PushRegistry
