import PushRegistry.Web.Body
import PushRegistry.Web.Framework
import PushRegistry.Web.Route

/-!
# The web service

A request is answered in steps, of which the first that fails decides the answer: the route, the
text of the body, what the endpoint depends on, the form of the body, and the work itself. An
error of the service is answered with its kind, and all other failures as unexpected.

## Main definitions

* `App`: what the service runs with.
* `WebRequest`, `WebResponse`: requests and answers.
* `Json.shown`, `SchemaError.toJson`: what does not fit, as answers show it.
* `OrderKind.posting`: what a value asks for.
* `App.handle`: the answer to a request.
-/

namespace PushRegistry

/-! ### Requests and answers -/

/-- A request, of which the path may have a query. The origin is the scheme and the host that it
was sent to. -/
structure WebRequest where
  method : String
  origin : String
  path : String
  contentType : Option String
  body : List UInt8
  deriving DecidableEq, Repr

/-- An answer, with or without content. -/
structure WebResponse where
  status : Nat
  content : Option Json
  location : Option String
  deriving DecidableEq, Repr

namespace WebResponse

/-- An answer with content. -/
def json (status : Nat) (content : Json) : WebResponse := ⟨status, some content, none⟩

/-- The answer to a request that was carried out. -/
def success : WebResponse := json 200 (.record [("status", .text "OK")])

/-- An answer that the rules of the web require. -/
def plain (status : Nat) (message : String) : WebResponse :=
  json status (.record [("code", .text "http_error"), ("message", .text message)])

/-- The answer that shows an error. -/
def report (r : ErrorReport) : WebResponse := json r.kind.status r.payload

/-- The answer to a request that failed unexpectedly. -/
def unexpected : WebResponse := report ⟨.infrastructure, "Unexpected server error", none⟩

/-- The answer to a request that failed. -/
def failure : Failure → WebResponse
  | .app error => report error.report
  | .store _ => unexpected
  | .defect _ => unexpected

/-- The error of a body that does not fit. -/
def malformedReport (errors : List Json) : ErrorReport :=
  ⟨.validation, "Malformed request body", some [("errors", .list errors)]⟩

/-- The answer to a body that does not fit. It shows what was found; if that cannot be sent, or
there is no room for it, the request has failed unexpectedly. -/
def malformed (room : Nat) (errors : List Json) : WebResponse :=
  if Json.areSendable errors ∧ Json.itemsDepth errors ≤ room then report (malformedReport errors)
  else unexpected

end WebResponse

/-! ### Showing what does not fit -/

/-- Whether the name of a field marks it as internal. Such fields are left out of what is shown. -/
def JsonString.isInternal : JsonString → Bool
  | text s => "_sa".toList.isPrefixOf s.toList
  | broken points => ("_sa".toList.map Char.toNat).isPrefixOf points

namespace Json

mutual

/-- A value as answers show it. -/
def shown : Json → Json
  | list items => list (shownItems items)
  | object fields => object (shownFields fields)
  | v => v

/-- The items of a list as answers show them. -/
def shownItems : List Json → List Json
  | [] => []
  | v :: r => shown v :: shownItems r

/-- The fields of an object as answers show them. -/
def shownFields : List (JsonString × Json) → List (JsonString × Json)
  | [] => []
  | (k, v) :: r => if k.isInternal then shownFields r else (k, shown v) :: shownFields r

end

end Json

/-- A step on the way to what does not fit. -/
def PathStep.toJson : PathStep → Json
  | field name => .text name
  | item index => .int index

/-- What does not fit, as answers show it. -/
def SchemaError.toJson (e : SchemaError) : Json :=
  .record [("type", .text e.fault.code),
    ("loc", .list (.text "body" :: e.path.map PathStep.toJson)),
    ("msg", .text e.fault.message), ("input", e.input.shown)]

/-- Malformed JSON, as answers show it. -/
def Body.faultJson (kind : Json.FaultKind) (offset : Nat) : Json :=
  .record [("type", .text "json_invalid"), ("loc", .list [.text "body", .int offset]),
    ("msg", .text "JSON decode error"), ("input", .object []),
    ("ctx", .record [("error", .text kind.message)])]

/-! ### Kinds of orders -/

namespace OrderKind

/-- Whether orders of a kind ask the activation service. -/
def usesOracle : OrderKind → Bool
  | removal => false
  | _ => true

/-- What a value asks for as an order of a kind. -/
def posting (framework : Framework) (kind : OrderKind) (value : Json) : Checked Posting :=
  match kind with
  | single => Schema.enveloped (Schema.single framework.numerals) [] value
  | batch => Schema.enveloped (Schema.batch framework.numerals) [] value
  | refresh => Schema.refresh [] value
  | removal => Schema.enveloped (Schema.removal framework.numerals) [] value

end OrderKind

/-! ### The service -/

/-- What the service runs with. The store and the activation service may not be configured. -/
structure App where
  framework : Framework
  table : Table
  storeConfigured : Bool
  oracle : Option Oracle
  batchesEnabled : Bool

namespace App

/-- What handling a request comes to: the answer, the table, and the activations asked about. -/
structure Handled where
  response : WebResponse
  table : Table
  asked : List String

/-- An answer given without any work. -/
def answer (app : App) (response : WebResponse) : Handled := ⟨response, app.table, []⟩

/-- Whether everything is configured that orders of a kind use. -/
def provides (app : App) (kind : OrderKind) : Bool :=
  app.storeConfigured && (!kind.usesOracle || app.oracle.isSome)

/-- The oracle, or one that knows no activation where no order asks it. -/
def oracleOrNone (app : App) : Oracle := app.oracle.getD fun _ => .ok none

/-- Carries out a request. -/
def carryOut (app : App) (now : Int) (posting : Posting) : Handled :=
  let work := posting.work app.oracleOrNone app.batchesEnabled now
  match work.runUnit app.table .none with
  | (.ok _, s) => ⟨.success, s.committed, s.asked⟩
  | (.error failure, s) => ⟨.failure failure, s.committed, s.asked⟩

/-- The answer to a body that does not fit an order. -/
def refuse (app : App) (errors : List Json) : Handled :=
  app.answer (.malformed app.framework.showRoom errors)

/-- The answer to an order of a kind in a body with some content. -/
def handleContent (app : App) (now : Int) (kind : OrderKind) : BodyContent → Handled
  | .absent => app.refuse [SchemaError.toJson ⟨.missing, [], .null⟩]
  | .binary => app.answer .unexpected
  | .value v =>
    match kind.posting app.framework v with
    | .fits posting => app.carryOut now posting
    | .rejected errors => app.refuse (errors.map SchemaError.toJson)

/-- The answer to an order of a kind in a body. JSON that cannot be read is complained about before
anything else. -/
def handleBody (app : App) (now : Int) (kind : OrderKind) (contentType : Option String)
    (body : List UInt8) : Handled :=
  match Body.ofBytes app.framework contentType body with
  | .error .unreadable => app.answer (.plain 400 "There was an error parsing the body")
  | .error (.malformed fault offset) => app.refuse [Body.faultJson fault offset]
  | .ok content =>
    if app.provides kind then app.handleContent now kind content else app.answer .unexpected

/-- What handling a request comes to, whatever part of the answer is wanted. -/
def handleWhole (app : App) (now : Int) (request : WebRequest) : Handled :=
  match Route.of request.origin request.path request.method with
  | .unknown => app.answer (.plain 404 "Not Found")
  | .wrongMethod => app.answer (.plain 405 "Method Not Allowed")
  | .redirect location => app.answer ⟨307, none, some location⟩
  | .found .health => app.answer (.json 200 (.record [("status", .text "ok")]))
  | .found (.order kind) => app.handleBody now kind request.contentType request.body

/-- What handling a request comes to. An answer to a request for the head alone has no content. -/
def handle (app : App) (now : Int) (request : WebRequest) : Handled :=
  let handled := app.handleWhole now request
  if request.method = "HEAD" then
    { handled with response := { handled.response with content := none } }
  else handled

end App

end PushRegistry
