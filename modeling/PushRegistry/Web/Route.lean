import PushRegistry.Service.Address

/-!
# Routes

Which endpoint a path and a method lead to. Escapes in the path are resolved once and the query
does not matter. A path that is one of an endpoint but for slashes at its end is redirected.

## Main definitions

* `OrderKind`, `Endpoint`: the endpoints, with `path` and `method`.
* `Route`, `Route.of`: where a path and a method lead to.
-/

namespace PushRegistry

/-- The kinds of orders that the service takes. -/
inductive OrderKind where
  | single
  | batch
  | refresh
  | removal
  deriving DecidableEq, Repr

/-- The endpoints of the service: one for each kind of order, and one that tells that the service
is up. -/
inductive Endpoint where
  | order (kind : OrderKind)
  | health
  deriving DecidableEq, Repr

namespace Endpoint

/-- All endpoints. -/
def all : List Endpoint := [order .single, order .batch, order .refresh, order .removal, health]

/-- The path of an endpoint. -/
def path : Endpoint → String
  | order .single => "/push/device/create"
  | order .batch => "/push/device/create/multi"
  | order .refresh => "/push/device/status/update"
  | order .removal => "/push/device/delete"
  | health => "/health"

/-- The method of an endpoint. -/
def method : Endpoint → String
  | order _ => "POST"
  | health => "GET"

/-- The endpoint with a path. -/
def ofPath? (s : String) : Option Endpoint := all.find? (·.path = s)

end Endpoint

/-- Where a path and a method lead to. -/
inductive Route where
  | found (endpoint : Endpoint)
  | wrongMethod
  | redirect (location : String)
  | unknown
  deriving DecidableEq, Repr

namespace Route

/-- The characters of a query that are not escaped in a redirection. -/
def isLocationChar (c : Char) : Bool :=
  c.isAlphanum || "_.-~:/%#?=@[]!$&'()*+,;".toList.contains c

/-- The path of an address from the root, without escapes and without the steps `.` and `..`. -/
def plainPath (a : Address) : String :=
  let path := Text.percentEncode Address.isPathChar (Address.plainPath a.target.path)
  let path := if path.isEmpty then ['/'] else path
  (Text.utf8? (Text.percentDecode path)).getD (String.ofList path)

/-- Where the path of an address and a method lead to. A redirection stays at the origin, which is
the scheme and the host that the request was sent to. -/
def ofAddress (origin : String) (a : Address) (method : String) : Route :=
  let path := plainPath a
  match Endpoint.ofPath? path with
  | some endpoint => if endpoint.method = method then found endpoint else wrongMethod
  | none =>
    let bare := String.ofList (path.toList.reverse.dropWhile (· = '/')).reverse
    if path.toList.getLast? = some '/' && (Endpoint.ofPath? bare).isSome then
      let query := Text.percentEncode isLocationChar (a.query.getD [])
      let mark := if query.isEmpty then [] else ['?']
      redirect (origin ++ bare ++ String.ofList (mark ++ query))
    else unknown

/-- Where a path with a query and a method lead to. -/
def of (origin path method : String) : Route :=
  match Address.ofText? path with
  | some a => ofAddress origin a method
  | none => unknown

end Route

end PushRegistry
