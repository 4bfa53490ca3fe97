import PushRegistry.Json.Reader
import PushRegistry.Text.Blank
import PushRegistry.Text.Case
import PushRegistry.Web.Framework

/-!
# Bodies of requests

A body is read as JSON if its content type says so; otherwise its text is the value. What a body
without a content type is depends on the framework. A body that is empty has no value.

## Main definitions

* `Body.isJson`, `Framework.takesJson`: whether a content type is one of JSON, and whether a body
  with it, or without any, is to be JSON.
* `BodyContent`, `BodyFault`: what a body holds, or why it cannot be read.
* `Body.ofBytes`: what the bytes of a body hold.
-/

namespace PushRegistry

/-- Why JSON cannot be read: its bytes or its numerals are not in order or it is nested too deep, or
it is malformed, with the fault and how many code points stand before its place. -/
inductive BodyFault where
  | unreadable
  | malformed (kind : Json.FaultKind) (offset : Nat)
  deriving DecidableEq, Repr

/-- What a body holds: nothing, a value, or bytes that are no text. -/
inductive BodyContent where
  | absent
  | value (v : Json)
  | binary
  deriving DecidableEq, Repr

/-- Whether a content type is one of JSON. Its parameters and its case do not matter. -/
def Body.isJson (contentType : String) : Bool :=
  let essence := contentType.toList.takeWhile (· != ';')
  let cs := (Text.trimWith Text.isBlank essence).flatMap Text.lowerOf
  let subtype := cs.drop "application/".length
  "application/".toList.isPrefixOf cs && !subtype.contains '/' &&
    (subtype == "json".toList || "+json".toList.isSuffixOf subtype)

/-- Whether a body is to be JSON. A content type that is empty is none. -/
def Framework.takesJson (framework : Framework) : Option String → Bool
  | none => framework.takesUntyped
  | some contentType =>
    if contentType.isEmpty then framework.takesUntyped else Body.isJson contentType

namespace Body

/-- What bytes hold that are to be JSON, with room for some lists and objects inside one another. -/
def ofJson (room : Nat) (bytes : List UInt8) : Except BodyFault BodyContent :=
  match Text.points? bytes with
  | none => .error .unreadable
  | some points =>
    match Json.read room points with
    | .ok v => .ok (.value v)
    | .error ⟨.numeralTooLong, _⟩ => .error .unreadable
    | .error ⟨.tooDeep, _⟩ => .error .unreadable
    | .error ⟨kind, remaining⟩ => .error (.malformed kind (points.length - remaining))

/-- What bytes hold that are not to be JSON. -/
def ofText (bytes : List UInt8) : BodyContent :=
  match Text.utf8? bytes with
  | some s => .value (.text s)
  | none => .binary

/-- What bytes hold, by their content type if there is one. -/
def ofBytes (framework : Framework) (contentType : Option String) (bytes : List UInt8) :
    Except BodyFault BodyContent :=
  if bytes.isEmpty then .ok .absent
  else if framework.takesJson contentType then ofJson framework.readRoom bytes
  else .ok (ofText bytes)

end Body

end PushRegistry
