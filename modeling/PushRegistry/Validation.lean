import PushRegistry.Error
import PushRegistry.Text.Blank
import PushRegistry.Text.Case

/-!
# Validation

The checks on the fields of a request, each of which hands on the value that the request is
carried out with.

## Main definitions

* `Validation.requireApplication`, `Validation.requireText`: fields that must be there.
* `Validation.platformNamed?`, `Validation.requirePlatform`: a platform in any case, with blanks
  around it.
* `Validation.requireActivations`: a list of different activations.
* `Device`, `Validation.requireDevice`: what every registration of a device needs.
-/

namespace PushRegistry

/-- A device of an application, as a checked request names it. -/
structure Device where
  appId : Int
  token : String
  platform : Platform
  deriving DecidableEq, Repr

namespace Validation

/-- The number of an application. -/
def requireApplication (appId : Option Int) : Except AppError Int :=
  match appId with
  | some n => .ok n
  | none => .error .missingApplication

/-- A text with content; the label names the field in the message. -/
def requireText (value : Option String) (label : String) : Except AppError String :=
  match value with
  | some s => if Text.AllBlank s then .error (.blankText label) else .ok s
  | none => .error (.blankText label)

/-- The platform that a text names, whatever its case and the blanks around it. -/
def platformNamed? (s : String) : Option Platform :=
  Platform.ofName? (Text.lower (Text.trim s))

/-- A platform. -/
def requirePlatform (value : Option String) : Except AppError Platform := do
  let raw ← requireText value "Platform"
  match platformNamed? raw with
  | some platform => .ok platform
  | none => .error (.unsupportedPlatform raw)

/-- A device; of several fields that are not in order the first one is complained about. -/
def requireDevice (appId : Option Int) (token platform : Option String) :
    Except AppError Device := do
  let appId ← requireApplication appId
  let token ← requireText token "Push token"
  let platform ← requirePlatform platform
  return ⟨appId, token, platform⟩

/-- The texts of some activations, each with content and different from all before it; `seen` are
those before the first. -/
def requireDistinct (seen : List String) : List (Option String) → Except AppError (List String)
  | [] => .ok []
  | value :: r => do
    let s ← requireText value "Activation ID"
    if s ∈ seen then .error (.repeatedActivation s)
    else return s :: (← requireDistinct (s :: seen) r)

/-- At least one activation, all with content and different. -/
def requireActivations (values : Option (List (Option String))) :
    Except AppError (List String) :=
  match values with
  | none => .error .noActivations
  | some [] => .error .noActivations
  | some values => requireDistinct [] values

end Validation

end PushRegistry
