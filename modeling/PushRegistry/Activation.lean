import PushRegistry.Json.Value
import PushRegistry.Text.Quoted

/-!
# Activations

An activation joins a device to a user. Another service knows the state of each activation; what
it answers decides whether a registration may be bound to the activation and whether the
registration is active.

## Main definitions

* `ActivationStatus`: the states, with `isActive` and `canBind`.
* `ActivationReport`: an answer about an activation.
-/

namespace PushRegistry

/-- The state of an activation. -/
inductive ActivationStatus where
  | active
  | inactive
  | removed
  | unknown
  deriving DecidableEq, Repr

namespace ActivationStatus

/-- All states. -/
def all : List ActivationStatus := [active, inactive, removed, unknown]

/-- The name of a state. -/
def name : ActivationStatus → String
  | active => "ACTIVE"
  | inactive => "INACTIVE"
  | removed => "REMOVED"
  | unknown => "UNKNOWN"

/-- The state with exactly this name. -/
def ofName? (s : String) : Option ActivationStatus := all.find? (·.name = s)

/-- The complaint about a text that names no state. -/
def unknownMessage (s : String) : String := Text.quoted s ++ " is not a valid ActivationStatus"

/-- Whether a registration bound to the activation is active. -/
def isActive (s : ActivationStatus) : Bool := s == active

/-- Whether a registration may be bound to the activation. -/
def canBind (s : ActivationStatus) : Bool := s != removed

@[simp] theorem ofName?_name (s : ActivationStatus) : ofName? s.name = some s := by
  cases s <;> decide

end ActivationStatus

/-- What is known about an activation. The user is whatever value was answered. -/
structure ActivationReport where
  activationId : String
  status : ActivationStatus
  userId : Json
  deriving DecidableEq, Repr

end PushRegistry
