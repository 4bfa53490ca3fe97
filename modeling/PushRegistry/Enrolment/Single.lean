import PushRegistry.Enrolment.Binding
import PushRegistry.Enrolment.Lookup
import PushRegistry.Validation

/-!
# Registering a device for one activation

A device that is not found gets a new registration, one that is found once has its registration
changed in place. If several registrations share the token the request is refused.

## Main definitions

* `SingleRequest`, `SingleRequest.checked`: the request, and the device and activation it names.
* `Enrolment.enrol`: a device registered for an activation.
* `Enrolment.register`: what a request does.
-/

namespace PushRegistry

/-- A request to register a device for one activation. -/
structure SingleRequest where
  appId : Option Int
  token : Option String
  platform : Option String
  activationId : Option String
  deriving DecidableEq, Repr

/-- The device and the activation of a request that is in order. -/
def SingleRequest.checked (request : SingleRequest) : Except AppError (Device × String) := do
  let device ← Validation.requireDevice request.appId request.token request.platform
  let activationId ← Validation.requireText request.activationId "Activation ID"
  return (device, activationId)

namespace Enrolment

open Work

/-- The registration that a device gets: a new one, or the only one that it was found under. -/
def chooseSingle (device : Device) (activationId : String) (now : Int) : Work Registration := do
  match ← lookup device.appId activationId device.token with
  | [] => return .create device.appId device.token now
  | [r] => return r
  | rs => fail (.app (.ambiguousToken device.appId rs.length))

/-- Registers a device for one activation. A registration that was found keeps its application. -/
def enrol (oracle : Oracle) (now : Int) (device : Device) (activationId : String) :
    Work Registration := do
  let chosen ← chooseSingle device activationId now
  let current := { chosen with token := device.token }.touch device.platform now
  let bound ← bindActivation oracle current activationId
  let saved ← save bound
  commit
  return saved

/-- Carries out a request to register a device for one activation. -/
def register (oracle : Oracle) (now : Int) (request : SingleRequest) : Work Registration := do
  let (device, activationId) ← check request.checked
  enrol oracle now device activationId

end Enrolment

end PushRegistry
