import PushRegistry.Activation
import PushRegistry.Platform

/-!
# Registrations

A registration says that a device with a push token receives the messages of an application. It
may be bound to an activation and through it to a user. The store gives it its number.

## Main definitions

* `Registration`: a registration.
* `Registration.create`: a new one, without number, platform and binding.
* `Registration.touch`, `Registration.bind`: what a request changes.
-/

namespace PushRegistry

/-- A device that receives messages of an application. -/
structure Registration where
  id : Option Int
  appId : Int
  token : String
  platform : Option Platform
  activationId : Option String
  userId : Json
  isActive : Bool
  timestamp : Int
  deriving DecidableEq, Repr

namespace Registration

/-- A registration that the store does not know yet. -/
def create (appId : Int) (token : String) (now : Int) : Registration :=
  ⟨none, appId, token, none, none, .null, false, now⟩

/-- A registration whose device has just been heard of on a platform. -/
def touch (r : Registration) (platform : Platform) (now : Int) : Registration :=
  { r with platform := some platform, timestamp := now }

/-- A registration bound to an activation. The state of the activation decides whether the
registration is active; it is not asked whether it may be bound. -/
def bind (r : Registration) (report : ActivationReport) : Registration :=
  { r with
    activationId := some report.activationId
    userId := report.userId
    isActive := report.status.isActive }

end Registration

end PushRegistry
