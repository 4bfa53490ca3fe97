import PushRegistry.Enrolment.Binding
import PushRegistry.Enrolment.Lookup
import PushRegistry.Validation

/-!
# Registering a device for several activations

The activations of a batch are taken one after the other, each in a transaction of its own, so
that a failure for one of them leaves the others as they are. A row that the batch has written is
claimed: no later activation of the batch changes or removes it. Where several rows share the
token and none is bound to the activation, those that are not claimed make place for a new one.

## Main definitions

* `BatchRequest`, `BatchRequest.checked`: the request, and the device and activations it names.
* `Enrolment.chooseInBatch`: the registration that an activation of a batch gets.
* `Enrolment.enrolInBatch`, `Enrolment.attemptInBatch`: one activation of a batch.
* `Enrolment.enrolAll`: all of them.
* `Enrolment.registerBatch`: what a request does.
-/

namespace PushRegistry

/-- A request to register a device for several activations. -/
structure BatchRequest where
  appId : Option Int
  token : Option String
  platform : Option String
  activationIds : Option (List (Option String))
  deriving DecidableEq, Repr

/-- The device and the activations of a request that is in order. -/
def BatchRequest.checked (request : BatchRequest) : Except AppError (Device × List String) := do
  let device ← Validation.requireDevice request.appId request.token request.platform
  let activationIds ← Validation.requireActivations request.activationIds
  return (device, activationIds)

/-- What became of an activation of a batch: the number of its registration or why it failed. -/
structure Outcome where
  activationId : String
  result : Except Failure (Option Int)

namespace Outcome

/-- Whether the activation was registered. -/
def succeeded (o : Outcome) : Bool :=
  match o.result with
  | .ok _ => true
  | .error _ => false

/-- The number of the registration, if there is one. -/
def registrationId? (o : Outcome) : Option Int :=
  match o.result with
  | .ok id => id
  | .error _ => none

end Outcome

namespace Enrolment

open Work

/-- Whether a registration has one of the claimed numbers. -/
def isClaimed (claimed : List Int) (r : Registration) : Bool := r.id.any claimed.contains

/-- The registration that an activation of a batch gets: a new one, or the only one that it was
found under if that is not claimed. -/
def chooseInBatch (device : Device) (activationId : String) (now : Int) (claimed : List Int) :
    Work Registration := do
  let new := Registration.create device.appId device.token now
  match ← lookup device.appId activationId device.token with
  | [] => return new
  | [r] => return if isClaimed claimed r then new else r
  | rs =>
    let stale := rs.filter fun r => !isClaimed claimed r
    if !stale.isEmpty then
      let removed ← deleteAll stale
      record (.ambiguousRemoved removed device.appId activationId)
    return new

/-- Registers a device for one activation of a batch. The registration moves to the application
of the device. -/
def enrolInBatch (oracle : Oracle) (now : Int) (device : Device) (claimed : List Int)
    (activationId : String) : Work Registration := do
  let chosen ← chooseInBatch device activationId now claimed
  let current := { chosen with appId := device.appId, token := device.token }
  let bound ← bindActivation oracle (current.touch device.platform now) activationId
  let saved ← save bound
  commit
  return saved

/-- Registers a device for one activation of a batch. If the service refuses it or the store
fails, what was done for it is taken back and the batch goes on; a defect ends the batch. -/
def attemptInBatch (oracle : Oracle) (now : Int) (device : Device) (claimed : List Int)
    (activationId : String) : Work Outcome := do
  match ← outcome (enrolInBatch oracle now device claimed activationId) with
  | .ok saved => return ⟨activationId, .ok saved.id⟩
  | .error (.defect d) => fail (.defect d)
  | .error failure =>
    rollback
    record (.activationFailed activationId failure)
    return ⟨activationId, .error failure⟩

/-- Registers a device for the activations of a batch, with the numbers claimed before them. -/
def enrolAll (oracle : Oracle) (now : Int) (device : Device) (claimed : List Int) :
    List String → Work (List Outcome)
  | [] => return []
  | activationId :: r => do
    let o ← attemptInBatch oracle now device claimed activationId
    let os ← enrolAll oracle now device (o.registrationId?.toList ++ claimed) r
    return o :: os

/-- The activations that failed. -/
def failedActivations (os : List Outcome) : List String :=
  (os.filter (!·.succeeded)).map Outcome.activationId

/-- Carries out a request to register a device for several activations. That batches are enabled
is checked before the request is. -/
def registerBatch (oracle : Oracle) (now : Int) (enabled : Bool) (request : BatchRequest) :
    Work (List Outcome) := do
  if !enabled then fail (.app .batchesDisabled)
  let (device, activationIds) ← check request.checked
  let os ← enrolAll oracle now device [] activationIds
  let failed := failedActivations os
  if failed.isEmpty then return os else fail (.app (.batchFailed failed))

end Enrolment

end PushRegistry
