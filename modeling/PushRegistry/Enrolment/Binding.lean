import PushRegistry.Store.Registrations

/-!
# Binding a registration to an activation

The activation service is asked for the state of an activation. A registration is bound to an
activation that exists and is not removed; otherwise it keeps its binding.

## Main definitions

* `Oracle`: what the activation service answers to whom.
* `Enrolment.ask`: one question to it.
* `Enrolment.bindActivation`: a registration bound as the answer allows.
-/

namespace PushRegistry

/-- What is answered about each activation: a report, that it does not exist, or a failure. -/
abbrev Oracle : Type := String → Except Failure (Option ActivationReport)

namespace Enrolment

open Work

/-- Asks for the state of an activation. -/
def ask (oracle : Oracle) (activationId : String) : Work (Option ActivationReport) := do
  update fun s => { s with asked := s.asked ++ [activationId] }
  read fun _ => oracle activationId

/-- A registration bound to an activation, or as it was if the activation cannot be bound to. -/
def bindActivation (oracle : Oracle) (r : Registration) (activationId : String) :
    Work Registration := do
  match ← ask oracle activationId with
  | some report =>
    if report.status.canBind then return r.bind report
    else
      record (.notBound activationId r.id (some report.status))
      return r
  | none =>
    record (.notBound activationId r.id none)
    return r

end Enrolment

end PushRegistry
