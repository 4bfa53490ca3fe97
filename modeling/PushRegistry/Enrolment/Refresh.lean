import PushRegistry.Enrolment.Binding
import PushRegistry.Validation

/-!
# Refreshing the state of an activation

When the state of an activation has changed, all its registrations become active or inactive.

## Main definitions

* `Enrolment.setActive`: registrations made active or inactive and saved.
* `Enrolment.refresh`: what a request does.
-/

namespace PushRegistry.Enrolment

open Work

/-- Saves registrations as active or inactive; nothing else in them changes. -/
def setActive (isActive : Bool) : List Registration → Work Unit
  | [] => return ()
  | r :: rs => do
    let _ ← save { r with isActive := isActive }
    setActive isActive rs

/-- Makes all registrations of an activation active or inactive, as the activation is, and gives
their count. An activation that does not exist counts as inactive, and one without registrations
is not asked about. -/
def refreshActivation (oracle : Oracle) (activationId : String) : Work Nat := do
  let rs ← findByActivation activationId
  if rs.isEmpty then return 0
  else
    if 1 < rs.length then record (.severalBound activationId rs.length)
    let report ← ask oracle activationId
    setActive (report.any (·.status.isActive)) rs
    commit
    return rs.length

/-- Carries out a request to refresh the state of an activation. -/
def refresh (oracle : Oracle) (activationId : Option String) : Work Nat := do
  let activationId ← check (Validation.requireText activationId "Activation ID")
  refreshActivation oracle activationId

end PushRegistry.Enrolment
