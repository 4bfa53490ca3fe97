import PushRegistry.Store.Registrations
import PushRegistry.Validation

/-!
# Removing a device

All registrations of an application with a push token are removed together.

## Main definitions

* `Enrolment.remove`: what a request does.
-/

namespace PushRegistry.Enrolment

open Work

/-- Removes the registrations of an application with a token and gives their count. -/
def removeToken (appId : Int) (token : String) : Work Nat := do
  let rs ← findByAppAndToken appId token
  if rs.isEmpty then return 0
  else
    let removed ← deleteAll rs
    commit
    return removed

/-- Carries out a request to remove a device. -/
def remove (appId : Option Int) (token : Option String) : Work Nat := do
  let appId ← check (Validation.requireApplication appId)
  let token ← check (Validation.requireText token "Push token")
  removeToken appId token

end PushRegistry.Enrolment
