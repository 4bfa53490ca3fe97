import PushRegistry.Store.Registrations

/-!
# Finding the registration of a device

A device is matched from the most to the least specific key: by activation and token, by
activation alone (its token was changed), by application and token (the token went to another
activation). The first key that finds anything decides. Under the first two keys there is never
more than one registration in a table that is in order; under the last one there may be several.

## Main definitions

* `Enrolment.lookup`: the registrations under the first key that finds any.
-/

namespace PushRegistry.Enrolment

open Work

/-- The registrations under the first key that finds any; none if no key does. -/
def lookup (appId : Int) (activationId token : String) : Work (List Registration) := do
  match ← findByActivationAndToken activationId token with
  | [] =>
    match ← findByActivation activationId with
    | [] => findByAppAndToken appId token
    | [r] => return [r]
    | rs => fail (.app (.duplicateActivation activationId rs.length))
  | [r] => return [r]
  | rs => fail (.app (.duplicateBinding activationId rs.length))

end PushRegistry.Enrolment
