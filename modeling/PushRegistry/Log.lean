import PushRegistry.Activation
import PushRegistry.Error
import PushRegistry.Json.Display

/-!
# The log

What is recorded for operators while requests are carried out.

## Main definitions

* `LogEntry`: the entries.
* `LogEntry.severity`, `LogEntry.message`: how an entry is shown.
-/

namespace PushRegistry

/-- How much an entry matters. -/
inductive Severity where
  | info
  | warning
  | error
  deriving DecidableEq, Repr

/-- An entry of the log. -/
inductive LogEntry where
  /-- An activation does not exist or is removed, so a registration keeps its binding. -/
  | notBound (activationId : String) (registration : Option Int)
      (status : Option ActivationStatus)
  /-- Rows of which none belongs to an activation made place for a new one. -/
  | ambiguousRemoved (count : Nat) (appId : Int) (activationId : String)
  /-- An activation of a batch was given up. -/
  | activationFailed (activationId : String) (failure : Failure)
  /-- An activation has several rows. -/
  | severalBound (activationId : String) (count : Nat)
  deriving DecidableEq, Repr

namespace LogEntry

/-- How much an entry matters. -/
def severity : LogEntry → Severity
  | notBound .. => .info
  | ambiguousRemoved .. => .info
  | activationFailed .. => .error
  | severalBound .. => .warning

/-- What an entry says of a failure. -/
def failureText : Failure → String
  | .app error => error.message
  | .store fault => fault.name
  | .defect _ => "unexpected failure"

/-- An integer as a text. -/
def integerText (n : Int) : String := String.ofList (Json.writeInt n)

/-- The text of an entry. A registration that has no number yet is shown as a missing value. -/
def message : LogEntry → String
  | notBound activationId registration status =>
    let shown := String.ofList (Json.spelling (registration.elim .null Json.int))
    "Activation " ++ activationId ++ " not bound to registration " ++ shown ++ " (status: " ++
      status.elim "not found" ActivationStatus.name ++ ")"
  | ambiguousRemoved count appId activationId =>
    "Removed " ++ integerText count ++ " ambiguous registrations for app " ++ integerText appId ++
      " before binding activation " ++ activationId
  | activationFailed activationId failure =>
    "Device registration failed for activation " ++ activationId ++ ": " ++ failureText failure
  | severalBound activationId count =>
    "Activation " ++ activationId ++ " is bound to " ++ integerText count ++ " registrations"

end LogEntry

end PushRegistry
