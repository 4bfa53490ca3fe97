import PushRegistry.Json.Value
import PushRegistry.Platform

/-!
# Errors

Three kinds of failure are kept apart. The service refuses a request with an `AppError`, which
has a kind, a message and details that a client sees. The store fails with a `StoreFault`; most of
these become errors of the service where they arise. All else is a defect that no step of a
request makes up for.

## Main definitions

* `ErrorKind`: the kinds of errors that clients see, with `code`, `status` and `lineage`.
* `ErrorReport`: what a client sees of an error; `ErrorReport.payload` is its body.
* `AppError`: the causes, and `AppError.report`.
* `StoreFault`, `Defect`, `Failure`: the other failures, and all of them together.

## Main results

* `bind_eq_ok_iff`, `bind_eq_error_iff`: what steps that may fail come to one after the other.
-/

namespace PushRegistry

/-! ### What a client sees -/

/-- The kinds of errors that clients see. -/
inductive ErrorKind where
  | general
  | validation
  | featureDisabled
  | conflict
  | ambiguousRegistration
  | consistencyViolation
  | registrationFailed
  | infrastructure
  deriving DecidableEq, Repr

namespace ErrorKind

/-- The word by which clients tell the kinds apart. -/
def code : ErrorKind → String
  | general => "app_error"
  | validation => "validation_error"
  | featureDisabled => "feature_disabled"
  | conflict => "conflict"
  | ambiguousRegistration => "ambiguous_registration"
  | consistencyViolation => "consistency_violation"
  | registrationFailed => "registration_failed"
  | infrastructure => "infrastructure_error"

/-- The status of an answer with an error of this kind. -/
def status : ErrorKind → Nat
  | general => 400
  | validation => 422
  | featureDisabled => 400
  | conflict => 409
  | ambiguousRegistration => 409
  | consistencyViolation => 500
  | registrationFailed => 500
  | infrastructure => 500

/-- The kinds that a kind belongs to, from itself to the general one. -/
def lineage : ErrorKind → List ErrorKind
  | general => [general]
  | ambiguousRegistration => [ambiguousRegistration, conflict, general]
  | kind => [kind, general]

end ErrorKind

/-- What a client sees of an error. -/
structure ErrorReport where
  kind : ErrorKind
  message : String
  details : Option (List (String × Json))
  deriving DecidableEq, Repr

/-- The body of an answer: the details stand in it only if there are any. -/
def ErrorReport.payload (r : ErrorReport) : Json :=
  .record ([("code", .text r.kind.code), ("message", .text r.message)] ++
    match r.details with
    | some fields => [("details", .record fields)]
    | none => [])

/-! ### Causes -/

/-- Why the service refuses a request. -/
inductive AppError where
  | missingApplication
  | blankText (label : String)
  | unsupportedPlatform (raw : String)
  | noActivations
  | repeatedActivation (activationId : String)
  | batchesDisabled
  | duplicateBinding (activationId : String) (count : Nat)
  | duplicateActivation (activationId : String) (count : Nat)
  | ambiguousToken (appId : Int) (count : Nat)
  | batchFailed (activationIds : List String)
  | removedConcurrently (id : Int)
  | bindingTaken (activationId : Option String)
  | lookupFailed
  | saveFailed (id : Option Int)
  | deletionFailed
  | serviceUnreachable
  | answerMalformed
  | statusRefused (activationId : String) (status : Int)
  deriving DecidableEq, Repr

namespace AppError

/-- What an operator should do about duplicate rows. -/
def repairAdvice : String :=
  " Delete the duplicate rows and make sure the database indexes have been applied on the " ++
    "push_device_registration table."

/-- What a client sees of an error. -/
def report : AppError → ErrorReport
  | missingApplication => ⟨.validation, "Application ID must not be null", none⟩
  | blankText label => ⟨.validation, label ++ " must not be null or empty", none⟩
  | unsupportedPlatform raw =>
    ⟨.validation, "Unsupported platform '" ++ raw ++ "'",
      some [("allowed", .text (", ".intercalate (Platform.all.map Platform.name)))]⟩
  | noActivations => ⟨.validation, "Activation IDs must not be null or empty", none⟩
  | repeatedActivation activationId =>
    ⟨.validation, "Activation IDs must be unique", some [("activation_id", .text activationId)]⟩
  | batchesDisabled =>
    ⟨.featureDisabled,
      "Registration of multiple associated activations per device is not enabled.", none⟩
  | duplicateBinding activationId count =>
    ⟨.consistencyViolation,
      "Multiple device registrations found during lookup by activation ID and push token." ++
        repairAdvice,
      some [("activation_id", .text activationId), ("count", .int count)]⟩
  | duplicateActivation activationId count =>
    ⟨.consistencyViolation,
      "Multiple device registrations found during lookup by activation ID." ++ repairAdvice,
      some [("activation_id", .text activationId), ("count", .int count)]⟩
  | ambiguousToken appId count =>
    ⟨.ambiguousRegistration,
      "Multiple device registrations found for push token. Use the /push/device/create/multi " ++
        "endpoint for this scenario.",
      some [("app_id", .int appId), ("count", .int count)]⟩
  | batchFailed activationIds =>
    ⟨.registrationFailed, "Device registration failed",
      some [("failed_activation_ids", .list (activationIds.map Json.text))]⟩
  | removedConcurrently id =>
    ⟨.conflict, "Device registration was removed concurrently",
      some [("registration_id", .int id)]⟩
  | bindingTaken activationId =>
    ⟨.consistencyViolation,
      "Device registration violates the uniqueness of activation ID and push token",
      some [("activation_id", activationId.elim .null Json.text)]⟩
  | lookupFailed => ⟨.infrastructure, "Device registration lookup failed", none⟩
  | saveFailed id =>
    ⟨.infrastructure, "Device registration could not be saved",
      some [("registration_id", id.elim .null Json.int)]⟩
  | deletionFailed => ⟨.infrastructure, "Device registrations could not be deleted", none⟩
  | serviceUnreachable => ⟨.infrastructure, "Activation service is unreachable", none⟩
  | answerMalformed =>
    ⟨.infrastructure, "Activation service returned a malformed response", none⟩
  | statusRefused activationId status =>
    ⟨.infrastructure, "Activation status lookup failed",
      some [("activation_id", .text activationId), ("status_code", .int status)]⟩

/-- The message of an error. -/
def message (e : AppError) : String := e.report.message

end AppError

/-! ### Failures -/

/-- A fault of the store. -/
inductive StoreFault where
  /-- A call did not get through. -/
  | operational
  /-- A write broke a rule of the table. -/
  | integrity
  /-- A transaction was used after a failed write and before it was rolled back. -/
  | rollbackPending
  /-- A value has no form in the table. -/
  | unbindable
  deriving DecidableEq, Repr

/-- The name of a fault in log entries. -/
def StoreFault.name : StoreFault → String
  | operational => "OperationalError"
  | integrity => "IntegrityError"
  | rollbackPending => "PendingRollbackError"
  | unbindable => "ProgrammingError"

/-- A condition that the service does not provide for. -/
inductive Defect where
  /-- An integer has no form in the store. -/
  | integerRange
  /-- A string that is no text has no form in the store. -/
  | brokenText
  /-- A row names a platform that there is not. -/
  | unknownPlatform (name : String)
  /-- The activation service answered with something else than an object. -/
  | answerNotObject
  /-- The activation service answered with a document that is nested too deep to be read. -/
  | documentTooDeep
  /-- The activation service answered with an error that cannot be shown as text. -/
  | answerNotText
  /-- The address of the activation service is not valid. -/
  | invalidAddress
  /-- The activation service answered with clashing cookies. -/
  | cookieConflict
  deriving DecidableEq, Repr

/-- Why a step of a request ended early. -/
inductive Failure where
  | app (error : AppError)
  | store (fault : StoreFault)
  | defect (defect : Defect)
  deriving DecidableEq, Repr

/-! ### Steps that may fail -/

section Steps

variable {ε ε' α β : Type} {x : Except ε α} {f : α → Except ε β} {a : α} {b : β} {e : ε}

/-- A step and the next one come to a value if both do. -/
theorem bind_eq_ok_iff : x >>= f = .ok b ↔ ∃ a, x = .ok a ∧ f a = .ok b := by
  cases x <;> simp [bind, Except.bind]

/-- A step and the next one fail if the first does, or the next one after it. -/
theorem bind_eq_error_iff :
    x >>= f = .error e ↔ x = .error e ∨ ∃ a, x = .ok a ∧ f a = .error e := by
  cases x <;> simp [bind, Except.bind]

theorem map_eq_ok_iff {g : α → β} : x.map g = .ok b ↔ ∃ a, x = .ok a ∧ g a = b := by
  cases x <;> simp [Except.map]

theorem map_eq_error_iff {g : α → β} : x.map g = .error e ↔ x = .error e := by
  cases x <;> simp [Except.map]

theorem mapError_eq_ok_iff {g : ε → ε'} : x.mapError g = .ok a ↔ x = .ok a := by
  cases x with
  | error e => exact iff_of_false (by rintro ⟨⟩) nofun
  | ok a' =>
    constructor
    all_goals
      rintro ⟨⟩
      rfl

theorem mapError_eq_error_iff {g : ε → ε'} {e' : ε'} :
    x.mapError g = .error e' ↔ ∃ e, x = .error e ∧ g e = e' := by
  cases x with
  | error e =>
    constructor
    · exact fun h => ⟨e, rfl, Except.error.inj h⟩
    · rintro ⟨_, ⟨⟩, rfl⟩
      rfl
  | ok a => exact iff_of_false (by rintro ⟨⟩) (by rintro ⟨_, ⟨⟩, -⟩)

end Steps

end PushRegistry
