import PushRegistry.Enrolment.Batch
import PushRegistry.Enrolment.Refresh
import PushRegistry.Enrolment.Removal
import PushRegistry.Enrolment.Single
import PushRegistry.Json.Value

/-!
# Orders

What a request asks for, and the work that this is. The strings of a request need not be texts. One
that is no text has content, but it has no form in the store and none in an answer: a request with
such a string goes on until it is first looked up or shown, and there it fails unexpectedly.

## Main definitions

* `Order`, `Order.work`: the work that a request asks for.
* `Posting`, `Posting.order?`: what a request asks for with its strings as they were sent, and the
  order that it is if all of them are texts.
* `Posting.brokenWork`, `Posting.work`: what comes of it otherwise, and in either case.
-/

namespace PushRegistry

/-! ### Orders of texts -/

/-- The work that a request asks for. -/
inductive Order where
  | single (request : SingleRequest)
  | batch (request : BatchRequest)
  | refresh (activationId : Option String)
  | removal (appId : Option Int) (token : Option String)
  deriving DecidableEq, Repr

/-- Carries out an order. -/
def Order.work (oracle : Oracle) (batchesEnabled : Bool) (now : Int) : Order → Work Unit
  | single request => discard (Enrolment.register oracle now request)
  | batch request => discard (Enrolment.registerBatch oracle now batchesEnabled request)
  | refresh activationId => discard (Enrolment.refresh oracle activationId)
  | removal appId token => discard (Enrolment.remove appId token)

/-! ### Orders as they are sent -/

/-- What a request asks for, with its strings as they were sent. -/
inductive Posting where
  | single (appId : Option Int) (token platform activationId : Option JsonString)
  | batch (appId : Option Int) (token platform : Option JsonString)
      (activationIds : Option (List JsonString))
  | refresh (activationId : Option JsonString)
  | removal (appId : Option Int) (token : Option JsonString)
  deriving DecidableEq, Repr

namespace Posting

/-- The order that a request is, if all its strings are texts. -/
def order? : Posting → Option Order
  | single appId token platform activationId => do
    return .single ⟨appId, ← token.mapM JsonString.text?, ← platform.mapM JsonString.text?,
      ← activationId.mapM JsonString.text?⟩
  | batch appId token platform activationIds => do
    let activationIds ← activationIds.mapM (List.mapM JsonString.text?)
    return .batch ⟨appId, ← token.mapM JsonString.text?, ← platform.mapM JsonString.text?,
      activationIds.map (·.map some)⟩
  | refresh activationId => do return .refresh (← activationId.mapM JsonString.text?)
  | removal appId token => do return .removal appId (← token.mapM JsonString.text?)

/-! ### Strings that are no texts -/

open Work

/-- Checks that a string has content. One that is no text has a surrogate in it, which is no
blank. -/
def checkString (value : Option JsonString) (label : String) : Work Unit :=
  match value with
  | some (.broken _) => return ()
  | value => discard (check (Validation.requireText (value.bind JsonString.text?) label))

/-- The platform that a string names. That a string names none is not said of one that cannot be
shown. -/
def checkPlatform (value : Option JsonString) : Work Platform :=
  match value with
  | some (.broken _) => fail (.defect .brokenText)
  | value => check (Validation.requirePlatform (value.bind JsonString.text?))

/-- Checks that strings have content and are different, also from those seen before. -/
def checkDistinct (seen : List JsonString) : List JsonString → Work Unit
  | [] => return ()
  | s :: r => do
    checkString (some s) "Activation ID"
    if s ∈ seen then
      match s with
      | .text s => fail (.app (.repeatedActivation s))
      | .broken _ => fail (.defect .brokenText)
    else checkDistinct (s :: seen) r

/-- The activations of a batch, at least one of them and all different. -/
def checkActivations (values : Option (List JsonString)) : Work (List JsonString) :=
  match values with
  | none => fail (.app .noActivations)
  | some [] => fail (.app .noActivations)
  | some values => do
    checkDistinct [] values
    return values

/-- The texts before the first string that is no text. -/
def leadingTexts : List JsonString → List String
  | .text s :: r => s :: leadingTexts r
  | _ => []

/-- Carries out a request with a string that is no text: the checks come first, then the lookup of
that string fails. In a batch the activations before the first such string are enrolled. -/
def brokenWork (oracle : Oracle) (batchesEnabled : Bool) (now : Int) : Posting → Work Unit
  | single appId token platform activationId => do
    let _ ← check (Validation.requireApplication appId)
    checkString token "Push token"
    let _ ← checkPlatform platform
    checkString activationId "Activation ID"
    fail (.defect .brokenText)
  | batch appId token platform activationIds => do
    if !batchesEnabled then fail (.app .batchesDisabled)
    let appId ← check (Validation.requireApplication appId)
    checkString token "Push token"
    let platform ← checkPlatform platform
    let activationIds ← checkActivations activationIds
    if let some (.text token) := token then
      let _ ← Enrolment.enrolAll oracle now ⟨appId, token, platform⟩ [] (leadingTexts activationIds)
    fail (.defect .brokenText)
  | refresh activationId => do
    checkString activationId "Activation ID"
    fail (.defect .brokenText)
  | removal appId token => do
    let _ ← check (Validation.requireApplication appId)
    checkString token "Push token"
    fail (.defect .brokenText)

/-- Carries out a request. -/
def work (oracle : Oracle) (batchesEnabled : Bool) (now : Int) (posting : Posting) : Work Unit :=
  match posting.order? with
  | some order => order.work oracle batchesEnabled now
  | none => posting.brokenWork oracle batchesEnabled now

end Posting

end PushRegistry
