import PushRegistry.Proofs.Enrolment.Attempts
import PushRegistry.Proofs.Enrolment.Upkeep
import PushRegistry.Proofs.Store.Silence
import PushRegistry.Web.Order

/-!
# What orders do

An order other than a batch does one thing to a healthy table in one transaction, and keeps it
healthy. A batch that is not enabled is such an order as well, one that is always refused. Requests
that are not in order are refused with an error of validation. A request with a string that is no
text is no order, and it always fails.

## Main definitions

* `Table.carriedOut`: what an order does to a healthy table where batches are not enabled.
* `Work.Fails`: work that fails on every session.

## Main results

* `Order.settles_work`: it is what the work of the order does.
* `Table.Healthy.carriedOut`: it leaves a healthy table.
* `Table.explains_of_carriedOut`: it finds no duplicates.
* `Posting.runUnit_of_broken`: what comes of a request with a string that is no text.
-/

namespace PushRegistry

/-! ### Requests that are not in order -/

namespace Validation

/-- Whether all errors of a check are errors of validation. -/
def Validates {α : Type} (check : Except AppError α) : Prop :=
  ∀ e, check = .error e → e.report.kind = .validation

variable {α β : Type}

theorem validates_ok (a : α) : Validates (.ok a) := by
  intro e h
  cases h

theorem validates_error {e : AppError} (h : e.report.kind = .validation) :
    Validates (.error e : Except AppError α) := by
  rintro _ ⟨⟩
  exact h

theorem Validates.bind {check : Except AppError α} {next : α → Except AppError β}
    (hcheck : Validates check) (hnext : ∀ a, Validates (next a)) : Validates (check >>= next) := by
  cases check with
  | error e =>
    rintro _ ⟨⟩
    exact hcheck e rfl
  | ok a => exact hnext a

theorem validates_requireApplication (appId : Option Int) :
    Validates (requireApplication appId) := by
  cases appId with
  | none => exact validates_error rfl
  | some n => exact validates_ok n

theorem validates_requireText (value : Option String) (label : String) :
    Validates (requireText value label) := by
  cases value with
  | none => exact validates_error rfl
  | some s =>
    rw [requireText]
    split
    · exact validates_error rfl
    · exact validates_ok s

theorem validates_requirePlatform (value : Option String) : Validates (requirePlatform value) := by
  refine (validates_requireText value "Platform").bind fun raw => ?_
  split
  · exact validates_ok _
  · exact validates_error rfl

theorem validates_requireDevice (appId : Option Int) (token platform : Option String) :
    Validates (requireDevice appId token platform) :=
  (validates_requireApplication appId).bind fun _ =>
    (validates_requireText token "Push token").bind fun _ =>
      (validates_requirePlatform platform).bind fun _ => validates_ok _

theorem validates_requireDistinct (seen : List String) (values : List (Option String)) :
    Validates (requireDistinct seen values) := by
  induction values generalizing seen with
  | nil => exact validates_ok []
  | cons value rest ih =>
    refine (validates_requireText value "Activation ID").bind fun s => ?_
    split
    · exact validates_error rfl
    · exact (ih (s :: seen)).bind fun _ => validates_ok _

theorem validates_requireActivations (values : Option (List (Option String))) :
    Validates (requireActivations values) := by
  match values with
  | none => exact validates_error rfl
  | some [] => exact validates_error rfl
  | some (value :: rest) => exact validates_requireDistinct [] (value :: rest)

end Validation

open Validation

theorem SingleRequest.validates_checked (request : SingleRequest) : Validates request.checked :=
  (validates_requireDevice request.appId request.token request.platform).bind fun _ =>
    (validates_requireText request.activationId "Activation ID").bind fun _ => validates_ok _

theorem BatchRequest.validates_checked (request : BatchRequest) : Validates request.checked :=
  (validates_requireDevice request.appId request.token request.platform).bind fun _ =>
    (validates_requireActivations request.activationIds).bind fun _ => validates_ok _

theorem Oracle.explains_of_validates {α : Type} {oracle : Oracle} {check : Except AppError α}
    (h : Validates check) {e : AppError} (hcheck : check = .error e) :
    oracle.Explains (.app e) := by
  have hkind := h e hcheck
  intro hduplicate
  cases hduplicate <;> cases hkind

/-! ### Orders on a table -/

namespace Table

/-- What an order does to a healthy table where batches are not enabled. -/
def carriedOut (t : Table) (oracle : Oracle) (now : Int) : Order → Except Failure Table
  | .single request =>
    Except.map Prod.snd do
      let (device, activationId) ← request.checked.mapError Failure.app
      t.registered oracle now device activationId
  | .batch _ => .error (.app .batchesDisabled)
  | .refresh activationId =>
    Except.map Prod.snd do
      let activationId ← (requireText activationId "Activation ID").mapError Failure.app
      t.refreshed oracle activationId
  | .removal appId token =>
    Except.map Prod.snd do
      let appId ← (requireApplication appId).mapError Failure.app
      let token ← (requireText token "Push token").mapError Failure.app
      return t.removed appId token

end Table

namespace Work

variable {α β : Type} {t : Table}

theorem discard_apply (work : Work α) (s : Session) :
    (discard work : Work Unit) s = ((work s).1.map fun _ => (), (work s).2) := by
  change (work >>= fun _ => pure ()) s = _
  rw [bind_apply]
  rcases work s with ⟨_ | _, _⟩ <;> rfl

theorem Settles.discard {work : Work α} {r : Except Failure (α × Table)} (h : work.Settles t r) :
    (discard work : Work Unit).Settles t ((r.map Prod.snd).map fun t' => ((), t')) := by
  refine settles_of_closes fun s hs ht => ?_
  have hclose := h.closes hs ht
  rw [discard_apply]
  generalize work s = run at hclose
  cases hclose with
  | value hcontinues honce hs' hr => exact .value hcontinues honce hs' (by rw [hr]; rfl)
  | failure hcontinues honce hcommitted hr =>
    exact .failure hcontinues honce hcommitted (hr.imp_left fun hr => by rw [hr]; rfl)

/-- Whether work ends its transaction with a result, unless a number is out of range. -/
def SettlesInRange (work : Work α) (t : Table) (r : Except Failure (α × Table)) : Prop :=
  work.Settles t r ∨ work.Settles t (.error (.defect .integerRange))

theorem SettlesInRange.discard {work : Work α} {r : Except Failure (α × Table)}
    (h : work.SettlesInRange t r) :
    (discard work : Work Unit).SettlesInRange t ((r.map Prod.snd).map fun t' => ((), t')) :=
  h.imp Settles.discard Settles.discard

/-- Work after a check does nothing if the check fails. -/
theorem settlesInRange_check {check : Except AppError α} {next : α → Work β}
    {k : α → Except Failure (β × Table)} (hnext : ∀ a, (next a).SettlesInRange t (k a)) :
    (Work.check check >>= next).SettlesInRange t (check.mapError Failure.app >>= k) := by
  cases check with
  | error e => exact .inl ((comesTo_fail (.app e)).bind_error next).settles_error
  | ok a =>
    exact (hnext a).imp (fun h => (comesTo_pure a).bind_settles h)
      fun h => (comesTo_pure a).bind_settles h

end Work

open Work Enrolment

variable {t t' : Table} {oracle : Oracle} {now : Int} {order : Order}

/-- An order does what `Table.carriedOut` says, unless a number is out of range. -/
theorem Order.settles_work (ht : t.Healthy) (oracle : Oracle) {batchesEnabled : Bool} (now : Int)
    (order : Order) (h : batchesEnabled = false ∨ ∀ request, order ≠ .batch request) :
    (order.work oracle batchesEnabled now).SettlesInRange t
      ((t.carriedOut oracle now order).map fun t' => ((), t')) := by
  cases order with
  | single request =>
    have hwork : (register oracle now request).SettlesInRange t
        (request.checked.mapError Failure.app >>= fun x => t.registered oracle now x.1 x.2) :=
      settlesInRange_check fun x => (settles_enrol ht oracle now x.1 x.2).imp id And.right
    exact hwork.discard
  | batch request =>
    rcases h with rfl | h
    · have hwork : (registerBatch oracle now false request).Settles t
          (.error (.app .batchesDisabled)) :=
        ((comesTo_fail (.app .batchesDisabled)).bind_error _).settles_error
      exact .inl hwork.discard
    · exact absurd rfl (h request)
  | refresh activationId =>
    have hwork : (Enrolment.refresh oracle activationId).SettlesInRange t
        ((requireText activationId "Activation ID").mapError Failure.app >>=
          t.refreshed oracle) :=
      settlesInRange_check fun a => (settles_refreshActivation ht oracle a).imp id And.right
    exact hwork.discard
  | removal appId token =>
    have hwork : (remove appId token).SettlesInRange t
        ((requireApplication appId).mapError Failure.app >>= fun appId =>
          (requireText token "Push token").mapError Failure.app >>= fun token =>
            .ok (t.removed appId token)) :=
      settlesInRange_check fun appId => settlesInRange_check fun token =>
        (settles_removeToken ht.readable appId token).imp id And.right
    exact hwork.discard

/-! ### What orders leave -/

/-- An order that was carried out has passed its check. -/
theorem exists_of_checked_ok {α β : Type} {check : Except AppError α}
    {k : α → Except Failure (β × Table)}
    (h : (check.mapError Failure.app >>= k).map Prod.snd = .ok t') :
    ∃ a b, check = .ok a ∧ k a = .ok (b, t') := by
  obtain ⟨⟨b, _⟩, hboth, rfl⟩ := map_eq_ok_iff.mp h
  obtain ⟨a, hpassed, hresult⟩ := bind_eq_ok_iff.mp hboth
  exact ⟨a, b, mapError_eq_ok_iff.mp hpassed, hresult⟩

/-- An order that was not carried out has failed in its check or after it. -/
theorem error_of_checked {α β : Type} {check : Except AppError α}
    {k : α → Except Failure (β × Table)} {e : Failure}
    (h : (check.mapError Failure.app >>= k).map Prod.snd = .error e) :
    (∃ error, check = .error error ∧ e = .app error) ∨ ∃ a, check = .ok a ∧ k a = .error e := by
  rcases bind_eq_error_iff.mp (map_eq_error_iff.mp h) with hfailed | ⟨a, hpassed, hresult⟩
  · obtain ⟨error, hcheck, rfl⟩ := mapError_eq_error_iff.mp hfailed
    exact .inl ⟨error, hcheck, rfl⟩
  · exact .inr ⟨a, mapError_eq_ok_iff.mp hpassed, hresult⟩

namespace Table

/-- An order that was carried out has registered an activation, refreshed one or removed rows. -/
theorem carriedOut_eq_ok (h : t.carriedOut oracle now order = .ok t') :
    (∃ request device a saved, order = .single request ∧ request.checked = .ok (device, a) ∧
      t.registered oracle now device a = .ok (saved, t')) ∨
    (∃ value a n, order = .refresh value ∧ t.refreshed oracle a = .ok (n, t')) ∨
    ∃ first second appId token, order = .removal first second ∧
      t' = (t.removed appId token).2 := by
  cases order with
  | single request =>
    obtain ⟨⟨device, a⟩, saved, hchecked, hresult⟩ := exists_of_checked_ok h
    exact .inl ⟨request, device, a, saved, rfl, hchecked, hresult⟩
  | batch request => cases h
  | refresh activationId =>
    obtain ⟨a, n, -, hresult⟩ := exists_of_checked_ok h
    exact .inr (.inl ⟨activationId, a, n, rfl, hresult⟩)
  | removal appId token =>
    obtain ⟨n, _, -, hrest⟩ := exists_of_checked_ok h
    obtain ⟨s, -, hresult⟩ := bind_eq_ok_iff.mp hrest
    cases hresult
    exact .inr (.inr ⟨appId, token, n, s, rfl, rfl⟩)

/-- An order keeps a table healthy. -/
theorem Healthy.carriedOut (ht : t.Healthy) (hreports : ∀ a, oracle.ReportsAsked a)
    (h : t.carriedOut oracle now order = .ok t') : t'.Healthy := by
  rcases carriedOut_eq_ok h with ⟨request, device, a, saved, -, -, h⟩ | ⟨value, a, n, -, h⟩ |
    ⟨first, second, appId, token, -, rfl⟩
  · exact ht.registered (hreports a) h
  · exact ht.refreshed h
  · exact ht.removed appId token

/-- Why an order is not carried out. -/
theorem carriedOut_eq_error {e : Failure} (h : t.carriedOut oracle now order = .error e) :
    (∃ error, e = .app error ∧ (error.report.kind = .validation ∨ error = .batchesDisabled)) ∨
    (∃ a, oracle a = .error e ∨ e.Accidental ∨ ∃ d, e = .defect d) ∨
    ∃ request device a, order = .single request ∧ request.checked = .ok (device, a) ∧
      2 ≤ (t.candidates device a).length ∧
      e = .app (.ambiguousToken device.appId (t.candidates device a).length) := by
  cases order with
  | single request =>
    rcases error_of_checked h with ⟨error, hchecked, rfl⟩ | ⟨⟨device, a⟩, hchecked, hresult⟩
    · exact .inl ⟨error, rfl, .inl (request.validates_checked error hchecked)⟩
    · rcases registered_eq_error hresult with hcause | hseveral
      · exact .inr (.inl ⟨a, hcause⟩)
      · exact .inr (.inr ⟨request, device, a, rfl, hchecked, hseveral⟩)
  | batch request =>
    cases h
    exact .inl ⟨_, rfl, .inr rfl⟩
  | refresh activationId =>
    rcases error_of_checked h with ⟨error, htext, rfl⟩ | ⟨a, -, hresult⟩
    · exact .inl ⟨error, rfl, .inl (validates_requireText _ _ error htext)⟩
    · exact .inr (.inl ⟨a, refreshed_eq_error hresult⟩)
  | removal appId token =>
    rcases error_of_checked h with ⟨error, happ, rfl⟩ | ⟨n, -, hrest⟩
    · exact .inl ⟨error, rfl, .inl (validates_requireApplication _ error happ)⟩
    · rcases bind_eq_error_iff.mp hrest with hfailed | ⟨s, -, ⟨⟩⟩
      obtain ⟨error, htext, rfl⟩ := mapError_eq_error_iff.mp hfailed
      exact .inl ⟨error, rfl, .inl (validates_requireText _ _ error htext)⟩

/-- An order finds no duplicates. -/
theorem explains_of_carriedOut {e : Failure} (h : t.carriedOut oracle now order = .error e) :
    oracle.Explains e := by
  rcases carriedOut_eq_error h with ⟨error, rfl, hkind⟩ | ⟨a, hcause⟩ |
    ⟨request, device, a, -, -, -, rfl⟩
  · intro hduplicate
    rcases hkind with hkind | rfl <;> cases hduplicate
    all_goals cases hkind
  · exact Oracle.explains_of_cause hcause
  · rintro ⟨⟩

end Table

/-! ### Requests with strings that are no texts -/

namespace Work

variable {α β : Type}

/-- Whether work fails on every session. -/
def Fails (work : Work α) : Prop := ∀ s : Session, ∃ e, (work s).1 = .error e

theorem fails_fail (e : Failure) : (fail e : Work α).Fails := fun _ => ⟨e, rfl⟩

/-- Work fails if it fails in the end, whatever it begins with. -/
theorem fails_bind {next : α → Work β} (work : Work α) (hnext : ∀ a, (next a).Fails) :
    (work >>= next).Fails := by
  intro s
  rw [bind_apply]
  rcases work s with ⟨e | a, s'⟩
  · exact ⟨e, rfl⟩
  · exact hnext a s'

end Work

namespace Posting

variable {batchesEnabled : Bool} {posting : Posting}

theorem silent_checkString (value : Option JsonString) (label : String) :
    (checkString value label).Silent := by
  rw [checkString.eq_def]
  split
  · exact silent_pure ()
  · exact (silent_check _).bind fun _ => silent_pure ()

theorem silent_checkPlatform (value : Option JsonString) : (checkPlatform value).Silent := by
  rw [checkPlatform.eq_def]
  split
  · exact silent_fail _
  · exact silent_check _

/-- Work on a request with a string that is no text fails. -/
theorem fails_brokenWork (posting : Posting) :
    (posting.brokenWork oracle batchesEnabled now).Fails := by
  cases posting with
  | single appId token platform activationId =>
    exact fails_bind _ fun _ => fails_bind _ fun _ => fails_bind _ fun _ => fails_bind _ fun _ =>
      fails_fail _
  | batch appId token platform activationIds =>
    cases batchesEnabled with
    | false => exact fun s => ⟨_, rfl⟩
    | true =>
      refine fails_bind _ fun _ => fails_bind _ fun _ => fails_bind _ fun _ => fails_bind _ fun _ =>
        ?_
      split
      · exact fails_bind _ fun _ => fails_fail _
      · exact fails_fail _
  | refresh activationId => exact fails_bind _ fun _ => fails_fail _
  | removal appId token => exact fails_bind _ fun _ => fails_bind _ fun _ => fails_fail _

/-- Such work changes nothing but its transaction, unless the request is a batch. -/
theorem silent_brokenWork
    (h : ∀ appId token platform ids, posting ≠ batch appId token platform ids) :
    (posting.brokenWork oracle batchesEnabled now).Silent := by
  cases posting with
  | single appId token platform activationId =>
    exact (silent_check _).bind fun _ => (silent_checkString _ _).bind fun _ =>
      (silent_checkPlatform _).bind fun _ => (silent_checkString _ _).bind fun _ => silent_fail _
  | batch appId token platform activationIds => exact absurd rfl (h _ _ _ _)
  | refresh activationId => exact (silent_checkString _ _).bind fun _ => silent_fail _
  | removal appId token =>
    exact (silent_check _).bind fun _ => (silent_checkString _ _).bind fun _ => silent_fail _

/-- A request with a string that is no text fails. Unless it is a batch, nothing is committed and
nothing is asked. -/
theorem runUnit_of_broken (hbroken : posting.order? = none) (t : Table) (plan : FaultPlan) :
    let run := (posting.work oracle batchesEnabled now).runUnit t plan
    (∃ e, run.1 = .error e) ∧
      ((∀ appId token platform ids, posting ≠ batch appId token platform ids) →
        run.2.committed = t ∧ run.2.asked = []) := by
  have hwork : posting.work oracle batchesEnabled now =
      posting.brokenWork oracle batchesEnabled now := by rw [work, hbroken]
  intro run
  constructor
  · rw [runUnit_fst, hwork]
    exact fails_brokenWork posting _
  · intro hsingle
    have hsilent : (posting.brokenWork oracle batchesEnabled now).Silent :=
      silent_brokenWork hsingle
    rw [committed_runUnit, asked_runUnit, hwork]
    exact ⟨(hsilent _).committed, (hsilent _).asked⟩

end Posting

end PushRegistry
