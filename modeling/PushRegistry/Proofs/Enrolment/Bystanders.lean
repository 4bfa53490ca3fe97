import PushRegistry.Proofs.Enrolment.Course
import PushRegistry.Proofs.Enrolment.Turns

/-!
# Rows that a batch does not concern

A batch concerns the rows that are bound to one of its activations and the rows of its device. Every
other row is there after the batch as it was, on any table, however the batch ends, whatever the
activation service answers and whichever calls of the store fail.

A lookup finds only rows that the batch concerns, so no other row is taken over or makes place. A row
that is written has the number of a row that was found or of no row at all. Both hold of every
activation, and what an activation writes does not make a row that it left one that was found.

## Main definitions

* `BatchRequest.Concerns`: the rows that a batch may change.

## Main results

* `Table.mem_reconciledInBatch_of_bystander`: what one activation leaves.
* `Enrolment.mem_enrolAll_of_bystander`: what all of them leave.
* `Enrolment.registerBatch_keeps_bystanders`: what a request leaves.
-/

namespace PushRegistry

/-! ### One activation -/

namespace Table

variable {t t' : Table} {oracle : Oracle} {now : Int} {device : Device} {claimed : List Int}
  {a : String} {rows : List Row} {saved : Registration} {x : Row}

/-- A lookup finds rows of the activation or rows of the device. -/
theorem concerned_of_located (h : t.located device a = .ok rows) (hx : x ∈ rows) :
    x.activationId = some a ∨ x.Keyed device := by
  rcases bound_or_unbound_of_located h with ⟨row, rfl, -, hrowa, -⟩ | ⟨-, -, rfl⟩
  · exact .inl (List.mem_singleton.mp hx ▸ hrowa)
  · exact .inr (mem_keyedBy.mp hx).2

/-- An activation of a batch leaves every row that is neither its own nor one of the device. -/
theorem mem_reconciledInBatch_of_bystander
    (h : t.reconciledInBatch oracle now device claimed a = .ok (saved, t')) (hx : x ∈ t.rows)
    (hxa : x.activationId ≠ some a) (hkeyed : ¬ x.Keyed device) : x ∈ t'.rows := by
  obtain ⟨rows, t₁, answer, hrows, hcleared, -, -, hadmits, rfl⟩ := reconciledInBatch_eq_ok h
  have hfound : ∀ row ∈ rows, row ∈ t.rows := fun row hrow => mem_of_located hrows hrow
  have hmissed : x ∉ rows := fun hmem => (concerned_of_located hrows hmem).elim hxa hkeyed
  have hkept : x ∈ t₁.rows :=
    (mem_cleared hcleared hfound).mpr ⟨hx, fun hmem => absurd hmem hmissed⟩
  refine (mem_put hadmits).mpr (.inr ⟨hkept, id_ne_enrolledRow hkept fun row hchosen hid => ?_⟩)
  have hrow : row ∈ rows := by simp [(Row.eq_singleton_of_unclaimed? hchosen).1]
  exact hmissed (eq_of_id_eq hx (hfound row hrow) hid ▸ hrow)

end Table

namespace Enrolment

open Work

variable {oracle : Oracle} {now : Int} {device : Device} {claimed : List Int} {a : String}
  {x : Row}

/-- After the turn of an activation such a row is there, also if the activation has failed. -/
theorem mem_attemptInBatch_of_bystander {s s₁ : Session} {res : Except Failure Outcome}
    (hs : s.Settled) (hrun : attemptInBatch oracle now device claimed a s = (res, s₁))
    (hx : x ∈ s.committed.rows) (hxa : x.activationId ≠ some a) (hkeyed : ¬ x.Keyed device) :
    x ∈ s₁.committed.rows := by
  have hattempt := attempt_of_settles hs
    (settles_reconciledInBatch s.committed oracle now device claimed a)
  rw [hrun] at hattempt
  cases hattempt with
  | registered hresult _ _ =>
    exact Table.mem_reconciledInBatch_of_bystander hresult hx hxa hkeyed
  | failed _ _ _ hcommitted _ _ => exact hcommitted ▸ hx
  | aborted _ hcommitted _ => exact hcommitted ▸ hx

/-! ### All activations -/

/-- A row that is bound to none of the activations of a batch and is not one of its device is there
after the batch as it was. -/
theorem mem_enrolAll_of_bystander (ids : List String) {s : Session} (hs : s.Settled)
    (hx : x ∈ s.committed.rows) (hids : ¬ x.BoundIn ids) (hkeyed : ¬ x.Keyed device) :
    x ∈ (enrolAll oracle now device claimed ids s).2.committed.rows := by
  induction ids generalizing claimed s with
  | nil => exact hx
  | cons a rest ih =>
    have hxa : x.activationId ≠ some a := fun hxa => hids ⟨a, List.mem_cons_self, hxa⟩
    have hrest : ¬ x.BoundIn rest := fun ⟨b, hb, hxb⟩ => hids ⟨b, List.mem_cons_of_mem a hb, hxb⟩
    rcases hrun : attemptInBatch oracle now device claimed a s with ⟨e | o, s₁⟩
    · rw [enrolAll_cons_of_error hrun]
      exact mem_attemptInBatch_of_bystander hs hrun hx hxa hkeyed
    · rw [enrolAll_cons_snd_of_ok hrun]
      exact ih (settled_attemptInBatch hs hrun).1
        (mem_attemptInBatch_of_bystander hs hrun hx hxa hkeyed) hrest

end Enrolment

/-! ### Requests -/

namespace BatchRequest

variable {request : BatchRequest} {device : Device} {ids : List String} {row : Row}

/-- Whether a row is bound to one of the activations of a request, or has the application and the
token of the request. -/
def Concerns (request : BatchRequest) (row : Row) : Prop :=
  (∃ a, row.activationId = some a ∧ some a ∈ request.activationIds.getD []) ∨
    request.appId = some row.appId ∧ request.token = some row.token

/-- A request in order concerns the rows of its activations and of its device. -/
theorem concerns_iff_of_checked (h : request.checked = .ok (device, ids)) :
    request.Concerns row ↔ row.BoundIn ids ∨ row.Keyed device := by
  obtain ⟨hdevice, hids⟩ := checked_eq_ok_iff.mp h
  obtain ⟨happ, htoken, -⟩ := Validation.requireDevice_eq_ok_iff.mp hdevice
  obtain ⟨hvalues, -⟩ := Validation.requireActivations_eq_ok_iff.mp hids
  have happ : request.appId = some device.appId := by
    cases hn : request.appId <;> rw [hn] at happ <;> cases happ
    rfl
  have htoken : request.token = some device.token := (Validation.requireText_eq_ok_iff.mp htoken).1
  rw [Concerns, hvalues, happ, htoken, Option.some_inj, Option.some_inj, Row.Keyed, eq_comm,
    @eq_comm _ device.token]
  refine or_congr_left ⟨?_, ?_⟩
  · rintro ⟨a, hrowa, hmem⟩
    obtain ⟨b, hb, hba⟩ := List.mem_map.mp hmem
    exact ⟨b, hb, hrowa.trans hba.symm⟩
  · rintro ⟨a, ha, hrowa⟩
    exact ⟨a, hrowa, List.mem_map.mpr ⟨a, ha, rfl⟩⟩

end BatchRequest

namespace Enrolment

open Work

/-- A row that a batch does not concern is in the committed table after it, under its number and with
all its columns, whether the batch is carried out, fails for some activations, is ended by a defect
or is refused. -/
theorem registerBatch_keeps_bystanders (oracle : Oracle) (now : Int) (enabled : Bool)
    (request : BatchRequest) (t : Table) (plan : FaultPlan) {x : Row} (hx : x ∈ t.rows)
    (hbystander : ¬ request.Concerns x) :
    x ∈ ((registerBatch oracle now enabled request).runUnit t plan).2.committed.rows := by
  cases enabled with
  | false => exact hx
  | true =>
    cases hchecked : request.checked with
    | error e =>
      rw [registerBatch_of_unchecked hchecked]
      exact hx
    | ok named =>
      obtain ⟨device, ids⟩ := named
      rw [BatchRequest.concerns_iff_of_checked hchecked, not_or] at hbystander
      rw [(runUnit_registerBatch_apply hchecked t plan).2]
      exact mem_enrolAll_of_bystander ids (Session.settled_begin t plan) hx hbystander.1
        hbystander.2

/-- Of a batch of which the first activation takes the number of a row that made place, and the
second one is lost with its commit, the rows of another device are left. -/
theorem registerBatch_keeps_bystanders_tangled :
    let request : BatchRequest :=
      ⟨some 1, some "T", some "ios", some [some "a", some "b", some "c"]⟩
    let run := (registerBatch .confused 5 true request).runUnit .tangled .secondCommit
    let other (id : Int) : Row := ⟨id, 2, "Q", "ios", some "q", none, true, 0⟩
    (other 1 ∈ Table.tangled.rows ∧ other 2 ∈ Table.tangled.rows) ∧
      run.2.commits = 2 ∧ run.2.rollbacks = 2 ∧
      other 1 ∈ run.2.committed.rows ∧ other 2 ∈ run.2.committed.rows := by
  intro request run other
  have hbystander : ∀ id, ¬ request.Concerns (other id) := by
    rintro id (⟨a, ha, hmem⟩ | ⟨happ, -⟩)
    · cases ha
      revert hmem
      decide
    · cases happ
  have hcommits : run.2.commits = 2 ∧ run.2.rollbacks = 2 := by decide +kernel
  have hone : other 1 ∈ Table.tangled.rows := by decide
  have htwo : other 2 ∈ Table.tangled.rows := by decide
  exact ⟨⟨hone, htwo⟩, hcommits.1, hcommits.2,
    registerBatch_keeps_bystanders .confused 5 true request .tangled .secondCommit hone
      (hbystander 1),
    registerBatch_keeps_bystanders .confused 5 true request .tangled .secondCommit htwo
      (hbystander 2)⟩

end Enrolment

end PushRegistry
