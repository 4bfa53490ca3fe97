import PushRegistry.Proofs.Orders

/-!
# Runs of the service

A run is a list of rounds, each of which carries out one order on the table that the round before
it has left. From round to round everything else may change: what the activation service answers,
whether batches are enabled, the time, and which calls of the store fail.

Along every run that starts from a healthy table all tables are healthy, so no lookup ever finds
several rows where there should be one.

## Main definitions

* `Round`, `Round.run`: an order with its circumstances, and what carrying it out comes to.
* `Round.tables`, `Round.after`: the tables that a round commits, and the one that it leaves.
* `Round.failures`: the failures that the round shows or records.
* `history`: the rounds of a run, each with the table that it finds.

## Main results

* `Round.staysHealthy`: what one round keeps.
* `history_healthy`: what a run keeps.
-/

namespace PushRegistry

/-! ### Rounds -/

/-- An order and what it meets. -/
structure Round where
  order : Order
  oracle : Oracle
  batchesEnabled : Bool
  now : Int
  plan : FaultPlan

namespace Round

/-- Carries out the order of a round. -/
def run (round : Round) (t : Table) : Except Failure Unit × Session :=
  (round.order.work round.oracle round.batchesEnabled round.now).runUnit t round.plan

/-- The table that a round leaves. -/
def after (round : Round) (t : Table) : Table := (round.run t).2.committed

/-- The tables that a round commits, in order. Only a batch may commit several. -/
def tables (round : Round) (t : Table) : List Table := (round.run t).2.published

/-- The failure that a round shows, and those that it records. -/
def failures (round : Round) (t : Table) : List Failure :=
  (match (round.run t).1 with
    | .ok _ => []
    | .error e => [e]) ++ (round.run t).2.failures

/-- A round without faults or batches that registers a device for an active activation. -/
def plain (token activationId : String) : Round where
  order := .single ⟨some 1, some token, some "ios", some activationId⟩
  oracle := .allActive
  batchesEnabled := false
  now := 0
  plan := .none

/-- A round that registers a device for active activations, of which the first is lost. -/
def lossy (token : String) (activationIds : List String) : Round where
  order := .batch ⟨some 1, some token, some "ios", some (activationIds.map some)⟩
  oracle := .allActive
  batchesEnabled := true
  now := 0
  plan kind n := if kind = .commit ∧ n = 1 then some .operational else none

end Round

/-- The rounds of a run, each with the table that it finds. -/
def history (t : Table) : List Round → List (Table × Round)
  | [] => []
  | round :: r => (t, round) :: history (round.after t) r

namespace Round

open Work Enrolment

variable {t : Table} {round : Round}

/-! ### What a round keeps -/

theorem run_fst : (round.run t).1 =
    (round.order.work round.oracle round.batchesEnabled round.now
      (Session.begin t round.plan)).1 :=
  runUnit_fst _ t round.plan

theorem after_eq : round.after t =
    (round.order.work round.oracle round.batchesEnabled round.now
      (Session.begin t round.plan)).2.committed :=
  committed_runUnit _ t round.plan

theorem tables_eq : round.tables t =
    (round.order.work round.oracle round.batchesEnabled round.now
      (Session.begin t round.plan)).2.published :=
  published_runUnit _ t round.plan

theorem failures_run : (round.run t).2.failures =
    (round.order.work round.oracle round.batchesEnabled round.now
      (Session.begin t round.plan)).2.failures :=
  failures_runUnit _ t round.plan

/-- A round with a single transaction carries its order out, or it fails and leaves the table. -/
theorem run_cases_of_settles {r : Except Failure Table}
    (h : (round.order.work round.oracle round.batchesEnabled round.now).Settles t
      (r.map fun t' => ((), t'))) :
    (round.run t).1 = .ok () ∧ round.failures t = [] ∧ r = .ok (round.after t) ∨
      ∃ e, (round.run t).1 = .error e ∧ round.failures t = [e] ∧ round.after t = t ∧
        (r = .error e ∨ e.Accidental) := by
  have hfailures : (round.run t).2.failures = [] := h.failures_runUnit round.plan
  have hcases := h.runUnit_cases round.plan
  rw [← Round.run] at hcases
  rcases hcases with ⟨u, hrun, hresult⟩ | ⟨e, hrun, hafter, hcause⟩
  · refine .inl ⟨hrun, by rw [Round.failures, hrun, hfailures]; rfl, ?_⟩
    cases r <;> cases hresult
    rfl
  · refine .inr ⟨e, hrun, by rw [Round.failures, hrun, hfailures]; rfl, hafter, ?_⟩
    refine hcause.imp (fun hresult => ?_) And.right
    cases r <;> cases hresult
    rfl

/-- What holds of the table that a round finds holds of those that it commits just if it holds of
the one that it leaves, provided that it commits no other. -/
theorem forall_tables_iff {p : Table → Prop} (ht : p t)
    (h : round.tables t = [] ∧ round.after t = t ∨ round.tables t = [round.after t]) :
    (∀ t' ∈ round.tables t, p t') ↔ p (round.after t) := by
  rcases h with ⟨htables, hafter⟩ | htables
  · rw [htables, hafter]
    exact iff_of_true (by simp) ht
  · rw [htables, List.forall_mem_singleton]

/-- A round with a single transaction commits the table that it leaves, or nothing. -/
theorem tables_of_settles {r : Except Failure (Unit × Table)}
    (h : (round.order.work round.oracle round.batchesEnabled round.now).Settles t r) :
    round.tables t = [] ∧ round.after t = t ∨ round.tables t = [round.after t] :=
  h.published_runUnit round.plan

/-- A round without a batch does what its order does. -/
theorem run_cases (ht : t.Healthy)
    (h : round.batchesEnabled = false ∨ ∀ request, round.order ≠ .batch request) :
    (round.run t).1 = .ok () ∧ round.failures t = [] ∧
        t.carriedOut round.oracle round.now round.order = .ok (round.after t) ∨
      ∃ e, (round.run t).1 = .error e ∧ round.failures t = [e] ∧ round.after t = t ∧
        (t.carriedOut round.oracle round.now round.order = .error e ∨ e = .defect .integerRange ∨
          e.Accidental) := by
  rcases Order.settles_work ht round.oracle round.now round.order h with hsettles | hsettles
  · rcases run_cases_of_settles hsettles with hok | ⟨e, hrun, hfailures, hafter, hcause⟩
    · exact .inl hok
    · exact .inr ⟨e, hrun, hfailures, hafter, hcause.imp_right .inr⟩
  · have hcases := run_cases_of_settles (r := .error (.defect .integerRange)) hsettles
    rcases hcases with ⟨-, -, hok⟩ | ⟨e, hrun, hfailures, hafter, hcause⟩
    · cases hok
    · refine .inr ⟨e, hrun, hfailures, hafter, .inr (hcause.imp_left fun hresult => ?_)⟩
      exact (Except.error.inj hresult).symm

/-- Whether the tables of a round are healthy and no failure of it is unexplained. -/
structure StaysHealthy (round : Round) (t : Table) : Prop where
  after : (round.after t).Healthy
  tables : ∀ t' ∈ round.tables t, t'.Healthy
  failures : ∀ e ∈ round.failures t, round.oracle.Explains e

/-- A round without a batch commits the table that it leaves, or nothing. -/
theorem tables_cases (ht : t.Healthy)
    (h : round.batchesEnabled = false ∨ ∀ request, round.order ≠ .batch request) :
    round.tables t = [] ∧ round.after t = t ∨ round.tables t = [round.after t] := by
  rcases Order.settles_work ht round.oracle round.now round.order h with hsettles | hsettles
  · exact tables_of_settles hsettles
  · exact tables_of_settles hsettles

/-- A round with an order that is no batch, or with batches disabled. -/
theorem staysHealthy_of_single (ht : t.Healthy) (hreports : ∀ a, round.oracle.ReportsAsked a)
    (h : round.batchesEnabled = false ∨ ∀ request, round.order ≠ .batch request) :
    round.StaysHealthy t := by
  obtain ⟨hafter, hfailures⟩ : (round.after t).Healthy ∧
      ∀ e ∈ round.failures t, round.oracle.Explains e := by
    rcases run_cases ht h with ⟨-, hfailures, hresult⟩ | ⟨e, -, hfailures, hafter, hcause⟩
    · exact ⟨ht.carriedOut hreports hresult, by simp [hfailures]⟩
    · refine ⟨by rw [hafter]; exact ht, ?_⟩
      rw [hfailures]
      refine List.forall_mem_singleton.mpr ?_
      rcases hcause with hresult | rfl | hcause
      · exact Table.explains_of_carriedOut hresult
      · rintro ⟨⟩
      · exact Oracle.explains_of_accidental hcause
  exact ⟨hafter, (forall_tables_iff ht (tables_cases ht h)).mpr hafter, hfailures⟩

/-- What a round does that begins a batch. -/
theorem run_of_batch {request : BatchRequest} {device : Device} {ids : List String}
    (horder : round.order = .batch request) (henabled : round.batchesEnabled = true)
    (hchecked : request.checked = .ok (device, ids)) :
    round.order.work round.oracle round.batchesEnabled round.now (Session.begin t round.plan) =
      (((enrolAll round.oracle round.now device [] ids (Session.begin t round.plan)).1 >>= fun os =>
          if (failedActivations os).isEmpty then .ok os
          else .error (.app (.batchFailed (failedActivations os)))).map fun _ => (),
        (enrolAll round.oracle round.now device [] ids (Session.begin t round.plan)).2) := by
  rw [horder, henabled]
  change discard (registerBatch round.oracle round.now true request) _ = _
  rw [discard_apply, registerBatch_apply hchecked]

/-- A round with a batch whose request is not in order. -/
theorem staysHealthy_of_unchecked {request : BatchRequest} {e : AppError} (ht : t.Healthy)
    (horder : round.order = .batch request) (henabled : round.batchesEnabled = true)
    (hchecked : request.checked = .error e) : round.StaysHealthy t := by
  have hwork : (registerBatch round.oracle round.now true request).Settles t (.error (.app e)) := by
    rw [registerBatch_of_unchecked hchecked]
    exact (comesTo_fail (.app e)).settles_error
  have hsettles : (round.order.work round.oracle round.batchesEnabled round.now).Settles t
      ((Except.error (.app e) : Except Failure Table).map fun t' => ((), t')) := by
    rw [horder, henabled]
    exact hwork.discard
  rcases run_cases_of_settles hsettles with ⟨-, -, hok⟩ | ⟨e', -, hfailures, hafter, hcause⟩
  · cases hok
  · have ht' : (round.after t).Healthy := by
      rw [hafter]
      exact ht
    refine ⟨ht', (forall_tables_iff ht (tables_of_settles hsettles)).mpr ht', ?_⟩
    rw [hfailures]
    refine List.forall_mem_singleton.mpr ?_
    rcases hcause with hresult | hcause
    · cases hresult
      exact Oracle.explains_of_validates request.validates_checked hchecked
    · exact Oracle.explains_of_accidental hcause

/-- A round with a batch leaves what its last activation has left. -/
theorem staysHealthy_of_batch {request : BatchRequest} {device : Device} {ids : List String}
    (ht : t.Healthy) (hreports : ∀ a, round.oracle.ReportsAsked a)
    (horder : round.order = .batch request) (henabled : round.batchesEnabled = true)
    (hchecked : request.checked = .ok (device, ids)) : round.StaysHealthy t := by
  have hsound := sound_enrolAll round.now device [] ids (Session.settled_begin t round.plan)
    (Session.sound_begin ht round.plan round.oracle) Table.claims_nil fun a _ => hreports a
  have hrun := run_of_batch (t := t) horder henabled hchecked
  constructor
  case after =>
    rw [after_eq, hrun]
    exact hsound.committed
  case tables =>
    rw [tables_eq, hrun]
    exact hsound.published
  case failures =>
    rw [Round.failures, failures_run, run_fst, hrun]
    refine List.forall_mem_append.mpr ⟨?_, hsound.failures⟩
    rcases hall : enrolAll round.oracle round.now device [] ids (Session.begin t round.plan) with
      ⟨e | os, s'⟩
    · obtain ⟨d, rfl⟩ := enrolAll_eq_error hall
      refine List.forall_mem_singleton.mpr ?_
      rintro ⟨⟩
    · by_cases hfailed : (failedActivations os).isEmpty = true
      · simp [bind, Except.bind, Except.map, hfailed]
      · simp only [bind, Except.bind, Except.map, hfailed]
        refine List.forall_mem_singleton.mpr ?_
        rintro ⟨⟩

/-- The tables of a round are healthy, and no failure of it is unexplained. -/
theorem staysHealthy (ht : t.Healthy) (hreports : ∀ a, round.oracle.ReportsAsked a) :
    round.StaysHealthy t := by
  by_cases h : round.batchesEnabled = false ∨ ∀ request, round.order ≠ .batch request
  · exact staysHealthy_of_single ht hreports h
  · obtain ⟨hdisabled, hbatch⟩ := not_or.mp h
    have henabled : round.batchesEnabled = true := by simpa using hdisabled
    obtain ⟨request, hrequest⟩ := Classical.not_forall.mp hbatch
    have horder : round.order = .batch request := Classical.not_not.mp hrequest
    cases hchecked : request.checked with
    | error e => exact staysHealthy_of_unchecked ht horder henabled hchecked
    | ok x => exact staysHealthy_of_batch ht hreports horder henabled hchecked

end Round

/-! ### Runs -/

/-- Every round of a run finds a healthy table. -/
theorem healthy_of_mem_history {t : Table} (ht : t.Healthy) {rounds : List Round}
    (hreports : ∀ round ∈ rounds, ∀ a, round.oracle.ReportsAsked a) :
    ∀ x ∈ history t rounds, x.2 ∈ rounds ∧ x.1.Healthy := by
  induction rounds generalizing t with
  | nil => simp [history]
  | cons round rest ih =>
    obtain ⟨hround, hrest⟩ := List.forall_mem_cons.mp hreports
    have hafter : (round.after t).Healthy := (Round.staysHealthy ht hround).after
    refine List.forall_mem_cons.mpr ⟨⟨List.mem_cons_self, ht⟩, fun x hx => ?_⟩
    obtain ⟨hmem, hhealthy⟩ := ih hafter hrest x hx
    exact ⟨List.mem_cons_of_mem _ hmem, hhealthy⟩

/-- Along every run from the empty table or a healthy one all committed tables are healthy, and no
lookup finds several rows where there should be one. -/
theorem history_healthy {t : Table} (ht : t = .empty ∨ t.Healthy) (rounds : List Round)
    (hreports : ∀ round ∈ rounds, ∀ a, round.oracle.ReportsAsked a) :
    ∀ x ∈ history t rounds, x.1.Healthy ∧ (∀ t' ∈ x.2.tables x.1, t'.Healthy) ∧
      ∀ e ∈ x.2.failures x.1, e.IsDuplicate → ∃ a, x.2.oracle a = .error e := by
  have ht : t.Healthy := ht.elim (fun h => h ▸ Table.healthy_empty) id
  intro x hx
  obtain ⟨hmem, hhealthy⟩ := healthy_of_mem_history ht hreports x hx
  have hstays := Round.staysHealthy hhealthy (hreports x.2 hmem)
  exact ⟨hhealthy, hstays.tables, hstays.failures⟩

theorem history_healthy_plain_lossy :
    (∀ round ∈ [Round.plain "T" "a", .lossy "U" ["a", "b"]], ∀ a, round.oracle.ReportsAsked a) ∧
      ∀ x ∈ history .empty [.plain "T" "a", .lossy "U" ["a", "b"]],
        x.1.Healthy ∧ (∀ t' ∈ x.2.tables x.1, t'.Healthy) ∧
          ∀ e ∈ x.2.failures x.1, e.IsDuplicate → ∃ a, x.2.oracle a = .error e := by
  have hreports : ∀ round ∈ [Round.plain "T" "a", .lossy "U" ["a", "b"]], ∀ a,
      round.oracle.ReportsAsked a := by
    intro round hround a
    rcases List.mem_cons.mp hround with rfl | hround
    · exact Oracle.reportsAsked_allActive a
    · rw [List.mem_singleton.mp hround]
      exact Oracle.reportsAsked_allActive a
  exact ⟨hreports, history_healthy (.inl rfl) _ hreports⟩

end PushRegistry
