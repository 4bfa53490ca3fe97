import PushRegistry.Proofs.Enrolment.Attempts
import PushRegistry.Proofs.Requests

/-!
# Batches without faults

If no call of the store fails and all numbers have a form in the store, what a batch does is a
function of the table: each activation either is registered and its row is claimed, or it fails and
leaves the table as it was. A claimed row is not touched again.

## Main definitions

* `Table.attempted`: what one activation of a batch comes to.
* `Table.enrolledAll`: what all of them come to.
* `Oracle.Answers`, `Oracle.admits`: usable answers, and those that allow a binding.

## Main results

* `Enrolment.runUnit_registerBatch`: a request does what `Table.enrolledAll` says.
* `Table.mem_of_claimed`: claimed rows stay as they are.
* `Table.registeredInBatch_of_unclaimed`, `Table.registeredInBatch_of_claimed`: an activation fails
  just if it can be bound to and its row is claimed.
-/

namespace PushRegistry

/-! ### Different activations -/

/-- After the first of different activations that are not done, the others are not done either. -/
theorem fresh_of_cons {a : String} {rest done : List String} (hnodup : (a :: rest).Nodup)
    (hfresh : ∀ c ∈ a :: rest, c ∉ done) :
    a ∉ done ∧ rest.Nodup ∧ ∀ c ∈ rest, c ∉ a :: done := by
  obtain ⟨ha, hrest⟩ := List.forall_mem_cons.mp hfresh
  obtain ⟨hamem, hnodup⟩ := List.nodup_cons.mp hnodup
  refine ⟨ha, hnodup, fun c hc hmem => ?_⟩
  rcases List.mem_cons.mp hmem with rfl | hmem
  · exact hamem hc
  · exact hrest c hc hmem

/-! ### Answers -/

/-- Whether the service answers about an activation, under its name and with a user that has a form
in the table. -/
def Oracle.Answers (oracle : Oracle) (activationId : String) : Prop :=
  ∃ answer, oracle activationId = .ok answer ∧
    ∀ report, answer = some report → report.activationId = activationId ∧ report.userId.IsUser

/-- Whether the service answers that an activation can be bound to. -/
def Oracle.admits (oracle : Oracle) (activationId : String) : Bool :=
  match oracle activationId with
  | .ok (some report) => report.status.canBind
  | _ => false

theorem Oracle.Answers.reportsAsked {oracle : Oracle} {a : String} (h : oracle.Answers a) :
    oracle.ReportsAsked a := by
  obtain ⟨answer, hanswer, hreport⟩ := h
  intro report hasked
  rw [hanswer] at hasked
  exact (hreport report (Except.ok.inj hasked)).1

namespace Table

/-! ### On tables -/

/-- What an activation of a batch comes to without faults. -/
def attempted (t : Table) (oracle : Oracle) (now : Int) (device : Device) (claimed : List Int)
    (activationId : String) : Except Failure (Outcome × Table) :=
  match t.registeredInBatch oracle now device claimed activationId with
  | .ok (saved, t') => .ok (⟨activationId, .ok saved.id⟩, t')
  | .error (.defect d) => .error (.defect d)
  | .error e => .ok (⟨activationId, .error e⟩, t)

/-- What the activations of a batch come to without faults. -/
def enrolledAll (oracle : Oracle) (now : Int) (device : Device) :
    Table → List Int → List String → Except Failure (List Outcome × Table)
  | t, _, [] => .ok ([], t)
  | t, claimed, activationId :: r => do
    let (o, t') ← t.attempted oracle now device claimed activationId
    let (os, t'') ← enrolledAll oracle now device t' (o.registrationId?.toList ++ claimed) r
    return (o :: os, t'')

variable {t t' : Table} {oracle : Oracle} {now : Int} {device : Device} {claimed : List Int}
  {a : String} {saved : Registration} {x : Row}

theorem attempted_of_ok
    (h : t.registeredInBatch oracle now device claimed a = .ok (saved, t')) :
    t.attempted oracle now device claimed a = .ok (⟨a, .ok saved.id⟩, t') := by
  rw [attempted, h]

theorem attempted_of_failure {e : Failure} (hkind : ∀ d, e ≠ .defect d)
    (h : t.registeredInBatch oracle now device claimed a = .error e) :
    t.attempted oracle now device claimed a = .ok (⟨a, .error e⟩, t) := by
  rw [attempted, h]
  cases e with
  | defect d => exact absurd rfl (hkind d)
  | app error => rfl
  | store fault => rfl

theorem attempted_of_defect {d : Defect}
    (h : t.registeredInBatch oracle now device claimed a = .error (.defect d)) :
    t.attempted oracle now device claimed a = .error (.defect d) := by
  rw [attempted, h]

/-- The first activation of a batch, and the others after it. -/
theorem enrolledAll_cons_eq_ok {rest : List String} {os : List Outcome} :
    t.enrolledAll oracle now device claimed (a :: rest) = .ok (os, t') ↔
      ∃ o t₁ os₁, t.attempted oracle now device claimed a = .ok (o, t₁) ∧
        t₁.enrolledAll oracle now device (o.registrationId?.toList ++ claimed) rest =
          .ok (os₁, t') ∧ os = o :: os₁ := by
  rw [enrolledAll]
  constructor
  · intro h
    obtain ⟨⟨o, t₁⟩, hattempted, h⟩ := bind_eq_ok_iff.mp h
    obtain ⟨⟨os₁, t₂⟩, hrest, ⟨⟩⟩ := bind_eq_ok_iff.mp h
    exact ⟨o, t₁, os₁, hattempted, hrest, rfl⟩
  · rintro ⟨o, t₁, os₁, hattempted, hrest, rfl⟩
    exact bind_eq_ok_iff.mpr ⟨_, hattempted, bind_eq_ok_iff.mpr ⟨_, hrest, rfl⟩⟩

theorem attempted_eq_ok {o : Outcome}
    (h : t.attempted oracle now device claimed a = .ok (o, t')) :
    (∃ saved, t.registeredInBatch oracle now device claimed a = .ok (saved, t') ∧
      o = ⟨a, .ok saved.id⟩) ∨ t' = t ∧ ∃ e, o = ⟨a, .error e⟩ := by
  rw [attempted] at h
  split at h <;> cases h
  · next hresult => exact .inl ⟨_, hresult, rfl⟩
  · exact .inr ⟨rfl, _, rfl⟩

/-- A table in the course of a batch that has claimed some rows. -/
structure Underway (t : Table) (device : Device) (claimed : List Int) : Prop where
  healthy : t.Healthy
  claims : t.Claims device claimed
  fits : t.Fits device.appId claimed

theorem underway_nil (ht : t.Healthy) (hfits : t.Fits device.appId []) : t.Underway device [] :=
  ⟨ht, claims_nil, hfits⟩

theorem Underway.registeredInBatch (h : t.Underway device claimed)
    (hreports : oracle.ReportsAsked a)
    (hresult : t.registeredInBatch oracle now device claimed a = .ok (saved, t')) :
    t'.Underway device (saved.id.toList ++ claimed) where
  healthy := h.healthy.registeredInBatch hreports h.claims hresult
  claims := h.claims.registeredInBatch hresult
  fits := h.fits.registeredInBatch hresult

theorem Underway.attempted {o : Outcome} (h : t.Underway device claimed)
    (hreports : oracle.ReportsAsked a)
    (hattempted : t.attempted oracle now device claimed a = .ok (o, t')) :
    t'.Underway device (o.registrationId?.toList ++ claimed) := by
  rcases attempted_eq_ok hattempted with ⟨saved, hresult, rfl⟩ | ⟨rfl, e, rfl⟩
  · exact h.registeredInBatch hreports hresult
  · exact h

end Table

/-! ### Sessions without faults -/

/-- A session between two transactions on a table, without faults. -/
structure Session.Ready (s : Session) (t : Table) : Prop extends Settled s where
  committed : s.committed = t
  plan : s.plan = FaultPlan.none

theorem Session.ready_begin (t : Table) : (Session.begin t .none).Ready t :=
  ⟨settled_begin t .none, rfl, rfl⟩

namespace Enrolment

open Work

variable {t : Table} {oracle : Oracle} {now : Int} {device : Device} {claimed : List Int}

/-- Without faults, how an activation of a batch ends is what the table says. -/
theorem Attempt.of_ready {a : String} {r : Except Failure (Registration × Table)}
    {result : Except Failure Outcome} {s s' : Session} (h : Attempt s a r result s')
    (hs : s.Ready t) :
    (∃ saved t', r = .ok (saved, t') ∧ result = .ok ⟨a, .ok saved.id⟩ ∧ s'.Ready t') ∨
      (∃ e, r = .error e ∧ (∀ d, e ≠ .defect d) ∧ result = .ok ⟨a, .error e⟩ ∧ s'.Ready t) ∨
      ∃ d, r = .error (.defect d) ∧ result = .error (.defect d) ∧ s'.committed = t := by
  obtain ⟨-, rfl, hplan⟩ := hs
  cases h with
  | registered hresult hsettled hcontinues =>
    exact .inl ⟨_, _, hresult, rfl, hsettled, rfl, hcontinues.plan.trans hplan⟩
  | failed hcause hkind hsettled hcommitted hplan' hfailures =>
    have hresult := hcause.resolve_right fun h => h.1 hplan
    exact .inr (.inl ⟨_, hresult, hkind, rfl, hsettled, hcommitted, hplan'.trans hplan⟩)
  | aborted hcause hcommitted hcontinues =>
    exact .inr (.inr ⟨_, hcause, rfl, hcommitted⟩)

/-- Without faults an activation of a batch comes to what the table says. -/
theorem attemptInBatch_of_ready (oracle : Oracle) (now : Int) {s : Session} (hs : s.Ready t)
    (ht : t.Underway device claimed) (a : String) :
    (attemptInBatch oracle now device claimed a s).1 =
        (t.attempted oracle now device claimed a).map Prod.fst ∧
      ∀ o t', t.attempted oracle now device claimed a = .ok (o, t') →
        (attemptInBatch oracle now device claimed a s).2.Ready t' := by
  obtain rfl := hs.committed
  have hsettles := (settles_enrolInBatch ht.healthy oracle now device claimed a).resolve_right
    fun h => h.1 ht.fits
  have hattempt := attempt_of_settles hs.toSettled hsettles
  rcases hattempt.of_ready hs with ⟨saved, t₁, hr, hresult, hready⟩ |
    ⟨e, hr, hkind, hresult, hready⟩ | ⟨d, hr, hresult, -⟩
  · rw [hresult, Table.attempted_of_ok hr]
    refine ⟨rfl, ?_⟩
    rintro o t' ⟨⟩
    exact hready
  · rw [hresult, Table.attempted_of_failure hkind hr]
    refine ⟨rfl, ?_⟩
    rintro o t' ⟨⟩
    exact hready
  · rw [hresult, Table.attempted_of_defect hr]
    exact ⟨rfl, by rintro o t' ⟨⟩⟩

/-- Without faults a batch comes to what the table says. -/
theorem enrolAll_of_ready {s : Session} (hs : s.Ready t) (ht : t.Underway device claimed)
    {ids : List String} (hreports : ∀ a ∈ ids, oracle.ReportsAsked a) {os : List Outcome}
    {t' : Table} (h : t.enrolledAll oracle now device claimed ids = .ok (os, t')) :
    ∃ s', enrolAll oracle now device claimed ids s = (.ok os, s') ∧ s'.Ready t' := by
  induction ids generalizing s t claimed os with
  | nil =>
    cases h
    exact ⟨s, rfl, hs⟩
  | cons a rest ih =>
    obtain ⟨ha, hrest⟩ := List.forall_mem_cons.mp hreports
    obtain ⟨hresult, hready⟩ := attemptInBatch_of_ready oracle now hs ht a
    obtain ⟨o, t₁, os₁, hattempted, hlater, rfl⟩ := Table.enrolledAll_cons_eq_ok.mp h
    rw [hattempted] at hresult
    rcases hrun : attemptInBatch oracle now device claimed a s with ⟨res, s₁⟩
    have hs₁ := hready o t₁ hattempted
    rw [hrun] at hresult hs₁
    obtain rfl : res = .ok o := hresult
    obtain ⟨s', hall, hs'⟩ := ih hs₁ (ht.attempted ha hattempted) hrest hlater
    exact ⟨s', enrolAll_cons_eq_ok_iff.mpr ⟨o, s₁, os₁, hrun, hall, rfl⟩, hs'⟩

/-- Without faults a request does what `Table.enrolledAll` says. -/
theorem runUnit_registerBatch {request : BatchRequest} {ids : List String} {os : List Outcome}
    {t' : Table} (hchecked : request.checked = .ok (device, ids)) (ht : t.Healthy)
    (hfits : t.Fits device.appId []) (hreports : ∀ a ∈ ids, oracle.ReportsAsked a)
    (h : t.enrolledAll oracle now device [] ids = .ok (os, t')) :
    ((registerBatch oracle now true request).runUnit t .none).1 =
        (if (failedActivations os).isEmpty then .ok os
          else .error (.app (.batchFailed (failedActivations os)))) ∧
      ((registerBatch oracle now true request).runUnit t .none).2.committed = t' := by
  obtain ⟨s', hrun, hs'⟩ := enrolAll_of_ready (Session.ready_begin t)
    (Table.underway_nil ht hfits) hreports h
  obtain ⟨hanswer, hcommitted⟩ := runUnit_registerBatch_apply hchecked t .none
  rw [hrun] at hanswer hcommitted
  exact ⟨hanswer, hcommitted.trans hs'.committed⟩

end Enrolment

namespace Table

variable {t t' : Table} {oracle : Oracle} {now : Int} {device : Device} {claimed : List Int}
  {a : String} {saved : Registration} {x : Row}

/-! ### Claimed rows -/

/-- A claimed row does not make place, and it is not taken over. -/
theorem mem_vacated_of_claimed (device : Device) (a : String) (hx : x ∈ t.rows)
    (hclaimed : x.id ∈ claimed) :
    x ∈ (t.vacated device claimed a).rows :=
  mem_vacated.mpr ⟨hx, fun _ _ => hclaimed⟩

theorem id_batchRow_ne {answer : Option ActivationReport}
    (hx : x ∈ t.rows) (hclaimed : x.id ∈ claimed) :
    (t.batchRow device now claimed a answer).id ≠ x.id := by
  refine (id_ne_enrolledRow (mem_vacated_of_claimed device a hx hclaimed) fun row hchosen heq =>
    ?_).symm
  obtain ⟨-, -, hunclaimed⟩ := mem_of_chosenInBatch hchosen
  exact hunclaimed (heq ▸ hclaimed)

/-- Claimed rows stay as they are. -/
theorem mem_of_claimed (hx : x ∈ t.rows) (hclaimed : x.id ∈ claimed)
    (h : t.registeredInBatch oracle now device claimed a = .ok (saved, t')) : x ∈ t'.rows := by
  obtain ⟨answer, -, -, hrows⟩ := registeredInBatch_eq_ok h
  have hvacated := mem_vacated_of_claimed device a hx hclaimed
  exact (hrows x).mpr (.inr ⟨hvacated, (id_batchRow_ne hx hclaimed).symm⟩)

/-- Whether an activation of a batch leaves a row as it is: it is claimed, or else it is not the row
of the activation, and not a row of the device if the activation has none. -/
def Keeps (t : Table) (device : Device) (claimed : List Int) (activationId : String) (x : Row) :
    Prop :=
  x.id ∈ claimed ∨
    if t.boundTo activationId = [] then ¬ (x.appId = device.appId ∧ x.token = device.token)
    else x.activationId ≠ some activationId

theorem id_batchRow_of_none {answer : Option ActivationReport}
    (h : t.chosenInBatch device claimed a = none) :
    (t.batchRow device now claimed a answer).id = (t.vacated device claimed a).nextId := by
  rw [batchRow, id_enrolledRow, h]
  rfl

theorem id_batchRow_of_chosen {answer : Option ActivationReport}
    (h : t.chosenInBatch device claimed a = some x) :
    (t.batchRow device now claimed a answer).id = x.id := by
  rw [batchRow, id_enrolledRow, h]
  rfl

/-- Where the activation has a row, that row is taken over or stays as it is. -/
theorem keeps_iff_of_bound {answer : Option ActivationReport} {row : Row} (ht : t.Healthy)
    (hrow : t.boundTo a = [row]) (hx : x ∈ t.rows) (hclaimed : x.id ∉ claimed) :
    x ∈ (t.vacated device claimed a).rows ∧ x.id ≠ (t.batchRow device now claimed a answer).id ↔
      x.activationId ≠ some a := by
  have hcandidates : t.candidates device a = [row] := candidates_of_bound hrow
  obtain ⟨hmem, hrowa⟩ := mem_boundTo.mp (show row ∈ t.boundTo a by rw [hrow]; simp)
  have hchosen : t.chosenInBatch device claimed a = if row.id ∈ claimed then none else some row :=
    chosenInBatch_of_singleton hcandidates
  have hvacated : t.vacated device claimed a = t := vacated_of_singleton hcandidates
  by_cases hrowclaimed : row.id ∈ claimed
  · rw [if_pos hrowclaimed] at hchosen
    rw [id_batchRow_of_none hchosen, hvacated]
    refine iff_of_true ⟨hx, fun hid => ?_⟩ fun hxa => ?_
    · have := lt_nextId hx
      omega
    · rw [ht.single x hx row hmem a hxa hrowa] at hclaimed
      exact hclaimed hrowclaimed
  · rw [if_neg hrowclaimed] at hchosen
    rw [id_batchRow_of_chosen hchosen, hvacated]
    constructor
    · rintro ⟨-, hid⟩ hxa
      exact hid (congrArg Row.id (ht.single x hx row hmem a hxa hrowa))
    · intro hxa
      refine ⟨hx, fun hid => hxa ?_⟩
      rw [eq_of_id_eq hx hmem hid, hrowa]

/-- Where the activation has no row, the rows of the device are taken over or make place. -/
theorem keeps_iff_of_unbound {answer : Option ActivationReport} (hnil : t.boundTo a = [])
    (hx : x ∈ t.rows) (hclaimed : x.id ∉ claimed) :
    x ∈ (t.vacated device claimed a).rows ∧ x.id ≠ (t.batchRow device now claimed a answer).id ↔
      ¬ (x.appId = device.appId ∧ x.token = device.token) := by
  have hcandidates : t.candidates device a = t.keyedBy device.appId device.token :=
    candidates_of_unbound hnil
  have hkeyed : x.appId = device.appId ∧ x.token = device.token ↔ x ∈ t.candidates device a := by
    rw [hcandidates, mem_keyedBy]
    exact ⟨fun h => ⟨hx, h⟩, And.right⟩
  rw [hkeyed]
  constructor
  · rintro ⟨hvacated, hid⟩ hmem
    by_cases hone : (t.candidates device a).length = 1
    · obtain ⟨row, hrow⟩ := List.length_eq_one_iff.mp hone
      rw [hrow, List.mem_singleton] at hmem
      subst hmem
      have hchosen : t.chosenInBatch device claimed a = some x := by
        rw [chosenInBatch_of_singleton hrow, if_neg hclaimed]
      exact hid (id_batchRow_of_chosen hchosen).symm
    · exact hclaimed ((mem_vacated.mp hvacated).2 hmem hone)
  · intro hmem
    have hvacated : x ∈ (t.vacated device claimed a).rows :=
      mem_vacated.mpr ⟨hx, fun h => absurd h hmem⟩
    refine ⟨hvacated, fun hid => ?_⟩
    cases hchosen : t.chosenInBatch device claimed a with
    | none =>
      rw [id_batchRow_of_none hchosen] at hid
      have := lt_nextId hvacated
      omega
    | some row =>
      rw [id_batchRow_of_chosen hchosen] at hid
      obtain ⟨hrows, hrow, -⟩ := mem_of_chosenInBatch hchosen
      rw [eq_of_id_eq hx hrow hid, hrows] at hmem
      exact hmem (List.mem_singleton.mpr rfl)

/-- An activation keeps the rows that have not made place and do not have the number of its row. -/
theorem keeps_iff (ht : t.Healthy) (hx : x ∈ t.rows) (now : Int)
    (answer : Option ActivationReport) :
    t.Keeps device claimed a x ↔ x ∈ (t.vacated device claimed a).rows ∧
      x.id ≠ (t.batchRow device now claimed a answer).id := by
  rw [Keeps]
  by_cases hclaimed : x.id ∈ claimed
  · have hvacated := mem_vacated_of_claimed device a hx hclaimed
    exact iff_of_true (.inl hclaimed) ⟨hvacated, (id_batchRow_ne hx hclaimed).symm⟩
  · rw [or_iff_right hclaimed]
    rcases ht.boundTo_cases a with hnil | ⟨row, -, -, hrow⟩
    · rw [if_pos hnil]
      exact (keeps_iff_of_unbound hnil hx hclaimed).symm
    · rw [if_neg (by rw [hrow]; simp)]
      exact (keeps_iff_of_bound ht hrow hx hclaimed).symm

/-- The rows after an activation of a batch. -/
theorem mem_registeredInBatch (ht : t.Healthy)
    (h : t.registeredInBatch oracle now device claimed a = .ok (saved, t')) :
    ∃ answer, oracle a = .ok answer ∧ saved.id = some (t.batchRow device now claimed a answer).id ∧
      ∀ x, x ∈ t'.rows ↔ x = t.batchRow device now claimed a answer ∨
        x ∈ t.rows ∧ t.Keeps device claimed a x := by
  obtain ⟨answer, hanswer, hid, hrows⟩ := registeredInBatch_eq_ok h
  refine ⟨answer, hanswer, hid, fun x => (hrows x).trans (or_congr_right ?_)⟩
  by_cases hx : x ∈ t.rows
  · rw [keeps_iff ht hx now answer, and_iff_right hx]
  · exact iff_of_false (fun hvacated => hx (mem_vacated.mp hvacated.1).1) fun hmem => hx hmem.1

/-! ### When an activation fails -/

/-- A row that is written for an activation that can be bound to is bound to it. -/
theorem activationId_enrolledRow_of_admits (t : Table) (appId : Int) (device : Device) (now : Int)
    (chosen : Option Row) {answer : Option ActivationReport} (hanswer : oracle a = .ok answer)
    (hreports : oracle.ReportsAsked a) (hadmits : oracle.admits a = true) :
    (t.enrolledRow appId device now chosen answer).activationId = some a := by
  rw [Oracle.admits, hanswer] at hadmits
  cases answer with
  | none => cases hadmits
  | some report => rw [enrolledRow, Row.answered_of_canBind hadmits, hreports report hanswer]

theorem activationId_batchRow_of_admits {answer : Option ActivationReport}
    (hanswer : oracle a = .ok answer) (hreports : oracle.ReportsAsked a)
    (hadmits : oracle.admits a = true) :
    (t.batchRow device now claimed a answer).activationId = some a :=
  activationId_enrolledRow_of_admits _ _ device now _ hanswer hreports hadmits

/-- The row of an activation that cannot be bound to is bound as the row taken over is. -/
theorem activationId_batchRow_of_not_admits {answer : Option ActivationReport}
    (hanswer : oracle a = .ok answer) (hadmits : oracle.admits a = false) :
    (t.batchRow device now claimed a answer).activationId =
      (t.chosenInBatch device claimed a).bind Row.activationId := by
  rcases activationId_enrolledRow (t.vacated device claimed a) device.appId device now
    (t.chosenInBatch device claimed a) answer with hkept | ⟨report, rfl, hbind, -⟩
  · exact hkept
  · rw [Oracle.admits, hanswer] at hadmits
    cases hbind.symm.trans hadmits

/-- The index forbids the row of an activation just if the activation can be bound to and has a
claimed row. -/
theorem forbids_batchRow_iff {answer : Option ActivationReport} (ht : t.Underway device claimed)
    (hanswer : oracle a = .ok answer) (hreports : oracle.ReportsAsked a) :
    (t.vacated device claimed a).forbids (t.batchRow device now claimed a answer) = true ↔
      oracle.admits a = true ∧ ∃ x ∈ t.rows, x.activationId = some a ∧ x.id ∈ claimed := by
  rw [forbids_eq_true_iff ht.healthy.vacated.indexed]
  constructor
  · rintro ⟨x, hx, hclash⟩
    obtain ⟨hid, ⟨c, hc, hxc⟩, -⟩ := Row.clashes_eq_true_iff.mp hclash
    have hxt := (mem_vacated.mp hx).1
    cases hadmits : oracle.admits a with
    | false =>
      rw [activationId_batchRow_of_not_admits hanswer hadmits] at hc
      obtain ⟨row, hrow, hrowc⟩ := Option.bind_eq_some_iff.mp hc
      obtain ⟨-, hmem, -⟩ := mem_of_chosenInBatch hrow
      obtain rfl := ht.healthy.single row hmem x hxt c hrowc hxc
      exact absurd (id_batchRow_of_chosen hrow) hid
    | true =>
      rw [activationId_batchRow_of_admits hanswer hreports hadmits] at hc
      obtain rfl : a = c := Option.some.inj hc
      refine ⟨rfl, x, hxt, hxc, ?_⟩
      by_cases hclaimed : x.id ∈ claimed
      · exact hclaimed
      · have hchosen : t.chosenInBatch device claimed a = some x := by
          rw [chosenInBatch_of_singleton (candidates_of_bound (ht.healthy.boundTo_eq hxt hxc)),
            if_neg hclaimed]
        exact absurd (id_batchRow_of_chosen hchosen) hid
  · rintro ⟨hadmits, x, hx, hxa, hclaimed⟩
    refine ⟨x, mem_vacated_of_claimed device a hx hclaimed, ?_⟩
    refine Row.clashes_eq_true_iff.mpr ⟨?_, ⟨a, ?_, hxa⟩, ?_⟩
    · exact id_batchRow_ne hx hclaimed
    · exact activationId_batchRow_of_admits hanswer hreports hadmits
    · rw [batchRow, token_enrolledRow, (ht.claims x hx hclaimed).2]

/-- An activation is registered if it cannot be bound to or its row is not claimed. -/
theorem registeredInBatch_of_unclaimed (now : Int) (ht : t.Underway device claimed)
    (hanswers : oracle.Answers a)
    (hfree : oracle.admits a = true → ∀ x ∈ t.rows, x.activationId = some a → x.id ∉ claimed) :
    ∃ saved t', t.registeredInBatch oracle now device claimed a = .ok (saved, t') := by
  obtain ⟨answer, hanswer, hreport⟩ := hanswers
  have hadmitted : (t.vacated device claimed a).forbids (t.batchRow device now claimed a answer) =
      false := by
    rw [Bool.eq_false_iff]
    intro hforbids
    obtain ⟨hadmits, x, hx, hxa, hclaimed⟩ := (forbids_batchRow_iff ht hanswer
      (fun report h => (hreport report (Except.ok.inj (hanswer.symm.trans h))).1)).mp hforbids
    exact hfree hadmits x hx hxa hclaimed
  exact ⟨_, _, enrolled_of_admitted hanswer ht.fits.app (fun report h => (hreport report h).2)
    hadmitted⟩

/-- An activation that can be bound to fails if its row is claimed. -/
theorem registeredInBatch_of_claimed (now : Int) (ht : t.Underway device claimed)
    (hanswers : oracle.Answers a)
    (hadmits : oracle.admits a = true) (hx : x ∈ t.rows) (hxa : x.activationId = some a)
    (hclaimed : x.id ∈ claimed) :
    ∃ activationId, t.registeredInBatch oracle now device claimed a =
      .error (.app (.bindingTaken activationId)) := by
  have hreports := hanswers.reportsAsked
  obtain ⟨answer, hanswer, hreport⟩ := hanswers
  exact enrolled_of_forbidden hanswer ht.fits.app (fun report h => (hreport report h).2)
    ((forbids_batchRow_iff ht hanswer hreports).mpr ⟨hadmits, x, hx, hxa, hclaimed⟩)

end Table

end PushRegistry
