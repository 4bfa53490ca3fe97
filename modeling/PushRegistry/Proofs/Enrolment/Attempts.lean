import PushRegistry.Proofs.Enrolment.OneRow
import PushRegistry.Proofs.Store.Units

/-!
# The activations of a batch one after the other

An activation of a batch ends in one of three ways: it is registered, it fails and its transaction
is taken back, or a defect ends the batch. On a healthy table each of them leaves a healthy table,
and so does the batch, whatever calls of the store fail.

## Main definitions

* `Session.failures`: the failures that were recorded.
* `Enrolment.Attempt`: how an activation of a batch ends.
* `Session.Sound`: sessions with healthy tables and no unexplained failure.

## Main results

* `Enrolment.attempt_of_settles`: every activation of a batch ends in one of the three ways.
* `Enrolment.sound_attemptInBatch`: what an activation keeps.
* `Enrolment.sound_enrolAll`: a batch goes from healthy table to healthy table.
-/

namespace PushRegistry

/-! ### Recorded failures -/

/-- The failure that an entry records. -/
def LogEntry.failure? : LogEntry → Option Failure
  | activationFailed _ failure => some failure
  | _ => none

/-- The failures that were recorded, in order. -/
def Session.failures (s : Session) : List Failure := s.log.filterMap LogEntry.failure?

@[simp] theorem Session.failures_begin (t : Table) (plan : FaultPlan) :
    (Session.begin t plan).failures = [] :=
  rfl

theorem LogEntry.failure?_eq_none {entry : LogEntry} (h : entry.severity ≠ .error) :
    entry.failure? = none := by
  cases entry
  case activationFailed => exact absurd rfl h
  all_goals rfl

theorem Session.Continues.failures {s s' : Session} (h : s.Continues s') :
    s'.failures = s.failures := by
  obtain ⟨notes, hlog, hnotes⟩ := h.log
  have hnone : notes.filterMap LogEntry.failure? = [] :=
    List.filterMap_eq_nil_iff.mpr fun entry hentry =>
      LogEntry.failure?_eq_none (hnotes entry hentry)
  rw [Session.failures, hlog, List.filterMap_append, hnone, List.append_nil, Session.failures]

namespace Work

variable {α : Type}

theorem failures_runUnit (work : Work α) (t : Table) (plan : FaultPlan) :
    (work.runUnit t plan).2.failures = (work (Session.begin t plan)).2.failures := by
  rw [runUnit]
  rcases work (Session.begin t plan) with ⟨_ | _, _⟩ <;> rfl

theorem Settles.failures_runUnit {work : Work α} {t : Table} {r : Except Failure (α × Table)}
    (h : work.Settles t r) (plan : FaultPlan) : (work.runUnit t plan).2.failures = [] := by
  rw [Work.failures_runUnit, (h.continues _ (Session.settled_begin t plan) rfl).failures]
  rfl

end Work

theorem Failure.Accidental.ne_defect {e : Failure} (h : e.Accidental) (d : Defect) :
    e ≠ .defect d := by
  rintro rfl
  cases h

namespace Enrolment

open Work

variable {oracle : Oracle} {now : Int} {device : Device} {claimed : List Int} {a : String}

/-! ### One activation -/

/-- How an activation of a batch ends on a session, where the table says that it comes to a
result. -/
inductive Attempt (s : Session) (activationId : String)
    (r : Except Failure (Registration × Table)) : Except Failure Outcome → Session → Prop
  | registered {saved : Registration} {s' : Session} (hresult : r = .ok (saved, s'.committed))
      (hsettled : s'.Settled) (hcontinues : s.Continues s') :
      Attempt s activationId r (.ok ⟨activationId, .ok saved.id⟩) s'
  | failed {e : Failure} {s' : Session}
      (hcause : r = .error e ∨ s.plan ≠ FaultPlan.none ∧ e.Accidental)
      (hkind : ∀ d, e ≠ .defect d) (hsettled : s'.Settled) (hcommitted : s'.committed = s.committed)
      (hplan : s'.plan = s.plan) (hfailures : s'.failures = s.failures ++ [e]) :
      Attempt s activationId r (.ok ⟨activationId, .error e⟩) s'
  | aborted {d : Defect} {s' : Session} (hcause : r = .error (.defect d))
      (hcommitted : s'.committed = s.committed) (hcontinues : s.Continues s') :
      Attempt s activationId r (.error (.defect d)) s'

theorem attemptInBatch_of_ok {s s' : Session} {saved : Registration}
    (h : enrolInBatch oracle now device claimed a s = (.ok saved, s')) :
    attemptInBatch oracle now device claimed a s = (.ok ⟨a, .ok saved.id⟩, s') := by
  simp only [attemptInBatch, outcome, bind_apply, h, pure_apply]

theorem attemptInBatch_of_defect {s s' : Session} {d : Defect}
    (h : enrolInBatch oracle now device claimed a s = (.error (.defect d), s')) :
    attemptInBatch oracle now device claimed a s = (.error (.defect d), s') := by
  simp only [attemptInBatch, outcome, bind_apply, h, fail]

/-- The session after a failure was taken back and recorded. -/
theorem attemptInBatch_of_failure {s s' : Session} {e : Failure} (hkind : ∀ d, e ≠ .defect d)
    (h : enrolInBatch oracle now device claimed a s = (.error e, s')) :
    attemptInBatch oracle now device claimed a s =
      (.ok ⟨a, .error e⟩,
        { s'.rolledBack with log := s'.log ++ [.activationFailed a e] }) := by
  cases e with
  | defect d => exact absurd rfl (hkind d)
  | app error =>
    simp only [attemptInBatch, outcome, bind_apply, h, rollback, record, update, pure_apply]
    rfl
  | store fault =>
    simp only [attemptInBatch, outcome, bind_apply, h, rollback, record, update, pure_apply]
    rfl

/-- An activation of a batch ends as its enrolment does, except that a failure is taken back and
recorded. -/
theorem attemptInBatch_cases {s s₁ : Session} {res : Except Failure Outcome}
    (h : attemptInBatch oracle now device claimed a s = (res, s₁)) :
    (∃ saved, enrolInBatch oracle now device claimed a s = (.ok saved, s₁) ∧
        res = .ok ⟨a, .ok saved.id⟩) ∨
      (∃ d, enrolInBatch oracle now device claimed a s = (.error (.defect d), s₁) ∧
        res = .error (.defect d)) ∨
      ∃ e s', enrolInBatch oracle now device claimed a s = (.error e, s') ∧
        res = .ok ⟨a, .error e⟩ ∧
        s₁ = { s'.rolledBack with log := s'.log ++ [.activationFailed a e] } := by
  rcases hrun : enrolInBatch oracle now device claimed a s with ⟨e | saved, s'⟩
  · by_cases hkind : ∃ d, e = .defect d
    · obtain ⟨d, rfl⟩ := hkind
      cases (attemptInBatch_of_defect hrun).symm.trans h
      exact .inr (.inl ⟨d, rfl, rfl⟩)
    · cases (attemptInBatch_of_failure (fun d hd => hkind ⟨d, hd⟩) hrun).symm.trans h
      exact .inr (.inr ⟨e, s', rfl, rfl, rfl⟩)
  · cases (attemptInBatch_of_ok hrun).symm.trans h
    exact .inl ⟨saved, rfl, rfl⟩

/-- An activation of a batch ends in one of the three ways. -/
theorem attempt_of_settles {s : Session} {r : Except Failure (Registration × Table)}
    (hs : s.Settled) (h : (enrolInBatch oracle now device claimed a).Settles s.committed r) :
    Attempt s a r (attemptInBatch oracle now device claimed a s).1
      (attemptInBatch oracle now device claimed a s).2 := by
  have hcontinues := h.continues s hs rfl
  rcases hrun : enrolInBatch oracle now device claimed a s with ⟨e | saved, s'⟩ <;>
    rw [hrun] at hcontinues
  · obtain ⟨hcommitted, hcause⟩ := h.error s e s' hs rfl hrun
    by_cases hkind : ∃ d, e = .defect d
    · obtain ⟨d, rfl⟩ := hkind
      rw [attemptInBatch_of_defect hrun]
      refine .aborted ?_ hcommitted hcontinues
      rcases hcause with hcause | ⟨-, hcause⟩
      · exact hcause
      · exact absurd rfl (hcause.ne_defect d)
    · have hkind : ∀ d, e ≠ .defect d := fun d hd => hkind ⟨d, hd⟩
      rw [attemptInBatch_of_failure hkind hrun]
      refine .failed hcause hkind ⟨⟨rfl, rfl⟩, rfl⟩ hcommitted hcontinues.plan ?_
      have hfailures := hcontinues.failures
      rw [Session.failures] at hfailures
      rw [Session.failures, List.filterMap_append, hfailures]
      rfl
  · obtain ⟨hsettled, hresult⟩ := h.ok s saved s' hs rfl hrun
    rw [attemptInBatch_of_ok hrun]
    exact .registered hresult hsettled hcontinues

/-- An activation of a batch commits once at most. -/
theorem publishes_attemptInBatch {s : Session} {r : Except Failure (Registration × Table)}
    (hs : s.Settled) (h : (enrolInBatch oracle now device claimed a).Settles s.committed r) :
    s.Publishes (attemptInBatch oracle now device claimed a s).2 := by
  have honce := h.once s hs rfl
  rcases hattempt : attemptInBatch oracle now device claimed a s with ⟨res, s₁⟩
  rcases attemptInBatch_cases hattempt with ⟨saved, hrun, -⟩ | ⟨d, hrun, -⟩ |
    ⟨e, s', hrun, -, rfl⟩ <;> rw [hrun] at honce <;> exact honce

/-! ### All activations -/

/-- The other activations of a batch go on with what the first one has left. -/
theorem enrolAll_cons_snd_of_ok {s s' : Session} {o : Outcome}
    (h : attemptInBatch oracle now device claimed a s = (.ok o, s')) (rest : List String) :
    (enrolAll oracle now device claimed (a :: rest) s).2 =
      (enrolAll oracle now device (o.registrationId?.toList ++ claimed) rest s').2 := by
  rw [enrolAll, bind_of_ok h, bind_apply]
  rcases enrolAll oracle now device (o.registrationId?.toList ++ claimed) rest s' with
    ⟨_ | _, _⟩ <;> rfl

/-- A defect of the first activation ends the batch. -/
theorem enrolAll_cons_of_error {s s' : Session} {e : Failure}
    (h : attemptInBatch oracle now device claimed a s = (.error e, s')) (rest : List String) :
    enrolAll oracle now device claimed (a :: rest) s = (.error e, s') := by
  rw [enrolAll, bind_of_error h]

/-- The first outcome of a batch, and the others after it. -/
theorem enrolAll_cons_eq_ok_iff {s s' : Session} {rest : List String} {os : List Outcome} :
    enrolAll oracle now device claimed (a :: rest) s = (.ok os, s') ↔
      ∃ o s₁ os₁, attemptInBatch oracle now device claimed a s = (.ok o, s₁) ∧
        enrolAll oracle now device (o.registrationId?.toList ++ claimed) rest s₁ =
          (.ok os₁, s') ∧ os = o :: os₁ := by
  constructor
  · intro h
    rcases hrun : attemptInBatch oracle now device claimed a s with ⟨e | o, s₁⟩
    · rw [enrolAll_cons_of_error hrun] at h
      cases h
    · rcases hrest : enrolAll oracle now device (o.registrationId?.toList ++ claimed) rest s₁ with
        ⟨e | os₁, s₂⟩
      · rw [enrolAll, bind_of_ok hrun, bind_of_error hrest] at h
        cases h
      · rw [enrolAll, bind_of_ok hrun, bind_of_ok hrest] at h
        cases h
        exact ⟨o, s₁, os₁, rfl, hrest, rfl⟩
  · rintro ⟨o, s₁, os₁, hrun, hrest, rfl⟩
    rw [enrolAll, bind_of_ok hrun, bind_of_ok hrest]
    rfl

/-- A batch that ends without outcomes ends with its first activation, or after it. -/
theorem enrolAll_cons_eq_error {s s' : Session} {rest : List String} {e : Failure}
    (h : enrolAll oracle now device claimed (a :: rest) s = (.error e, s')) :
    attemptInBatch oracle now device claimed a s = (.error e, s') ∨
      ∃ o s₁, attemptInBatch oracle now device claimed a s = (.ok o, s₁) ∧
        enrolAll oracle now device (o.registrationId?.toList ++ claimed) rest s₁ =
          (.error e, s') := by
  rcases hrun : attemptInBatch oracle now device claimed a s with ⟨e₁ | o, s₁⟩
  · rw [enrolAll_cons_of_error hrun] at h
    cases h
    exact .inl rfl
  · rcases hrest : enrolAll oracle now device (o.registrationId?.toList ++ claimed) rest s₁ with
      ⟨e₂ | os, s₂⟩
    · rw [enrolAll, bind_of_ok hrun, bind_of_error hrest] at h
      exact .inr ⟨o, s₁, rfl, hrest.trans h⟩
    · rw [enrolAll, bind_of_ok hrun, bind_of_ok hrest] at h
      cases h

/-- An activation that does not end with an outcome ends with a defect. -/
theorem attemptInBatch_eq_error {s s' : Session} {e : Failure}
    (h : attemptInBatch oracle now device claimed a s = (.error e, s')) : ∃ d, e = .defect d := by
  rcases attemptInBatch_cases h with ⟨_, -, hres⟩ | ⟨d, -, hres⟩ | ⟨_, _, -, hres, -⟩ <;> cases hres
  exact ⟨d, rfl⟩

/-- A batch that does not end with outcomes ends with a defect. -/
theorem enrolAll_eq_error {ids : List String} {s s' : Session} {e : Failure}
    (h : enrolAll oracle now device claimed ids s = (.error e, s')) : ∃ d, e = .defect d := by
  induction ids generalizing claimed s with
  | nil => cases h
  | cons a rest ih =>
    rcases enrolAll_cons_eq_error h with hrun | ⟨o, s₁, -, hrest⟩
    · exact attemptInBatch_eq_error hrun
    · exact ih hrest

theorem failedActivations_eq_nil_iff {os : List Outcome} :
    failedActivations os = [] ↔ ∀ o ∈ os, o.succeeded = true := by
  rw [failedActivations, List.map_eq_nil_iff, List.filter_eq_nil_iff]
  simp

/-- A request is checked, its activations are enrolled, and it fails if one of them has failed. -/
theorem registerBatch_eq_check (oracle : Oracle) (now : Int) (request : BatchRequest) :
    registerBatch oracle now true request =
      check request.checked >>= fun x => enrolAll oracle now x.1 [] x.2 >>= fun os =>
        if (failedActivations os).isEmpty then pure os
        else fail (.app (.batchFailed (failedActivations os))) :=
  rfl

/-- A request that is not in order is refused. -/
theorem registerBatch_of_unchecked {request : BatchRequest} {e : AppError}
    (h : request.checked = .error e) :
    registerBatch oracle now true request = fail (.app e) := by
  rw [registerBatch_eq_check, h]
  rfl

/-- A request that is in order enrols its device for all its activations, and fails if one of them
has failed. -/
theorem registerBatch_apply {request : BatchRequest} {ids : List String}
    (h : request.checked = .ok (device, ids)) (s : Session) :
    registerBatch oracle now true request s =
      ((enrolAll oracle now device [] ids s).1 >>= fun os =>
          if (failedActivations os).isEmpty then .ok os
          else .error (.app (.batchFailed (failedActivations os))),
        (enrolAll oracle now device [] ids s).2) := by
  rw [registerBatch_eq_check, h,
    bind_of_ok (show check (.ok (device, ids)) s = (.ok (device, ids), s) from rfl), bind_apply]
  rcases enrolAll oracle now device [] ids s with ⟨e | os, s'⟩
  · rfl
  · change (if (failedActivations os).isEmpty then pure os else fail _ : Work (List Outcome)) s' =
      (if (failedActivations os).isEmpty then .ok os else .error _, s')
    split <;> rfl

/-- What a request in order comes to, and what it leaves. -/
theorem runUnit_registerBatch_apply {request : BatchRequest} {ids : List String}
    (h : request.checked = .ok (device, ids)) (t : Table) (plan : FaultPlan) :
    ((registerBatch oracle now true request).runUnit t plan).1 =
        ((enrolAll oracle now device [] ids (Session.begin t plan)).1 >>= fun os =>
          if (failedActivations os).isEmpty then .ok os
          else .error (.app (.batchFailed (failedActivations os)))) ∧
      ((registerBatch oracle now true request).runUnit t plan).2.committed =
        (enrolAll oracle now device [] ids (Session.begin t plan)).2.committed := by
  rw [runUnit_fst, committed_runUnit, registerBatch_apply h]
  exact ⟨rfl, rfl⟩

/-- A batch that ends with outcomes gives them to the client, or complains about those that
failed. -/
theorem registerBatch_of_enrolAll {request : BatchRequest} {ids : List String} {os : List Outcome}
    {s s' : Session}
    (hchecked : request.checked = .ok (device, ids))
    (h : enrolAll oracle now device [] ids s = (.ok os, s')) :
    registerBatch oracle now true request s =
      (if failedActivations os = [] then .ok os
        else .error (.app (.batchFailed (failedActivations os))), s') := by
  rw [registerBatch_apply hchecked, h]
  cases hfailed : failedActivations os <;> simp [bind, Except.bind, hfailed]

/-- A request that succeeds has registered all its activations. -/
theorem enrolAll_of_registerBatch_eq_ok {request : BatchRequest} {ids : List String}
    {t : Table} {plan : FaultPlan} {os : List Outcome} (hchecked : request.checked = .ok (device, ids))
    (h : ((registerBatch oracle now true request).runUnit t plan).1 = .ok os) :
    (∃ s', enrolAll oracle now device [] ids (Session.begin t plan) = (.ok os, s') ∧
      s'.committed = ((registerBatch oracle now true request).runUnit t plan).2.committed) ∧
      ∀ o ∈ os, o.succeeded = true := by
  obtain ⟨hanswer, hcommitted⟩ := runUnit_registerBatch_apply hchecked t plan
  rw [hanswer] at h
  rcases hrun : enrolAll oracle now device [] ids (Session.begin t plan) with ⟨e | os', s'⟩ <;>
    rw [hrun] at h hcommitted
  · cases h
  · simp only [bind, Except.bind] at h
    split at h <;> cases h
    next hnone =>
    exact ⟨⟨s', rfl, hcommitted.symm⟩, failedActivations_eq_nil_iff.mp (List.isEmpty_iff.mp hnone)⟩

end Enrolment

/-! ### Duplicates -/

/-- The failures of a lookup that finds several rows where there should be one. -/
inductive Failure.IsDuplicate : Failure → Prop
  | binding (activationId : String) (count : Nat) :
      IsDuplicate (.app (.duplicateBinding activationId count))
  | activation (activationId : String) (count : Nat) :
      IsDuplicate (.app (.duplicateActivation activationId count))

/-- Whether a failure is no failure of a lookup that finds duplicates, unless the activation service
itself fails so. -/
def Oracle.Explains (oracle : Oracle) (e : Failure) : Prop :=
  e.IsDuplicate → ∃ a, oracle a = .error e

theorem Oracle.explains_of_accidental {oracle : Oracle} {e : Failure} (h : e.Accidental) :
    oracle.Explains e := by
  intro hduplicate
  cases h <;> cases hduplicate

theorem Oracle.explains_of_cause {oracle : Oracle} {e : Failure} {a : String}
    (h : oracle a = .error e ∨ e.Accidental ∨ ∃ d, e = .defect d) : oracle.Explains e := by
  rcases h with h | h | ⟨d, rfl⟩
  · exact fun _ => ⟨a, h⟩
  · exact explains_of_accidental h
  · rintro ⟨⟩

/-- Whether the tables of a session are healthy, and no failure that it has recorded is
unexplained. -/
structure Session.Sound (s : Session) (oracle : Oracle) : Prop where
  committed : s.committed.Healthy
  published : ∀ t ∈ s.published, t.Healthy
  failures : ∀ e ∈ s.failures, oracle.Explains e

theorem Session.sound_begin {t : Table} (ht : t.Healthy) (plan : FaultPlan) (oracle : Oracle) :
    (Session.begin t plan).Sound oracle :=
  ⟨ht, by simp [begin], by simp⟩

namespace Enrolment

variable {oracle : Oracle} {now : Int} {device : Device} {claimed : List Int} {a : String}
  {r : Except Failure (Registration × Table)}

/-- On a healthy table an activation of a batch comes to what the table says or to a defect. -/
theorem exists_attempt {s : Session} (hs : s.Settled) (ht : s.committed.Healthy) (oracle : Oracle)
    (now : Int) (device : Device) (claimed : List Int) (a : String) :
    ∃ r, Attempt s a r (attemptInBatch oracle now device claimed a s).1
        (attemptInBatch oracle now device claimed a s).2 ∧
      s.Publishes (attemptInBatch oracle now device claimed a s).2 ∧
      (r = s.committed.registeredInBatch oracle now device claimed a ∨
        r = .error (.defect .integerRange)) := by
  rcases settles_enrolInBatch ht oracle now device claimed a with h | ⟨-, h⟩
  · exact ⟨_, attempt_of_settles hs h, publishes_attemptInBatch hs h, .inl rfl⟩
  · exact ⟨_, attempt_of_settles hs h, publishes_attemptInBatch hs h, .inr rfl⟩

/-- An activation of a batch keeps a session sound, and if the batch goes on then between two
transactions and with the claimed rows claimed. -/
theorem sound_attemptInBatch (now : Int) {s : Session} (hs : s.Settled) (hsound : s.Sound oracle)
    (hclaims : s.committed.Claims device claimed) (ha : oracle.ReportsAsked a) {s₁ : Session}
    {res : Except Failure Outcome}
    (hrun : attemptInBatch oracle now device claimed a s = (res, s₁)) :
    s₁.Sound oracle ∧ ∀ o, res = .ok o →
      s₁.Settled ∧ s₁.committed.Claims device (o.registrationId?.toList ++ claimed) := by
  obtain ⟨r, hattempt, hpublishes, hr⟩ :=
    exists_attempt hs hsound.committed oracle now device claimed a
  rw [hrun] at hattempt hpublishes
  have hpublished : s₁.committed.Healthy → ∀ t ∈ s₁.published, t.Healthy :=
    hpublishes.forall_published hsound.published
  cases hattempt with
  | registered hresult hsettled hcontinues =>
    have hr := (hresult ▸ hr).resolve_right fun h => by cases h
    have ht₁ : s₁.committed.Healthy := hsound.committed.registeredInBatch ha hclaims hr.symm
    refine ⟨⟨ht₁, hpublished ht₁, ?_⟩, ?_⟩
    · rw [hcontinues.failures]
      exact hsound.failures
    · rintro o ⟨⟩
      exact ⟨hsettled, hclaims.registeredInBatch hr.symm⟩
  | failed hcause hkind hsettled hcommitted hplan hfailures =>
    have ht₁ : s₁.committed.Healthy := hcommitted ▸ hsound.committed
    refine ⟨⟨ht₁, hpublished ht₁, ?_⟩, ?_⟩
    · rw [hfailures]
      refine List.forall_mem_append.mpr ⟨hsound.failures, List.forall_mem_singleton.mpr ?_⟩
      rcases hcause with rfl | ⟨-, hcause⟩
      · rcases hr with hr | hr
        · exact Oracle.explains_of_cause (Table.enrolled_eq_error hr.symm)
        · cases hr
          exact absurd rfl (hkind _)
      · exact Oracle.explains_of_accidental hcause
    · rintro o ⟨⟩
      exact ⟨hsettled, hcommitted ▸ hclaims⟩
  | aborted hcause hcommitted hcontinues =>
    have ht₁ : s₁.committed.Healthy := hcommitted ▸ hsound.committed
    refine ⟨⟨ht₁, hpublished ht₁, ?_⟩, by rintro o ⟨⟩⟩
    rw [hcontinues.failures]
    exact hsound.failures

/-- A batch goes from healthy table to healthy table, and records no unexplained failure. -/
theorem sound_enrolAll (now : Int) (device : Device) (claimed : List Int) (ids : List String)
    {s : Session} (hs : s.Settled) (hsound : s.Sound oracle)
    (hclaims : s.committed.Claims device claimed) (hreports : ∀ a ∈ ids, oracle.ReportsAsked a) :
    (enrolAll oracle now device claimed ids s).2.Sound oracle := by
  induction ids generalizing claimed s with
  | nil => exact hsound
  | cons a rest ih =>
    obtain ⟨ha, hrest⟩ := List.forall_mem_cons.mp hreports
    rcases hrun : attemptInBatch oracle now device claimed a s with ⟨e | o, s₁⟩
    · rw [enrolAll_cons_of_error hrun]
      exact (sound_attemptInBatch now hs hsound hclaims ha hrun).1
    · rw [enrolAll_cons_snd_of_ok hrun]
      obtain ⟨hsound₁, hnext⟩ := sound_attemptInBatch now hs hsound hclaims ha hrun
      obtain ⟨hs₁, hclaims₁⟩ := hnext o rfl
      exact ih _ hs₁ hsound₁ hclaims₁ hrest

end Enrolment

end PushRegistry
