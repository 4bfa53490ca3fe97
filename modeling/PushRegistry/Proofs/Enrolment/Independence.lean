import PushRegistry.Proofs.Enrolment.BatchRun
import PushRegistry.Proofs.Enrolment.Turns

/-!
# Activations that leave no trace

Without faults, how the turn of an activation ends depends on the table and on the claimed numbers
only, and an activation that fails leaves both. So the other activations of a batch are registered
as if it had not been listed. If a defect ends a batch, what was committed is what the activations
before the defect have left.

## Main results

* `Enrolment.turn_of_ready`: how a turn ends without faults.
* `Enrolment.enrolAll_succeeded`: a batch of the activations that were registered.
* `Enrolment.exists_before_of_defect`: a batch that a defect has ended.
* `Enrolment.registerBatch_independent`: activations that failed leave no trace in the table.
-/

namespace PushRegistry

namespace Enrolment

open Work

variable {t : Table} {oracle : Oracle} {now : Int} {device : Device} {claimed : List Int}
  {a : String} {ids : List String} {os : List Outcome} {s s₀ s' : Session}

/-! ### Outcomes -/

theorem eq_of_activationId_eq {o o' : Outcome}
    (hdifferent : os.Pairwise fun o o' => o.activationId ≠ o'.activationId) (ho : o ∈ os)
    (ho' : o' ∈ os) (h : o.activationId = o'.activationId) : o = o' := by
  have hlt : os.Pairwise fun o o' => o.activationId = o'.activationId → o = o' :=
    hdifferent.imp fun hne heq => absurd heq hne
  have hgt : os.Pairwise (flip fun o o' : Outcome => o.activationId = o'.activationId → o = o') :=
    hdifferent.imp fun hne heq => absurd heq.symm hne
  exact List.Pairwise.forall_of_forall_of_flip (fun _ _ _ => rfl) hlt hgt ho ho' h

/-- Without the activations that failed, those that were registered remain. -/
theorem filter_not_mem_failedActivations (hids : os.map Outcome.activationId = ids)
    (hnodup : ids.Nodup) :
    (ids.filter fun a => a ∉ failedActivations os) =
      (os.filter Outcome.succeeded).map Outcome.activationId := by
  have hdifferent : os.Pairwise fun o o' => o.activationId ≠ o'.activationId :=
    List.pairwise_map.mp (hids ▸ hnodup)
  have hfailed : ∀ o ∈ os, o.activationId ∈ failedActivations os ↔ o.succeeded = false := by
    intro o ho
    rw [failedActivations, List.mem_map]
    constructor
    · rintro ⟨o', ho', hid⟩
      obtain ⟨ho', hfalse⟩ := List.mem_filter.mp ho'
      rw [eq_of_activationId_eq hdifferent ho ho' hid.symm]
      simpa using hfalse
    · intro hfalse
      exact ⟨o, List.mem_filter.mpr ⟨ho, by simpa using hfalse⟩, rfl⟩
  rw [← hids, List.filter_map]
  refine congrArg (List.map Outcome.activationId) (List.filter_congr fun o ho => ?_)
  simp [hfailed o ho]

/-! ### Turns without faults -/

/-- Without faults, how a turn ends depends on the table and the claimed numbers: the activation is
registered, or it fails and leaves the table, or a defect ends the batch. -/
theorem turn_of_ready (t : Table) (oracle : Oracle) (now : Int) (device : Device)
    (claimed : List Int) (a : String) :
    (∃ id t₁, ∀ s, s.Ready t → ∃ s₁, s₁.Ready t₁ ∧
        attemptInBatch oracle now device claimed a s = (.ok ⟨a, .ok id⟩, s₁)) ∨
      (∃ e, ∀ s, s.Ready t → ∃ s₁, s₁.Ready t ∧
        attemptInBatch oracle now device claimed a s = (.ok ⟨a, .error e⟩, s₁)) ∨
      ∃ d, ∀ s, s.Ready t → ∃ s₁, s₁.committed = t ∧
        attemptInBatch oracle now device claimed a s = (.error (.defect d), s₁) := by
  have hr := settles_reconciledInBatch t oracle now device claimed a
  generalize t.reconciledInBatch oracle now device claimed a = r at hr
  have hattempt : ∀ s : Session, s.Ready t →
      Attempt s a r (attemptInBatch oracle now device claimed a s).1
        (attemptInBatch oracle now device claimed a s).2 := fun s hs =>
    attempt_of_settles hs.toSettled (hs.committed ▸ hr)
  -- The result of the table decides in which of the three ways every session goes.
  rcases hresult : r with e | ⟨saved, t₁⟩
  · by_cases hkind : ∃ d, e = .defect d
    · obtain ⟨d, rfl⟩ := hkind
      refine .inr (.inr ⟨d, fun s hs => ?_⟩)
      rcases (hattempt s hs).of_ready hs with ⟨_, _, hr, -⟩ | ⟨e, hr, hkind, -⟩ |
        ⟨d', hr, hend, hcommitted⟩ <;> cases hresult.symm.trans hr
      · exact absurd rfl (hkind d)
      · exact ⟨_, hcommitted, Prod.ext hend rfl⟩
    · refine .inr (.inl ⟨e, fun s hs => ?_⟩)
      rcases (hattempt s hs).of_ready hs with ⟨_, _, hr, -⟩ | ⟨e', hr, -, hend, hready⟩ |
        ⟨d, hr, -⟩ <;> cases hresult.symm.trans hr
      · exact ⟨_, hready, Prod.ext hend rfl⟩
      · exact absurd ⟨d, rfl⟩ hkind
  · refine .inl ⟨saved.id, t₁, fun s hs => ?_⟩
    rcases (hattempt s hs).of_ready hs with ⟨saved', t', hr, hend, hready⟩ | ⟨e, hr, -⟩ |
      ⟨d, hr, -⟩ <;> cases hresult.symm.trans hr
    exact ⟨_, hready, Prod.ext hend rfl⟩

/-! ### Batches without their failures -/

/-- The activations that a batch registers are registered in the same way without the others. -/
theorem enrolAll_succeeded (hs : s.Ready t) (hs₀ : s₀.Ready t)
    (h : enrolAll oracle now device claimed ids s = (.ok os, s')) :
    ∃ s₀', s₀'.committed = s'.committed ∧
      enrolAll oracle now device claimed
          ((os.filter Outcome.succeeded).map Outcome.activationId) s₀ =
        (.ok (os.filter Outcome.succeeded), s₀') := by
  induction ids generalizing t claimed s s₀ os with
  | nil =>
    cases h
    exact ⟨s₀, hs₀.committed.trans hs.committed.symm, rfl⟩
  | cons a rest ih =>
    obtain ⟨o, s₁, os₁, hrun, hrest, rfl⟩ := enrolAll_cons_eq_ok_iff.mp h
    rcases turn_of_ready t oracle now device claimed a with
      ⟨id, t₁, hturn⟩ | ⟨e, hturn⟩ | ⟨d, hturn⟩
    · obtain ⟨s₁', hs₁, hrun'⟩ := hturn s hs
      cases hrun.symm.trans hrun'
      obtain ⟨s₀₁, hs₀₁, hrun₀⟩ := hturn s₀ hs₀
      obtain ⟨s₀', hcommitted, hlater⟩ := ih hs₁ hs₀₁ hrest
      refine ⟨s₀', hcommitted, ?_⟩
      rw [List.filter_cons_of_pos rfl, List.map_cons]
      exact enrolAll_cons_eq_ok_iff.mpr ⟨_, s₀₁, _, hrun₀, hlater, rfl⟩
    · obtain ⟨s₁', hs₁, hrun'⟩ := hturn s hs
      cases hrun.symm.trans hrun'
      rw [List.filter_cons_of_neg (by simp [Outcome.succeeded])]
      exact ih hs₁ hs₀ hrest
    · obtain ⟨s₁', -, hrun'⟩ := hturn s hs
      cases hrun.symm.trans hrun'

/-- A batch that a defect ends has committed what the activations before the defect leave. -/
theorem exists_before_of_defect (hs : s.Settled) {e : Failure}
    (h : enrolAll oracle now device claimed ids s = (.error e, s')) :
    ∃ before a after, ids = before ++ a :: after ∧
      (turns oracle now device claimed ids s).map Turn.activationId = before ++ [a] ∧
      (enrolAll oracle now device claimed before s).2.committed = s'.committed := by
  induction ids generalizing claimed s with
  | nil => cases h
  | cons a rest ih =>
    rcases enrolAll_cons_eq_error h with hrun | ⟨o, s₁, hrun, hrest⟩
    · refine ⟨[], a, rest, rfl, by rw [turns_cons_of_error hrun]; rfl, ?_⟩
      rcases turn_cases hs hrun with ⟨row, hresult, -⟩ | ⟨hcommitted, -⟩
      · cases hresult
      · exact hcommitted.symm
    · obtain ⟨hs₁, -⟩ := settled_attemptInBatch hs hrun
      obtain ⟨before, b, after, rfl, hturns, hcommitted⟩ := ih hs₁ hrest
      refine ⟨a :: before, b, after, rfl, ?_, ?_⟩
      · rw [turns_cons_of_ok hrun, List.map_cons, hturns]
        rfl
      · rw [enrolAll_cons_snd_of_ok hrun, hcommitted]

/-- The outcomes of a batch that come to an answer, and those that the answer complains about. -/
theorem exists_failed_of_answer {r : Except Failure (List Outcome)} {failed : List String}
    (hr : r = if (failedActivations os).isEmpty then .ok os
      else .error (.app (.batchFailed (failedActivations os))))
    (h : (failed = [] ∧ ∃ os', r = .ok os') ∨ r = .error (.app (.batchFailed failed))) :
    failed = failedActivations os := by
  by_cases hempty : (failedActivations os).isEmpty = true
  · rw [if_pos hempty] at hr
    rcases h with ⟨rfl, -⟩ | h
    · exact (List.isEmpty_iff.mp hempty).symm
    · cases hr.symm.trans h
  · rw [if_neg hempty] at hr
    rcases h with ⟨-, os', h⟩ | h
    · cases hr.symm.trans h
    · cases hr.symm.trans h
      rfl

/-- A batch is a sequence of transactions of which those that fail leave no trace. Without the
activations that failed, the same registrations are made and the same table is left; a batch that
ends with a defect leaves what the activations before the defect leave. -/
theorem registerBatch_independent (oracle : Oracle) (now : Int) (t : Table)
    {request : BatchRequest} (hchecked : request.checked = .ok (device, ids)) :
    let run := (registerBatch oracle now true request).runUnit t .none
    let alone kept := (registerBatch oracle now true (request.narrowed kept)).runUnit t .none
    let batch := turns oracle now device [] ids (Session.begin t .none)
    let outcomes := batch.filterMap Turn.outcome?
    (∀ os, run.1 = .ok os → os = outcomes) ∧
      (∀ failed, (failed = [] ∧ ∃ os, run.1 = .ok os) ∨
          run.1 = .error (.app (.batchFailed failed)) →
        let kept := ids.filter fun a => a ∉ failed
        (kept = [] → run.2.committed = t) ∧
          (kept ≠ [] → (alone kept).1 = .ok (outcomes.filter Outcome.succeeded) ∧
            (outcomes.filter Outcome.succeeded).map Outcome.activationId = kept ∧
            (alone kept).2.committed = run.2.committed)) ∧
      ∀ e, run.1 = .error e → (∀ failed, e ≠ .app (.batchFailed failed)) →
        ∃ before a after, ids = before ++ a :: after ∧
          batch.map Turn.activationId = before ++ [a] ∧
          (before = [] → run.2.committed = t) ∧
          (before ≠ [] → (alone before).2.committed = run.2.committed) := by
  intro run alone batch outcomes
  have hs := Session.ready_begin t
  have hrun : run.1 = _ ∧ run.2.committed = _ := runUnit_registerBatch_apply hchecked t .none
  have halone : ∀ kept, kept.Sublist ids → kept ≠ [] →
      (alone kept).1 = _ ∧ (alone kept).2.committed = _ := fun kept hkept hne =>
    runUnit_registerBatch_apply (BatchRequest.checked_narrowed hchecked hkept hne) t .none
  rcases henrol : enrolAll oracle now device [] ids (Session.begin t .none) with ⟨e | os, s'⟩ <;>
    rw [henrol] at hrun
  · have hresult : run.1 = .error e := hrun.1
    obtain ⟨d, rfl⟩ := enrolAll_eq_error henrol
    refine ⟨fun os h => ?_, fun failed h => ?_, fun e _ _ => ?_⟩
    · cases hresult.symm.trans h
    · rcases h with ⟨-, os, h⟩ | h <;> cases hresult.symm.trans h
    · obtain ⟨before, a, after, hids, hturns, hcommitted⟩ :=
        exists_before_of_defect hs.toSettled henrol
      refine ⟨before, a, after, hids, hturns, ?_, fun hne => ?_⟩
      · rintro rfl
        exact hrun.2.trans hcommitted.symm
      · have hsublist : before.Sublist ids := hids ▸ List.sublist_append_left before (a :: after)
        exact (halone before hsublist hne).2.trans (hcommitted.trans hrun.2.symm)
  · have houtcomes : outcomes = os := by
      rw [enrolAll_eq_turns] at henrol
      exact Turn.filterMap_outcome? (Prod.mk.inj henrol).1
    have hresult : run.1 = if (failedActivations os).isEmpty then .ok os
        else .error (.app (.batchFailed (failedActivations os))) := hrun.1
    refine ⟨fun os' h => ?_, fun failed h => ?_, fun e h hother => ?_⟩
    · rw [houtcomes]
      split at hresult
      · exact Except.ok.inj (h.symm.trans hresult)
      · cases hresult.symm.trans h
    · obtain rfl := exists_failed_of_answer hresult h
      intro kept
      have hkept : kept = (os.filter Outcome.succeeded).map Outcome.activationId :=
        filter_not_mem_failedActivations (activationId_enrolAll hs.toSettled henrol)
          (BatchRequest.nodup_of_checked hchecked)
      obtain ⟨s₀', hcommitted, hsucceeded⟩ := enrolAll_succeeded hs hs henrol
      rw [← hkept] at hsucceeded
      rw [houtcomes]
      refine ⟨fun hnil => ?_, fun hne => ?_⟩
      · rw [hnil] at hsucceeded
        obtain ⟨-, rfl⟩ := Prod.mk.inj hsucceeded
        exact hrun.2.trans hcommitted.symm
      · obtain ⟨hanswer, hleft⟩ := halone kept List.filter_sublist hne
        rw [hsucceeded] at hanswer hleft
        have hnone : failedActivations (os.filter Outcome.succeeded) = [] :=
          failedActivations_eq_nil_iff.mpr fun o ho => (List.mem_filter.mp ho).2
        refine ⟨?_, hkept.symm, hleft.trans (hcommitted.trans hrun.2.symm)⟩
        refine hanswer.trans ?_
        change (if (failedActivations (os.filter Outcome.succeeded)).isEmpty then _ else _) = _
        rw [hnone]
        rfl
    · split at hresult
      · cases hresult.symm.trans h
      · cases hresult.symm.trans h
        exact absurd rfl (hother _)

end Enrolment

/-! ### A batch with a failure and a defect -/

/-- The service that cannot be reached about one activation and reports all others active. -/
def Oracle.silent (activationId : String) : Oracle := fun a =>
  if a = activationId then .error (.app .serviceUnreachable) else Oracle.allActive a

/-- A table without its index, with two rows of the token `T`, and with a row of `d` whose platform
has no name. -/
def Table.legacy : Table where
  rows := [⟨1, 1, "T", "ios", none, none, true, 0⟩, ⟨2, 1, "T", "ios", some "a", none, false, 0⟩,
    ⟨3, 2, "U", "palm", some "d", none, true, 0⟩]
  indexed := false
  ordered := by decide
  unique := by decide

/-- A request to register a device of the token `T` for some activations. -/
def BatchRequest.naming (ids : List String) : BatchRequest :=
  ⟨some 1, some "T", some "ios", some (ids.map some)⟩

/-- The activation `b` fails after the rows of the token have made place for it, and they are there
again for `a`; then the row of `d` cannot be read. -/
theorem registerBatch_independent_legacy :
    let run ids := (Enrolment.registerBatch (.silent "b") 5 true (.naming ids)).runUnit .legacy
      .none
    (run ["b", "a"]).1 = .error (.app (.batchFailed ["b"])) ∧
      (run ["b", "a"]).2.committed ≠ .legacy ∧
      (run ["a"]).2.committed = (run ["b", "a"]).2.committed ∧
      (run ["b", "a", "d"]).1 = .error (.defect (.unknownPlatform "palm")) ∧
      (run ["b", "a"]).2.committed = (run ["b", "a", "d"]).2.committed := by
  intro run
  have hfailed : (run ["b", "a"]).1 = .error (.app (.batchFailed ["b"])) :=
    eq_error_of_failureOf? (by decide +kernel)
  have haborted : (run ["b", "a", "d"]).1 = .error (.defect (.unknownPlatform "palm")) :=
    eq_error_of_failureOf? (by decide +kernel)
  have hbatch : (Enrolment.turns (.silent "b") 5 ⟨1, "T", .ios⟩ [] ["b", "a", "d"]
      (Session.begin .legacy .none)).map Turn.activationId = ["b", "a", "d"] := by
    decide +kernel
  obtain ⟨-, hnarrow, -⟩ := Enrolment.registerBatch_independent (.silent "b") 5 .legacy
    (show (BatchRequest.naming ["b", "a"]).checked = .ok (⟨1, "T", .ios⟩, ["b", "a"]) by rfl)
  obtain ⟨-, -, hbefore⟩ := Enrolment.registerBatch_independent (.silent "b") 5 .legacy
    (show (BatchRequest.naming ["b", "a", "d"]).checked =
      .ok (⟨1, "T", .ios⟩, ["b", "a", "d"]) by rfl)
  obtain ⟨-, -, hsame⟩ := (hnarrow ["b"] (.inr hfailed)).2 (by decide)
  obtain ⟨before, a, after, -, hturns, -, hleft⟩ := hbefore _ haborted nofun
  obtain rfl : before = ["b", "a"] :=
    List.dropLast_concat.symm.trans (congrArg List.dropLast (hturns.symm.trans hbatch))
  exact ⟨hfailed, by decide +kernel, hsame, haborted, hleft (by decide)⟩

end PushRegistry
