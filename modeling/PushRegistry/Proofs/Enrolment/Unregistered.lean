import PushRegistry.Proofs.Enrolment.Course
import PushRegistry.Proofs.Enrolment.Independence
import PushRegistry.Proofs.Enrolment.Stranding

/-!
# Rows of activations that are not registered

An activation of a batch may fail although it has a row, by its own failure or by faults. Its turn
changes nothing then, but the turns of other activations may have rebound or removed its row, if it
is a row of the device: the first activation that has no row of its own takes over the only row of
the device, or all rows of the device make place for it.

So the row is left just if it is no row of the device, or all activations that were registered had
a row of their own, or the first one took it over without being bound to it.

## Main results

* `Enrolment.course_enrolAll`: the course of a batch whatever fails in it.
* `Table.Course.bound_iff`: what is left to an activation that is not registered.
* `Enrolment.registerBatch_keeps_unregistered_iff`: when a batch leaves the row of an activation
  that it does not register.
-/

namespace PushRegistry

variable {s t : Table} {oracle : Oracle} {now : Int} {device : Device} {ids done : List String}
  {written : List Row} {b : String} {x : Row}

/-- An activation that is not registered has its row in the course of a batch, just if the row is no
row of the device, or all activations that were registered had a row, or the first one took it
over. -/
theorem Table.Course.bound_iff (ht : s.Course oracle device now t written done) (hb : b ∉ done)
    (hx : x ∈ s.rows) (hxb : x.activationId = some b) :
    (∃ y ∈ t.rows, y.id = x.id ∧ y.activationId = some b) ↔
      ¬ x.Keyed device ∨ (∀ a ∈ done, s.boundTo a ≠ []) ∨
        s.takenOver oracle device done.getLast? = some x := by
  have hleft : (x.Keyed device → ∀ a ∈ done, s.boundTo a ≠ []) →
      ∃ y ∈ t.rows, y.id = x.id ∧ y.activationId = some b := fun h =>
    ⟨x, (ht.rows x).mpr (.inr ⟨hx, Row.not_boundIn hxb hb, h⟩), rfl, hxb⟩
  constructor
  · rintro ⟨y, hy, -, hyb⟩
    rcases (ht.rows y).mp hy with hwritten | ⟨hys, -, huntouched⟩
    · rcases ht.bound hwritten hyb with ⟨before, hplace, -⟩ | ⟨r, hr, hrb⟩
      · exact absurd (mem_of_mem_places hplace).1 hb
      · rw [ht.start.single x hx r (Table.mem_of_takenOver hr).1 b hxb hrb]
        exact .inr (.inr hr)
    · obtain rfl := ht.start.single y hys x hx b hyb hxb
      by_cases hkeyed : y.Keyed device
      · exact .inr (.inl (huntouched hkeyed))
      · exact .inl hkeyed
  · rintro (hkeyed | hall | htaken)
    · exact hleft fun h => absurd h hkeyed
    · exact hleft fun _ => hall
    · obtain ⟨w, hw, hid, hbound⟩ := ht.astray x htaken
      exact ⟨w, ht.mem_of_written hw, hid, hbound.trans hxb⟩

namespace Enrolment

/-- Whatever fails in it, a batch takes its course with the activations that it registers. -/
theorem course_enrolAll {sess : Session} (hs : sess.Settled)
    (ht : s.Course oracle device now sess.committed written done)
    (hreports : ∀ a ∈ ids, oracle.ReportsAsked a) (hnodup : ids.Nodup)
    (hfresh : ∀ a ∈ ids, a ∉ done) :
    ∃ later, s.Course oracle device now
      (enrolAll oracle now device (written.map Row.id) ids sess).2.committed (later ++ written)
      ((((turns oracle now device (written.map Row.id) ids sess).filter Turn.succeeded).map
        Turn.activationId).reverse ++ done) := by
  induction ids generalizing sess written done with
  | nil => exact ⟨[], ht⟩
  | cons a rest ih =>
    obtain ⟨ha, hrest⟩ := List.forall_mem_cons.mp hreports
    obtain ⟨hadone, hnodup, hfresh⟩ := fresh_of_cons hnodup hfresh
    obtain ⟨r, hattempt, -, hr⟩ :=
      exists_attempt hs ht.healthy oracle now device (written.map Row.id) a
    rcases hrun : attemptInBatch oracle now device (written.map Row.id) a sess with ⟨res, s₁⟩
    rw [hrun] at hattempt
    cases hattempt with
    | registered hresult hsettled _ =>
      have hr := (hresult ▸ hr).resolve_right nofun
      obtain ⟨w, hid, ht₁⟩ := ht.registeredInBatch ha hadone hr.symm
      obtain ⟨later, ht'⟩ := ih hsettled ht₁ hrest hnodup hfresh
      refine ⟨later ++ [w], ?_⟩
      rw [enrolAll_cons_snd_of_ok hrun, turns_cons_of_ok hrun, Outcome.registrationId?, hid,
        List.filter_cons_of_pos rfl, List.map_cons, List.reverse_cons, List.append_assoc,
        List.append_assoc]
      exact ht'
    | failed _ _ hsettled hcommitted _ _ =>
      rw [enrolAll_cons_snd_of_ok hrun, turns_cons_of_ok hrun,
        List.filter_cons_of_neg (by simp [Turn.succeeded, Outcome.succeeded])]
      exact ih hsettled (hcommitted ▸ ht) hrest hnodup fun c hc hmem =>
        hfresh c hc (List.mem_cons_of_mem a hmem)
    | aborted _ hcommitted _ =>
      rw [enrolAll_cons_of_error hrun, turns_cons_of_error hrun,
        List.filter_cons_of_neg (by simp [Turn.succeeded])]
      exact ⟨[], hcommitted ▸ ht⟩

/-- Whatever fails in a batch, an activation that it does not register has its row after it, just if
the row is no row of the device, or all activations that were registered had a row, or the first one
took the row over without being bound to it. -/
theorem registerBatch_keeps_unregistered_iff (now : Int) (plan : FaultPlan)
    {request : BatchRequest} (hchecked : request.checked = .ok (device, ids)) (ht : t.Healthy)
    (hreports : ∀ a ∈ ids, oracle.ReportsAsked a) :
    let batch := turns oracle now device [] ids (Session.begin t plan)
    let after := ((registerBatch oracle now true request).runUnit t plan).2.committed
    let registered := (batch.filter Turn.succeeded).map Turn.activationId
    ∀ b ∈ ids, b ∉ registered → ∀ x ∈ t.rows, x.activationId = some b →
      ((∃ y ∈ after.rows, y.id = x.id ∧ y.activationId = some b) ↔
        ¬ x.Keyed device ∨ (∀ a ∈ registered, t.boundTo a ≠ []) ∨
          t.takenOver oracle device registered.head? = some x) := by
  intro batch after registered b _ hb x hx hxb
  have hnil : t.Course oracle device now (Session.begin t plan).committed [] [] :=
    Table.course_nil ht
  obtain ⟨later, hcourse⟩ := course_enrolAll (Session.settled_begin t plan) hnil hreports
    (BatchRequest.nodup_of_checked hchecked) fun a _ => List.not_mem_nil
  rw [List.append_nil, List.append_nil] at hcourse
  have hafter : t.Course oracle device now after later registered.reverse := by
    rw [show after = _ from (runUnit_registerBatch_apply hchecked t plan).2]
    exact hcourse
  rw [hafter.bound_iff (by simpa using hb) hx hxb, List.getLast?_reverse]
  simp only [List.mem_reverse]

end Enrolment

/-- The only row of the token is bound to `c` although it is that of `a`, which then fails; but it
stays bound to `a` if it is taken over for `b`. -/
theorem registerBatch_keeps_unregistered_iff_single :
    let after oracle ids := ((Enrolment.registerBatch oracle 5 true (.naming ids)).runUnit .single
      .secondCommit).2.committed
    (¬ ∃ y ∈ (after .allActive ["c", "a"]).rows, y.id = 1 ∧ y.activationId = some "a") ∧
      ∃ y ∈ (after .withoutB ["b", "a"]).rows, y.id = 1 ∧ y.activationId = some "a" := by
  have hlost := Enrolment.registerBatch_keeps_unregistered_iff 5 .secondCommit
    (show (BatchRequest.naming ["c", "a"]).checked = .ok (⟨1, "T", .ios⟩, ["c", "a"]) by rfl)
    Table.healthy_single (fun a _ => Oracle.reportsAsked_allActive a) "a" (by decide)
    (by decide +kernel) ⟨1, 1, "T", "ios", some "a", none, true, 0⟩ (by decide) rfl
  have hkept := Enrolment.registerBatch_keeps_unregistered_iff 5 .secondCommit
    (show (BatchRequest.naming ["b", "a"]).checked = .ok (⟨1, "T", .ios⟩, ["b", "a"]) by rfl)
    Table.healthy_single (fun a _ => (Oracle.answers_withoutB a).reportsAsked) "a" (by decide)
    (by decide +kernel) ⟨1, 1, "T", "ios", some "a", none, true, 0⟩ (by decide) rfl
  exact ⟨(not_congr hlost).mpr (by decide +kernel), hkept.mpr (by decide +kernel)⟩

/-- The activation `a` has a row, which is bound to `c` before the service fails for `a`. -/
theorem row_of_failed_activation_lost :
    Table.single.Healthy ∧ (∀ a, (Oracle.silent "a").ReportsAsked a) ∧
      (BatchRequest.naming ["c", "a"]).checked = .ok (⟨1, "T", .ios⟩, ["c", "a"]) ∧
      let run := (Enrolment.registerBatch (.silent "a") 5 true (.naming ["c", "a"])).runUnit .single
        .none
      run.1 = .error (.app (.batchFailed ["a"])) ∧
        (∃ x ∈ Table.single.rows, x.activationId = some "a") ∧
        ¬ ∃ y ∈ run.2.committed.rows, y.activationId = some "a" := by
  refine ⟨Table.healthy_single, ?_, rfl, eq_error_of_failureOf? (by decide +kernel), by decide,
    by decide +kernel⟩
  intro a report h
  rw [Oracle.silent] at h
  split at h
  · cases h
  · exact Oracle.reportsAsked_allActive a report h

end PushRegistry
