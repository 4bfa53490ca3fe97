import PushRegistry.Proofs.Enrolment.Attempts
import PushRegistry.Proofs.Enrolment.Questions

/-!
# Requests take effect wholly or not at all

Registering a device for one activation, refreshing an activation and removing a device each end
with at most one commit, and nothing happens after it. So a request that fails has committed
nothing, and what it wrote is taken back by the one rollback of its unit. This is independent of
where the failure comes from: a call of the store that fails by plan, a row that the index or a
column refuses, a row that cannot be read, the activation service, or a request that is not in
order.

The judgement `Work.Concludes` follows the order in which work is written down: steps that stay
within the transaction, then a commit as the last step, or none.

## Main definitions

* `Work.Contained`: work that commits and rolls back nothing.
* `Work.Concludes`: work that commits as its last step if at all.
* `Work.AllOrNothing`: what others see of work that runs in a unit of its own.

## Main results

* `Work.Concludes.allOrNothing`: work that concludes takes effect wholly or not at all.
* `Enrolment.requests_allOrNothing`: the same of the requests.
-/

namespace PushRegistry

namespace Work

variable {α β : Type} {work : Work α} {next : α → Work β}

/-! ### Work that stays within its transaction -/

/-- Whether work commits and rolls back nothing, however it ends. -/
def Contained (work : Work α) : Prop := ∀ s : Session, s.Within (work s).2

theorem Silent.contained (h : work.Silent) : work.Contained := fun s => (h s).within

theorem contained_record {entry : LogEntry} (h : entry.severity ≠ .error) :
    (record entry).Contained :=
  fun _ => ⟨⟨rfl, [entry], rfl, by simpa using h⟩, rfl, rfl, rfl⟩

theorem Contained.bind (hwork : work.Contained) (hnext : ∀ a, (next a).Contained) :
    (work >>= next).Contained := by
  intro s
  have hwithin := hwork s
  rw [bind_apply]
  rcases hrun : work s with ⟨e | a, s₁⟩ <;> rw [hrun] at hwithin
  · exact hwithin
  · exact hwithin.trans (hnext a s₁)

/-! ### Work that commits as its last step -/

/-- Whether work either stays within its transaction or comes to a value and has committed once,
namely what others see at its end. -/
def Concludes (work : Work α) : Prop :=
  ∀ s : Session, s.Within (work s).2 ∨
    (work s).1.isOk = true ∧ (work s).2.rollbacks = s.rollbacks ∧
      (work s).2.published = s.published ++ [(work s).2.committed]

theorem Contained.concludes (h : work.Contained) : work.Concludes := fun s => .inl (h s)

/-- What comes before the commit stays within the transaction. -/
theorem Contained.bind_concludes (hwork : work.Contained) (hnext : ∀ a, (next a).Concludes) :
    (work >>= next).Concludes := by
  intro s
  have hwithin := hwork s
  rw [bind_apply]
  rcases hrun : work s with ⟨e | a, s₁⟩ <;> rw [hrun] at hwithin
  · exact .inl hwithin
  · rcases hnext a s₁ with hstays | ⟨hok, hrollbacks, hpublished⟩
    · exact .inl (hwithin.trans hstays)
    · refine .inr ⟨hok, hrollbacks.trans hwithin.rollbacks, ?_⟩
      rw [← hwithin.published]
      exact hpublished

/-- A commit that does not get through leaves everything to the rollback. -/
theorem concludes_commit (b : β) : (commit >>= fun _ => pure b).Concludes := by
  intro s
  have hsame := silent_prepare .commit s
  rw [commit, bind_assoc, bind_apply]
  rcases hrun : prepare .commit s with ⟨e | u, s₁⟩ <;> rw [hrun] at hsame
  · exact .inl hsame.within
  · exact .inr ⟨rfl, hsame.rollbacks, congrArg (· ++ [s₁.working]) hsame.published⟩

/-! ### Units -/

/-- Whether work that runs on a table in a unit of its own takes effect wholly or not at all. If it
fails, the table is as it was and the unit was rolled back once; if it comes to a value, it has
committed at most once, and a table that differs was committed. -/
structure AllOrNothing (work : Work α) (t : Table) (plan : FaultPlan) : Prop where
  failed : ∀ e, (work.runUnit t plan).1 = .error e →
    (work.runUnit t plan).2.committed = t ∧ (work.runUnit t plan).2.commits = 0 ∧
      (work.runUnit t plan).2.rollbacks = 1
  done : ∀ a, (work.runUnit t plan).1 = .ok a →
    (work.runUnit t plan).2.commits ≤ 1 ∧ (work.runUnit t plan).2.rollbacks = 0 ∧
      ((work.runUnit t plan).2.committed ≠ t → (work.runUnit t plan).2.commits = 1)

/-- Nothing can fail after the commit, so a failure finds the table as it was. -/
theorem Concludes.allOrNothing (hwork : work.Concludes) (t : Table) (plan : FaultPlan) :
    work.AllOrNothing t plan := by
  have hcases := hwork (Session.begin t plan)
  constructor
  case failed =>
    intro e h
    rw [runUnit_fst] at h
    rw [committed_runUnit, Session.commits, published_runUnit, rollbacks_runUnit, h]
    rw [h] at hcases
    rcases hcases with hwithin | ⟨hok, -⟩
    · exact ⟨hwithin.committed, congrArg List.length hwithin.published,
        congrArg (· + 1) hwithin.rollbacks⟩
    · cases hok
  case done =>
    intro a h
    rw [runUnit_fst] at h
    rw [committed_runUnit, Session.commits, published_runUnit, rollbacks_runUnit, h]
    rcases hcases with hwithin | ⟨-, hrollbacks, hpublished⟩
    · rw [hwithin.published]
      exact ⟨Nat.zero_le 1, hwithin.rollbacks, fun hchanged => absurd hwithin.committed hchanged⟩
    · rw [hpublished]
      exact ⟨Nat.le_refl 1, hrollbacks, fun _ => rfl⟩

end Work

namespace Enrolment

open Work

/-! ### Requests -/

theorem contained_ask (oracle : Oracle) (a : String) : (ask oracle a).Contained :=
  fun _ => .of_eq rfl rfl rfl rfl rfl

/-- A binding asks and may record that nothing was bound. -/
theorem contained_bindActivation (oracle : Oracle) (r : Registration) (a : String) :
    (bindActivation oracle r a).Contained := by
  refine (contained_ask oracle a).bind fun answer => ?_
  match answer with
  | none =>
    exact (contained_record (by simp [LogEntry.severity])).bind fun _ =>
      (silent_pure r).contained
  | some report =>
    change (if report.status.canBind then pure (r.bind report) else _ : Work _).Contained
    split
    · exact (silent_pure _).contained
    · exact (contained_record (by simp [LogEntry.severity])).bind fun _ =>
        (silent_pure r).contained

theorem concludes_register (oracle : Oracle) (now : Int) (request : SingleRequest) :
    (register oracle now request).Concludes :=
  (silent_check _).contained.bind_concludes fun (device, a) =>
    (silent_chooseSingle device a now).contained.bind_concludes fun _ =>
      (contained_bindActivation oracle _ a).bind_concludes fun bound =>
        (silent_save bound).contained.bind_concludes concludes_commit

theorem contained_refreshFound (oracle : Oracle) (a : String) (rs : List Registration) :
    (refreshFound oracle a rs).Contained := by
  have hrest : (ask oracle a >>= fun report =>
      setActive (report.any (·.status.isActive)) rs).Contained :=
    (contained_ask oracle a).bind fun _ => (silent_setActive _ rs).contained
  rw [refreshFound]
  split
  · exact (contained_record (by simp [LogEntry.severity])).bind fun _ => hrest
  · exact hrest

theorem concludes_refreshActivation (oracle : Oracle) (a : String) :
    (refreshActivation oracle a).Concludes := by
  rw [refreshActivation_eq]
  refine (silent_findWhere _ _).contained.bind_concludes fun rs => ?_
  split
  · exact (silent_pure 0).contained.concludes
  · exact (contained_refreshFound oracle a rs).bind_concludes fun _ => concludes_commit rs.length

theorem concludes_refresh (oracle : Oracle) (activationId : Option String) :
    (refresh oracle activationId).Concludes :=
  (silent_check _).contained.bind_concludes (concludes_refreshActivation oracle)

theorem concludes_remove (appId : Option Int) (token : Option String) :
    (remove appId token).Concludes := by
  refine (silent_check _).contained.bind_concludes fun appId => ?_
  refine (silent_check _).contained.bind_concludes fun token => ?_
  refine (silent_findWhere _ _).contained.bind_concludes fun rs => ?_
  split
  · exact (silent_pure 0).contained.concludes
  · exact (silent_deleteAll rs).contained.bind_concludes concludes_commit

/-- Each of the three requests takes effect wholly or not at all, on every table, for all that it is
asked for, whatever the activation service answers and whichever calls of the store fail. -/
theorem requests_allOrNothing (t : Table) (plan : FaultPlan) (oracle : Oracle) (now : Int)
    (request : SingleRequest) (activationId : Option String) (appId : Option Int)
    (token : Option String) :
    (register oracle now request).AllOrNothing t plan ∧
      (refresh oracle activationId).AllOrNothing t plan ∧
      (remove appId token).AllOrNothing t plan :=
  ⟨(concludes_register oracle now request).allOrNothing t plan,
    (concludes_refresh oracle activationId).allOrNothing t plan,
    (concludes_remove appId token).allOrNothing t plan⟩

end Enrolment

end PushRegistry
