import PushRegistry.Enrolment.Batch
import PushRegistry.Enrolment.Refresh
import PushRegistry.Enrolment.Removal
import PushRegistry.Enrolment.Single
import PushRegistry.Proofs.Store.Silence

/-!
# What the activation service is asked

The calls of the store ask nothing, and so does a removal. An enrolment asks about its activation
once, and only if a registration was chosen, whether it then fails or not. A refresh asks once if
the activation has registrations.

## Main definitions

* `Work.Asks`: the questions of work, however it ends.
* `Enrolment.refreshFound`: a refresh between its lookup and its commit.

## Main results

* `Enrolment.asked_enrol`, `Enrolment.asked_enrolInBatch`: the questions of an enrolment.
* `Enrolment.asked_of_enrol`, `Enrolment.asked_of_enrolInBatch`: the same of one that is carried
  out.
* `Enrolment.asked_of_refreshActivation`: the question of a refresh.
-/

namespace PushRegistry

namespace Work

variable {α β : Type} {work : Work α} {next : α → Work β} {ids : List String}

/-- Whether work asks about some activations in order, however it ends. -/
def Asks (work : Work α) (ids : List String) : Prop :=
  ∀ s : Session, (work s).2.asked = s.asked ++ ids

/-! ### Work that asks nothing -/

theorem Asks.asked_eq (h : work.Asks []) (s : Session) : (work s).2.asked = s.asked :=
  (h s).trans (List.append_nil _)

/-- Work that stays within its transaction asks nothing. -/
theorem Silent.asks (h : work.Silent) : work.Asks [] :=
  fun s => (h s).asked.trans (List.append_nil _).symm

/-- Work asks no more if what comes after it asks nothing. -/
theorem Asks.bind (hwork : work.Asks ids) (hnext : ∀ a, (next a).Asks []) :
    (work >>= next).Asks ids := by
  intro s
  have hasked := hwork s
  rw [bind_apply]
  rcases hrun : work s with ⟨e | a, s₁⟩ <;> rw [hrun] at hasked
  · exact hasked
  · exact ((hnext a).asked_eq s₁).trans hasked

/-- What comes after work that asks nothing asks only if the work has not failed. -/
theorem Asks.asked_bind (hwork : work.Asks []) (hnext : ∀ a, (next a).Asks ids) (s : Session) :
    ((work >>= next) s).2.asked = s.asked ++ if (work s).1.isOk then ids else [] := by
  have hasked := hwork.asked_eq s
  rw [bind_apply]
  rcases hrun : work s with ⟨e | a, s₁⟩ <;> rw [hrun] at hasked
  · exact hasked.trans (List.append_nil _).symm
  · rw [← hasked]
    exact hnext a s₁

/-- Work that comes to a value has asked all that comes after its first step. -/
theorem Asks.asked_of_bind_ok (hwork : work.Asks []) (hnext : ∀ a, (next a).Asks ids)
    {s s' : Session} {b : β} (h : (work >>= next) s = (.ok b, s')) : s'.asked = s.asked ++ ids := by
  have hasked := hwork.asked_bind hnext s
  rw [h] at hasked
  rcases hrun : work s with ⟨e | a, s₁⟩
  · rw [bind_apply, hrun] at h
    cases h
  · rwa [hrun] at hasked

/-! ### Records and commits -/

theorem asks_record (entry : LogEntry) : (record entry).Asks [] :=
  fun _ => (List.append_nil _).symm

theorem asks_commit : commit.Asks [] :=
  (silent_prepare .commit).asks.bind fun _ _ => (List.append_nil _).symm

end Work

namespace Enrolment

open Work

variable {oracle : Oracle} {now : Int} {device : Device} {claimed : List Int} {a : String}

/-! ### Choices -/

theorem silent_lookup (appId : Int) (a token : String) : (lookup appId a token).Silent := by
  refine (silent_findWhere true _).bind fun rs => ?_
  match rs with
  | [] =>
    refine (silent_findWhere true _).bind fun rs' => ?_
    match rs' with
    | [] => exact silent_findWhere _ _
    | [r] => exact silent_pure [r]
    | _ :: _ :: _ => exact silent_fail _
  | [r] => exact silent_pure [r]
  | _ :: _ :: _ => exact silent_fail _

theorem silent_chooseSingle (device : Device) (a : String) (now : Int) :
    (chooseSingle device a now).Silent := by
  refine (silent_lookup device.appId a device.token).bind fun rs => ?_
  match rs with
  | [] => exact silent_pure _
  | [r] => exact silent_pure r
  | _ :: _ :: _ => exact silent_fail _

theorem asks_chooseInBatch (device : Device) (a : String) (now : Int) (claimed : List Int) :
    (chooseInBatch device a now claimed).Asks [] := by
  have hcleared : ∀ (new : Registration) (stale : List Registration),
      (if !stale.isEmpty then do
          let removed ← deleteAll stale
          record (.ambiguousRemoved removed device.appId a)
          return new
        else return new : Work Registration).Asks [] := by
    intro new stale
    split
    · exact (silent_deleteAll stale).asks.bind fun _ => (asks_record _).bind fun _ =>
        (silent_pure new).asks
    · exact (silent_pure new).asks
  refine (silent_lookup device.appId a device.token).asks.bind fun rs => ?_
  match rs with
  | [] => exact (silent_pure _).asks
  | [r] => exact (silent_pure _).asks
  | _ :: _ :: _ => exact hcleared _ _

/-! ### Enrolments -/

/-- A binding asks about its activation. -/
theorem asks_bindActivation (oracle : Oracle) (r : Registration) (a : String) :
    (bindActivation oracle r a).Asks [a] := by
  have hask : (ask oracle a).Asks [a] := fun _ => rfl
  refine hask.bind fun answer => ?_
  match answer with
  | none => exact (asks_record _).bind fun _ => (silent_pure r).asks
  | some report =>
    change (if report.status.canBind then pure (r.bind report) else _ : Work _).Asks []
    split
    · exact (silent_pure _).asks
    · exact (asks_record _).bind fun _ => (silent_pure r).asks

theorem asks_bound (oracle : Oracle) (r : Registration) (a : String) :
    (bindActivation oracle r a >>= fun bound => save bound >>= fun saved =>
      commit >>= fun _ => pure saved : Work Registration).Asks [a] :=
  (asks_bindActivation oracle r a).bind fun bound => (silent_save bound).asks.bind fun saved =>
    asks_commit.bind fun _ => (silent_pure saved).asks

/-- A request for one activation asks about it just if a registration was chosen. -/
theorem asked_enrol (oracle : Oracle) (now : Int) (device : Device) (a : String) (s : Session) :
    (enrol oracle now device a s).2.asked =
      s.asked ++ if (chooseSingle device a now s).1.isOk then [a] else [] :=
  (silent_chooseSingle device a now).asks.asked_bind (fun _ => asks_bound oracle _ a) s

/-- A batch asks about an activation just if a registration was chosen for it. -/
theorem asked_enrolInBatch (oracle : Oracle) (now : Int) (device : Device) (claimed : List Int)
    (a : String) (s : Session) :
    (enrolInBatch oracle now device claimed a s).2.asked =
      s.asked ++ if (chooseInBatch device a now claimed s).1.isOk then [a] else [] :=
  (asks_chooseInBatch device a now claimed).asked_bind (fun _ => asks_bound oracle _ a) s

/-- An enrolment that is carried out has asked about its activation. -/
theorem asked_of_enrol {s s' : Session} {saved : Registration}
    (h : enrol oracle now device a s = (.ok saved, s')) : s'.asked = s.asked ++ [a] :=
  (silent_chooseSingle device a now).asks.asked_of_bind_ok (fun _ => asks_bound oracle _ a) h

theorem asked_of_enrolInBatch {s s' : Session} {saved : Registration}
    (h : enrolInBatch oracle now device claimed a s = (.ok saved, s')) :
    s'.asked = s.asked ++ [a] :=
  (asks_chooseInBatch device a now claimed).asked_of_bind_ok (fun _ => asks_bound oracle _ a) h

/-! ### Removal -/

theorem asks_removeToken (appId : Int) (token : String) : (removeToken appId token).Asks [] := by
  refine (silent_findWhere _ _).asks.bind fun rs => ?_
  split
  · exact (silent_pure 0).asks
  · exact (silent_deleteAll rs).asks.bind fun removed => asks_commit.bind fun _ =>
      (silent_pure removed).asks

/-! ### Refreshing -/

theorem silent_setActive (isActive : Bool) (rs : List Registration) :
    (setActive isActive rs).Silent := by
  induction rs with
  | nil => exact silent_pure ()
  | cons r rs ih => exact (silent_save _).bind fun _ => ih

/-- What a refresh does with the registrations that it has found, before it commits. -/
def refreshFound (oracle : Oracle) (activationId : String) (rs : List Registration) : Work Unit := do
  if 1 < rs.length then record (.severalBound activationId rs.length)
  let report ← ask oracle activationId
  setActive (report.any (·.status.isActive)) rs

theorem refreshActivation_eq (oracle : Oracle) (a : String) :
    refreshActivation oracle a = findByActivation a >>= fun rs =>
      if rs.isEmpty then pure 0
      else refreshFound oracle a rs >>= fun _ => commit >>= fun _ => pure rs.length := by
  rw [refreshActivation]
  refine congrArg _ (funext fun rs => ?_)
  rw [refreshFound]
  split
  · rfl
  · split <;> simp only [bind_assoc]

theorem asks_refreshFound (oracle : Oracle) (a : String) (rs : List Registration) :
    (refreshFound oracle a rs).Asks [a] := by
  have hask : (ask oracle a).Asks [a] := fun _ => rfl
  have hrest : (ask oracle a >>= fun report =>
      setActive (report.any (·.status.isActive)) rs).Asks [a] :=
    hask.bind fun _ => (silent_setActive _ rs).asks
  rw [refreshFound]
  split
  · exact fun s => hrest { s with log := s.log ++ [.severalBound a rs.length] }
  · exact hrest

/-- A refresh asks about the activation, unless it has found no registrations. -/
theorem asked_of_refreshActivation {s s' : Session} {n : Nat}
    (h : refreshActivation oracle a s = (.ok n, s')) :
    n = 0 ∧ s'.asked = s.asked ∨ s'.asked = s.asked ++ [a] := by
  have hfind := (silent_findWhere true (fun row => row.activationId == some a) s).asked
  rw [refreshActivation_eq, bind_apply, findByActivation] at h
  rcases hrun : findWhere true (fun row => row.activationId == some a) s with ⟨e | rs, s₁⟩ <;>
    rw [hrun] at h hfind
  · cases h
  · rw [← show s₁.asked = s.asked from hfind]
    have h : (if rs.isEmpty then pure 0
      else refreshFound oracle a rs >>= fun _ => commit >>= fun _ => pure rs.length : Work Nat) s₁ =
        (.ok n, s') := h
    split at h
    · cases h
      exact .inl ⟨rfl, rfl⟩
    · have hasked := ((asks_refreshFound oracle a rs).bind fun _ => asks_commit.bind fun _ =>
        (silent_pure rs.length).asks) s₁
      rw [h] at hasked
      exact .inr hasked

end Enrolment

end PushRegistry
