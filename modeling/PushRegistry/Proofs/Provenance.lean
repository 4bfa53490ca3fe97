import PushRegistry.Proofs.Enrolment.Accounting
import PushRegistry.Proofs.Runs

/-!
# Where bindings come from

A row that is bound says of its activation what the activation service has answered before the row
was committed: that the activation is not removed, who its user is and, if the row is active, that
the activation is active. A row that is not bound has no user and is not active.

The answers may change from round to round and calls of the store may fail. What a row says may be
older than the last answer, but some answer has said it: a row that is bound anew takes user and
state from one answer, a refresh changes the state of the activation that it has asked about, and
what is taken back is not committed.

## Main definitions

* `Oracle.Honest`: the service reports on the activation it was asked about.
* `Oracle.answersTo`: the answers to some questions.
* `Row.VouchedBy`, `Table.Vouched`: what rows say has been answered.
* `Work.Vouches`: work that is carried out writes what it was answered.
* `Round.commits`: the tables that a round commits, each with the questions asked before.

## Main results

* `Table.Vouched.reconciled`, `Table.Vouched.reconciledInBatch`, `Table.Vouched.refreshed`: what one
  answer changes.
* `Enrolment.vouched_turns`, `Order.vouches_work`: what the turns of a batch and other orders keep.
* `Round.staysVouched`: what a round keeps.
* `history_vouched`: what a run keeps.
-/

namespace PushRegistry

/-! ### Answers -/

namespace Oracle

/-- Whether each report names the activation that was asked about, and a user that is a text or
nothing. -/
structure Honest (oracle : Oracle) : Prop where
  asked : ∀ a, oracle.ReportsAsked a
  users : ∀ a report, oracle a = .ok (some report) → report.userId.IsUser

/-- What was answered about some activations, where the service has not failed. -/
def answersTo (oracle : Oracle) (asked : List String) :
    List (String × Option ActivationReport) :=
  asked.filterMap fun a => (oracle a).toOption.map fun answer => (a, answer)

theorem mem_answersTo {oracle : Oracle} {asked : List String} {a : String}
    {answer : Option ActivationReport} :
    (a, answer) ∈ oracle.answersTo asked ↔ a ∈ asked ∧ oracle a = .ok answer := by
  rw [answersTo, List.mem_filterMap]
  constructor
  · rintro ⟨b, hb, hanswer⟩
    cases hreply : oracle b <;> rw [hreply] at hanswer <;> cases hanswer
    exact ⟨hb, hreply⟩
  · rintro ⟨hasked, hanswer⟩
    exact ⟨a, hasked, by rw [hanswer]; rfl⟩

/-- When more is asked, the answers to what was asked before stay. -/
theorem answersTo_prefix (oracle : Oracle) {asked asked' : List String} (h : asked <+: asked') :
    oracle.answersTo asked <+: oracle.answersTo asked' :=
  h.filterMap _

end Oracle

/-! ### Rows -/

namespace Row

/-- Whether answers have said what a row says of its activation: if it is bound, that the activation
is not removed and has the user of the row; if it is active, that the activation is active. -/
structure VouchedBy (row : Row) (answers : List (String × Option ActivationReport)) : Prop where
  binding : row.activationId = none ∧ row.userId = none ∧ row.isActive = false ∨
    ∃ a report, row.activationId = some a ∧ (a, some report) ∈ answers ∧
      report.status ≠ .removed ∧ report.userId = row.userId.elim .null .text
  active : row.isActive = true →
    ∃ a report, row.activationId = some a ∧ (a, some report) ∈ answers ∧ report.status = .active

variable {row : Row} {answers answers' : List (String × Option ActivationReport)}
  {oracle : Oracle} {a : String} {answer : Option ActivationReport}

theorem VouchedBy.mono (h : row.VouchedBy answers) (hsub : answers ⊆ answers') :
    row.VouchedBy answers' where
  binding := h.binding.imp_right fun ⟨a, report, ha, hmem, hreport⟩ =>
    ⟨a, report, ha, hsub hmem, hreport⟩
  active hactive := by
    obtain ⟨a, report, ha, hmem, hstatus⟩ := h.active hactive
    exact ⟨a, report, ha, hsub hmem, hstatus⟩

/-- A row that is bound is not active if its activation was never reported active, and its activation
was not always reported removed. -/
theorem VouchedBy.of_bound (h : row.VouchedBy answers) (ha : row.activationId = some a) :
    ((∀ report, (a, some report) ∈ answers → report.status ≠ .active) → row.isActive = false) ∧
      ¬ ∀ report, (a, some report) ∈ answers → report.status = .removed := by
  constructor
  · intro hnever
    cases hactive : row.isActive with
    | false => rfl
    | true =>
      obtain ⟨b, report, hb, hmem, hstatus⟩ := h.active hactive
      obtain rfl := Option.some.inj (hb.symm.trans ha)
      exact absurd hstatus (hnever report hmem)
  · intro hremoved
    rcases h.binding with ⟨hunbound, -⟩ | ⟨b, report, hb, hmem, hstatus, -⟩
    · cases ha.symm.trans hunbound
    · obtain rfl := Option.some.inj (hb.symm.trans ha)
      exact hstatus (hremoved report hmem)

/-- What a row says of its activation does not depend on its device. -/
theorem VouchedBy.heard (h : row.VouchedBy answers) (appId : Int) (device : Device) (now : Int) :
    (row.heard appId device now).VouchedBy answers :=
  ⟨h.binding, h.active⟩

/-- A row after an answer says what the answer has said, or what it said before. -/
theorem VouchedBy.answered (h : row.VouchedBy answers) (hhonest : oracle.Honest)
    (hanswer : oracle a = .ok answer) (hmem : (a, answer) ∈ answers) :
    (row.answered answer).VouchedBy answers := by
  rw [Row.answered]
  split
  · next report hreport =>
    obtain ⟨rfl, hbind⟩ := Option.filter_eq_some_iff.mp hreport
    obtain rfl := hhonest.asked a report hanswer
    have hremoved : report.status ≠ .removed := bne_iff_ne.mp hbind
    refine ⟨.inr ⟨_, report, rfl, hmem, hremoved, ?_⟩, fun hactive => ?_⟩
    · exact elim_userColumn (hhonest.users _ report hanswer)
    · exact ⟨_, report, rfl, hmem, beq_iff_eq.mp hactive⟩
  · exact h

end Row

/-! ### Tables -/

namespace Table

/-- Whether answers have said what all rows of a table say of their activations. -/
def Vouched (t : Table) (answers : List (String × Option ActivationReport)) : Prop :=
  ∀ row ∈ t.rows, row.VouchedBy answers

variable {t t' : Table} {answers answers' : List (String × Option ActivationReport)}
  {oracle : Oracle} {now : Int} {device : Device} {claimed : List Int} {a : String}
  {saved : Registration}

theorem vouched_empty (answers : List (String × Option ActivationReport)) :
    empty.Vouched answers :=
  nofun

theorem Vouched.mono (ht : t.Vouched answers) (hsub : answers ⊆ answers') : t.Vouched answers' :=
  fun row hrow => (ht row hrow).mono hsub

theorem Vouched.put {row : Row} (ht : t.Vouched answers) (hrow : row.VouchedBy answers)
    (hadmits : t.forbids row = false) : (t.put row hadmits).Vouched answers := by
  intro x hx
  rcases (mem_put hadmits).mp hx with rfl | ⟨hx, -⟩
  · exact hrow
  · exact ht x hx

/-- The row that is written says what the row chosen said, or what was answered. -/
theorem vouchedBy_enrolledRow {chosen : Option Row} {answer : Option ActivationReport}
    (appId now : Int) (device : Device)
    (hchosen : ∀ row, chosen = some row → row.VouchedBy answers) (hhonest : oracle.Honest)
    (hanswer : oracle a = .ok answer) (hmem : (a, answer) ∈ answers) :
    (t.enrolledRow appId device now chosen answer).VouchedBy answers := by
  have hstart : (t.startRow device now chosen).VouchedBy answers := by
    cases chosen with
    | none => exact ⟨.inl ⟨rfl, rfl, rfl⟩, nofun⟩
    | some row => exact hchosen row rfl
  exact (hstart.heard appId device now).answered hhonest hanswer hmem

/-- A request for one activation. -/
theorem Vouched.reconciled (ht : t.Vouched answers) (hhonest : oracle.Honest)
    (hasked : ∀ answer, oracle a = .ok answer → (a, answer) ∈ answers)
    (h : t.reconciled oracle now device a = .ok (saved, t')) : t'.Vouched answers := by
  obtain ⟨chosen, answer, hlocated, hanswer, -, hadmits, rfl⟩ := reconciled_eq_ok h
  refine ht.put (vouchedBy_enrolledRow _ now device (fun row hrow => ?_) hhonest hanswer
    (hasked answer hanswer)) hadmits
  exact ht row (mem_of_located hlocated (Option.mem_toList.mpr hrow))

/-- An activation of a batch. -/
theorem Vouched.reconciledInBatch (ht : t.Vouched answers) (hhonest : oracle.Honest)
    (hasked : ∀ answer, oracle a = .ok answer → (a, answer) ∈ answers)
    (h : t.reconciledInBatch oracle now device claimed a = .ok (saved, t')) :
    t'.Vouched answers := by
  obtain ⟨rows, t₁, answer, hlocated, hcleared, hanswer, -, hadmits, rfl⟩ :=
    reconciledInBatch_eq_ok h
  have hmem : ∀ row ∈ rows, row ∈ t.rows := fun row hrow => mem_of_located hlocated hrow
  have ht₁ : t₁.Vouched answers := fun row hrow => ht row ((mem_cleared hcleared hmem).mp hrow).1
  refine ht₁.put (vouchedBy_enrolledRow _ now device (fun row hrow => ?_) hhonest hanswer
    (hasked answer hanswer)) hadmits
  obtain ⟨rfl, -⟩ := Row.eq_singleton_of_unclaimed? hrow
  exact ht row (hmem row (List.mem_singleton.mpr rfl))

/-- A refresh changes the state of a row to that of its activation. -/
theorem Vouched.refreshed {n : Nat} (ht : t.Vouched answers)
    (hasked : n ≠ 0 → ∀ answer, oracle a = .ok answer → (a, answer) ∈ answers)
    (h : t.refreshed oracle a = .ok (n, t')) : t'.Vouched answers := by
  rcases refreshed_eq_ok h with ⟨-, rfl⟩ | ⟨rfl, answer, row, hanswer, hrow, ha, hadmits, rfl⟩
  · exact ht
  · refine ht.put ⟨?_, fun hactive => ?_⟩ hadmits
    · refine (ht row hrow).binding.imp (fun hunbound => ?_) id
      cases ha.symm.trans hunbound.1
    · cases answer with
      | none => cases hactive
      | some report =>
        exact ⟨a, report, ha, hasked Nat.one_ne_zero _ hanswer, beq_iff_eq.mp hactive⟩

theorem Vouched.removed (ht : t.Vouched answers) (appId : Int) (token : String) :
    (t.removed appId token).2.Vouched answers := by
  intro row hrow
  rw [rows_removed] at hrow
  exact ht row (List.mem_filter.mp hrow).1

end Table

/-! ### Work -/

namespace Work

variable {α β : Type} {oracle : Oracle} {t : Table}

/-- Whether work on a table that is carried out leaves a table vouched for by the answers before and
those to its own questions, if the table was vouched for by the answers before. -/
def Vouches (work : Work α) (oracle : Oracle) (t : Table) : Prop :=
  ∀ (earlier : List (String × Option ActivationReport)) (s s' : Session) (x : α), s.Settled →
    s.committed = t → t.Vouched (earlier ++ oracle.answersTo s.asked) → work s = (.ok x, s') →
      s'.committed.Vouched (earlier ++ oracle.answersTo s'.asked)

theorem vouches_fail (e : Failure) : (fail e : Work α).Vouches oracle t := by
  rintro earlier s s' x - - - ⟨⟩

theorem Vouches.discard {work : Work α} (h : work.Vouches oracle t) :
    (discard work : Work Unit).Vouches oracle t := by
  intro earlier s s' x hs ht hvouched hrun
  rw [discard_apply] at hrun
  rcases hwork : work s with ⟨e | y, s₁⟩ <;> rw [hwork] at hrun <;> cases hrun
  exact h earlier s s₁ y hs ht hvouched hwork

theorem vouches_check {check : Except AppError β} {next : β → Work α}
    (h : ∀ b, (next b).Vouches oracle t) : (Work.check check >>= next).Vouches oracle t := by
  cases check with
  | error e => exact vouches_fail (.app e)
  | ok b => exact h b

end Work

namespace Enrolment

open Work

variable {oracle : Oracle} {now : Int} {device : Device} {claimed : List Int} {a : String}
  {t : Table} {earlier : List (String × Option ActivationReport)}

/-- A table stays vouched for when more is asked. -/
theorem vouched_of_asked {asked asked' : List String}
    (ht : t.Vouched (earlier ++ oracle.answersTo asked)) (h : asked <+: asked') :
    t.Vouched (earlier ++ oracle.answersTo asked') :=
  ht.mono (List.append_subset.mpr ⟨List.subset_append_left _ _,
    List.subset_append_of_subset_right _ (oracle.answersTo_prefix h).subset⟩)

/-- The answer to the last question is one of the answers. -/
theorem mem_answers_of_last (asked : List String) {answer : Option ActivationReport}
    (h : oracle a = .ok answer) : (a, answer) ∈ earlier ++ oracle.answersTo (asked ++ [a]) :=
  List.mem_append_right _ (Oracle.mem_answersTo.mpr
    ⟨List.mem_append_right _ (List.mem_singleton.mpr rfl), h⟩)

theorem vouches_enrol (hhonest : oracle.Honest) (now : Int) (device : Device) (a : String)
    (t : Table) : (enrol oracle now device a).Vouches oracle t := by
  intro earlier s s' saved hs ht hvouched hrun
  obtain ⟨-, hresult⟩ := (settles_reconciled t oracle now device a).ok s saved s' hs ht hrun
  rw [asked_of_enrol hrun]
  exact (vouched_of_asked hvouched (List.prefix_append _ _)).reconciled hhonest
    (fun _ => mem_answers_of_last s.asked) hresult

theorem vouches_enrolInBatch (hhonest : oracle.Honest) (now : Int) (device : Device)
    (claimed : List Int) (a : String) (t : Table) :
    (enrolInBatch oracle now device claimed a).Vouches oracle t := by
  intro earlier s s' saved hs ht hvouched hrun
  obtain ⟨-, hresult⟩ :=
    (settles_reconciledInBatch t oracle now device claimed a).ok s saved s' hs ht hrun
  rw [asked_of_enrolInBatch hrun]
  exact (vouched_of_asked hvouched (List.prefix_append _ _)).reconciledInBatch hhonest
    (fun _ => mem_answers_of_last s.asked) hresult

theorem vouches_refreshActivation (ht : t.Healthy) (oracle : Oracle) (a : String) :
    (refreshActivation oracle a).Vouches oracle t := by
  intro earlier s s' n hs hcommitted hvouched hrun
  rcases settles_refreshActivation ht oracle a with hsettles | ⟨-, hsettles⟩
  · obtain ⟨-, hresult⟩ := hsettles.ok s n s' hs hcommitted hrun
    rcases asked_of_refreshActivation hrun with ⟨rfl, hasked⟩ | hasked <;> rw [hasked]
    · exact hvouched.refreshed (fun hn => absurd rfl hn) hresult
    · exact (vouched_of_asked hvouched (List.prefix_append _ _)).refreshed
        (fun _ _ => mem_answers_of_last s.asked) hresult
  · cases (hsettles.ok s n s' hs hcommitted hrun).2

theorem vouches_removeToken (ht : t.Healthy) (appId : Int) (token : String) :
    (removeToken appId token).Vouches oracle t := by
  intro earlier s s' n hs hcommitted hvouched hrun
  have hasked := (asks_removeToken appId token).asked_eq s
  rw [hrun] at hasked
  rcases settles_removeToken ht.readable appId token with hsettles | ⟨-, hsettles⟩
  · have hresult := Except.ok.inj (hsettles.ok s n s' hs hcommitted hrun).2
    have hleft : (t.removed appId token).2 = s'.committed := congrArg Prod.snd hresult
    rw [show s'.asked = s.asked from hasked, ← hleft]
    exact hvouched.removed appId token
  · cases (hsettles.ok s n s' hs hcommitted hrun).2

/-! ### Batches -/

/-- The turn of an activation of a batch. -/
theorem vouched_attemptInBatch (hhonest : oracle.Honest) {s s₁ : Session}
    {res : Except Failure Outcome} (hs : s.Settled)
    (hvouched : s.committed.Vouched (earlier ++ oracle.answersTo s.asked))
    (hrun : attemptInBatch oracle now device claimed a s = (res, s₁)) :
    s₁.committed.Vouched (earlier ++ oracle.answersTo s₁.asked) := by
  have hasked := asked_attemptInBatch oracle now device claimed a s
  rw [hrun] at hasked
  have hkept : s₁.committed = s.committed → s₁.committed.Vouched _ := fun hcommitted =>
    hcommitted ▸ vouched_of_asked hvouched ⟨_, hasked.symm⟩
  have hsettles := settles_reconciledInBatch s.committed oracle now device claimed a
  rcases attemptInBatch_cases hrun with ⟨saved, hwork, -⟩ | ⟨d, hwork, -⟩ | ⟨e, s', hwork, -, rfl⟩
  · exact vouches_enrolInBatch hhonest now device claimed a s.committed earlier s s₁ saved hs rfl
      hvouched hwork
  · exact hkept (hsettles.error s _ s₁ hs rfl hwork).1
  · exact hkept (hsettles.error s _ s' hs rfl hwork).1

/-- The turns of a batch. -/
theorem vouched_turns (hhonest : oracle.Honest) (ids : List String) {s : Session} (hs : s.Settled)
    (hvouched : s.committed.Vouched (earlier ++ oracle.answersTo s.asked)) :
    ∀ turn ∈ turns oracle now device claimed ids s,
      turn.after.committed.Vouched (earlier ++ oracle.answersTo turn.after.asked) := by
  induction ids generalizing claimed s with
  | nil => exact fun _ hturn => absurd hturn List.not_mem_nil
  | cons a rest ih =>
    rcases hrun : attemptInBatch oracle now device claimed a s with ⟨e | o, s₁⟩
    · rw [turns_cons_of_error hrun]
      exact List.forall_mem_singleton.mpr (vouched_attemptInBatch hhonest hs hvouched hrun)
    · rw [turns_cons_of_ok hrun]
      have hvouched₁ := vouched_attemptInBatch hhonest hs hvouched hrun
      exact List.forall_mem_cons.mpr
        ⟨hvouched₁, ih (settled_attemptInBatch hs hrun).1 hvouched₁⟩

/-- What has been asked after a turn of a batch has been asked after the batch. -/
theorem asked_prefix_of_mem_turns (ids : List String) {s : Session} :
    ∀ turn ∈ turns oracle now device claimed ids s,
      turn.after.asked <+: (enrolAll oracle now device claimed ids s).2.asked := by
  induction ids generalizing claimed s with
  | nil => exact fun _ hturn => absurd hturn List.not_mem_nil
  | cons a rest ih =>
    rcases hrun : attemptInBatch oracle now device claimed a s with ⟨e | o, s₁⟩
    · rw [turns_cons_of_error hrun, enrolAll_cons_of_error hrun]
      exact List.forall_mem_singleton.mpr (List.prefix_refl _)
    · rw [turns_cons_of_ok hrun, enrolAll_cons_snd_of_ok hrun]
      refine List.forall_mem_cons.mpr ⟨?_, ih⟩
      rw [asked_enrolAll]
      exact List.prefix_append _ _

/-- A batch, however it ends. -/
theorem vouched_enrolAll (hhonest : oracle.Honest) (ids : List String) {s : Session}
    (hs : s.Settled) (hvouched : s.committed.Vouched (earlier ++ oracle.answersTo s.asked)) :
    (enrolAll oracle now device claimed ids s).2.committed.Vouched
      (earlier ++ oracle.answersTo (enrolAll oracle now device claimed ids s).2.asked) := by
  rw [enrolAll_eq_turns]
  rcases hlast : (turns oracle now device claimed ids s).getLast? with _ | turn
  · exact hvouched
  · exact vouched_turns hhonest ids hs hvouched turn (List.mem_of_getLast? hlast)

/-- A batch that is not begun is refused. -/
theorem registerBatch_of_unbegun (oracle : Oracle) (now : Int) {batchesEnabled : Bool}
    {request : BatchRequest} (h : batchesEnabled = true → ∃ e, request.checked = .error e) :
    ∃ e, registerBatch oracle now batchesEnabled request = fail e := by
  cases batchesEnabled with
  | false => exact ⟨.app .batchesDisabled, rfl⟩
  | true =>
    obtain ⟨e, hchecked⟩ := h rfl
    exact ⟨.app e, registerBatch_of_unchecked hchecked⟩

end Enrolment

/-! ### Orders -/

namespace Order

open Work Enrolment

variable {oracle : Oracle} {t : Table}

/-- An order other than a batch, or a batch that is not begun. -/
theorem vouches_work (hhonest : oracle.Honest) (ht : t.Healthy) {batchesEnabled : Bool} (now : Int)
    {order : Order} (h : ∀ request, order = .batch request → batchesEnabled = true →
      ∃ e, request.checked = .error e) :
    (order.work oracle batchesEnabled now).Vouches oracle t := by
  cases order with
  | single request =>
    have hwork : (register oracle now request).Vouches oracle t :=
      vouches_check fun x => vouches_enrol hhonest now x.1 x.2 t
    exact hwork.discard
  | batch request =>
    obtain ⟨e, hrefused⟩ := registerBatch_of_unbegun oracle now (h request rfl)
    have hwork : (registerBatch oracle now batchesEnabled request).Vouches oracle t :=
      hrefused ▸ vouches_fail e
    exact hwork.discard
  | refresh value =>
    have hwork : (Enrolment.refresh oracle value).Vouches oracle t :=
      vouches_check fun a => vouches_refreshActivation ht oracle a
    exact hwork.discard
  | removal first second =>
    have hwork : (remove first second).Vouches oracle t :=
      vouches_check fun appId => vouches_check fun token => vouches_removeToken ht appId token
    exact hwork.discard

/-- Such an order is a single transaction. -/
theorem exists_settles_work (ht : t.Healthy) (oracle : Oracle) {batchesEnabled : Bool} (now : Int)
    {order : Order} (h : ∀ request, order = .batch request → batchesEnabled = true →
      ∃ e, request.checked = .error e) :
    ∃ r, (order.work oracle batchesEnabled now).Settles t r := by
  by_cases hbatch : ∃ request, order = .batch request
  · obtain ⟨request, rfl⟩ := hbatch
    obtain ⟨e, hrefused⟩ := registerBatch_of_unbegun oracle now (h request rfl)
    have hwork : (registerBatch oracle now batchesEnabled request).Settles t (.error e) :=
      hrefused ▸ (comesTo_fail e).settles_error
    exact ⟨_, hwork.discard⟩
  · have hsettles : (order.work oracle batchesEnabled now).SettlesInRange t _ :=
      Order.settles_work ht oracle now order
        (.inr fun request hrequest => hbatch ⟨request, hrequest⟩)
    exact hsettles.elim (fun h => ⟨_, h⟩) fun h => ⟨_, h⟩

end Order

/-! ### Rounds -/

namespace Round

open Work Enrolment

/-- The activations that a round has asked about, in order. -/
def asked (round : Round) (t : Table) : List String := (round.run t).2.asked

/-- The device and the activations of a batch that a round begins. -/
def batch? (round : Round) : Option (Device × List String) :=
  match round.order, round.batchesEnabled with
  | .batch request, true => request.checked.toOption
  | _, _ => none

/-- The tables that a round commits, in order, each with the activations that were asked about
before. A batch commits after each of its turns that succeeds; other work asks before it commits. -/
def commits (round : Round) (t : Table) : List (Table × List String) :=
  match round.batch? with
  | some (device, ids) =>
    ((turns round.oracle round.now device [] ids (Session.begin t round.plan)).filter
      Turn.succeeded).map fun turn => (turn.after.committed, turn.after.asked)
  | none => (round.tables t).map fun t' => (t', round.asked t)

variable {t : Table} {round : Round} {device : Device} {ids : List String}

theorem asked_eq : round.asked t =
    (round.order.work round.oracle round.batchesEnabled round.now
      (Session.begin t round.plan)).2.asked :=
  asked_runUnit _ t round.plan

theorem batch?_eq_some_iff : round.batch? = some (device, ids) ↔
    ∃ request, round.order = .batch request ∧ round.batchesEnabled = true ∧
      request.checked = .ok (device, ids) := by
  rw [batch?]
  constructor
  · intro h
    split at h
    · next request horder henabled =>
      cases hchecked : request.checked <;> rw [hchecked] at h <;> cases h
      exact ⟨request, horder, henabled, hchecked⟩
    · cases h
  · rintro ⟨request, horder, henabled, hchecked⟩
    simp only [horder, henabled, hchecked]
    rfl

/-- A batch that is not begun is not enabled or not in order. -/
theorem exists_error_of_batch?_eq_none (h : round.batch? = none) :
    ∀ request, round.order = .batch request → round.batchesEnabled = true →
      ∃ e, request.checked = .error e := by
  intro request horder henabled
  cases hchecked : request.checked with
  | error e => exact ⟨e, rfl⟩
  | ok x => cases h.symm.trans (batch?_eq_some_iff.mpr ⟨request, horder, henabled, hchecked⟩)

/-- The tables with the questions asked before are those that the round commits. -/
theorem map_fst_commits (round : Round) (t : Table) :
    (round.commits t).map Prod.fst = round.tables t := by
  rw [commits]
  rcases hbatch : round.batch? with _ | ⟨device, ids⟩
  · rw [List.map_map]
    exact List.map_id _
  · obtain ⟨request, horder, henabled, hchecked⟩ := batch?_eq_some_iff.mp hbatch
    rw [tables_eq, run_of_batch horder henabled hchecked, List.map_map]
    exact (published_enrolAll round.oracle round.now device [] ids
      (Session.settled_begin t round.plan)).symm

/-- Whether the tables of a round are vouched for by the answers before the round and those that it
has got when it commits them. -/
structure StaysVouched (round : Round) (t : Table)
    (earlier : List (String × Option ActivationReport)) : Prop where
  after : (round.after t).Vouched (earlier ++ round.oracle.answersTo (round.asked t))
  commits : ∀ x ∈ round.commits t, x.2 <+: round.asked t ∧
    x.1.Vouched (earlier ++ round.oracle.answersTo x.2)

variable {earlier : List (String × Option ActivationReport)}

theorem vouched_begin (h : t.Vouched earlier) (oracle : Oracle) (plan : FaultPlan) :
    (Session.begin t plan).committed.Vouched
      (earlier ++ oracle.answersTo (Session.begin t plan).asked) :=
  Table.Vouched.mono h (List.subset_append_left _ _)

/-- A round that begins no batch. -/
theorem staysVouched_of_single (ht : t.Healthy) (hhonest : round.oracle.Honest)
    (hvouched : t.Vouched earlier) (hbatch : round.batch? = none) :
    round.StaysVouched t earlier := by
  have hunbegun := exists_error_of_batch?_eq_none hbatch
  obtain ⟨r, hsettles⟩ := Order.exists_settles_work ht round.oracle round.now hunbegun
  have hafter : (round.after t).Vouched (earlier ++ round.oracle.answersTo (round.asked t)) := by
    rw [after_eq, asked_eq]
    rcases hrun : round.order.work round.oracle round.batchesEnabled round.now
      (Session.begin t round.plan) with ⟨e | x, s'⟩
    · -- A round that fails leaves the table that it has found.
      rw [(hsettles.error _ e s' (Session.settled_begin t round.plan) rfl hrun).1]
      exact hvouched.mono (List.subset_append_left _ _)
    · exact Order.vouches_work hhonest ht round.now hunbegun earlier _ s' x
        (Session.settled_begin t round.plan) rfl (vouched_begin hvouched _ round.plan) hrun
  refine ⟨hafter, fun x hx => ?_⟩
  rw [Round.commits, hbatch] at hx
  obtain ⟨t', ht', rfl⟩ := List.mem_map.mp hx
  refine ⟨List.prefix_refl _, ?_⟩
  rcases tables_of_settles hsettles with ⟨hnone, -⟩ | hone
  · rw [hnone] at ht'
    cases ht'
  · rw [hone, List.mem_singleton] at ht'
    exact ht' ▸ hafter

/-- A round that begins a batch. -/
theorem staysVouched_of_batch (hhonest : round.oracle.Honest) (hvouched : t.Vouched earlier)
    (hbatch : round.batch? = some (device, ids)) : round.StaysVouched t earlier := by
  obtain ⟨request, horder, henabled, hchecked⟩ := batch?_eq_some_iff.mp hbatch
  have hrun := run_of_batch (t := t) horder henabled hchecked
  have hs := Session.settled_begin t round.plan
  have hbegin := vouched_begin hvouched round.oracle round.plan
  constructor
  case after =>
    rw [after_eq, asked_eq, hrun]
    exact vouched_enrolAll hhonest ids hs hbegin
  case commits =>
    intro x hx
    rw [Round.commits, hbatch] at hx
    obtain ⟨turn, hturn, rfl⟩ := List.mem_map.mp hx
    have hturn := (List.mem_filter.mp hturn).1
    rw [asked_eq, hrun]
    exact ⟨asked_prefix_of_mem_turns ids turn hturn, vouched_turns hhonest ids hs hbegin turn hturn⟩

/-- A round keeps tables vouched for. -/
theorem staysVouched (ht : t.Healthy) (hhonest : round.oracle.Honest)
    (hvouched : t.Vouched earlier) : round.StaysVouched t earlier := by
  rcases hbatch : round.batch? with _ | ⟨device, ids⟩
  · exact staysVouched_of_single ht hhonest hvouched hbatch
  · exact staysVouched_of_batch hhonest hvouched hbatch

end Round

/-! ### Runs -/

/-- What was answered in rounds of a run. -/
def answersIn (rounds : List (Table × Round)) : List (String × Option ActivationReport) :=
  rounds.flatMap fun x => x.2.oracle.answersTo (x.2.asked x.1)

/-- Every round of a run finds a healthy table that is vouched for by the answers in the rounds
before it. -/
theorem vouched_of_history {t₀ t : Table} {earlier : List (String × Option ActivationReport)}
    (ht : t₀.Healthy) (hvouched : t₀.Vouched earlier) {rounds : List Round}
    (hhonest : ∀ round ∈ rounds, round.oracle.Honest) {before after : List (Table × Round)}
    {round : Round} (h : history t₀ rounds = before ++ (t, round) :: after) :
    round ∈ rounds ∧ t.Healthy ∧ t.Vouched (earlier ++ answersIn before) := by
  induction rounds generalizing t₀ earlier before with
  | nil => cases (List.append_eq_nil_iff.mp h.symm).2
  | cons first rest ih =>
    obtain ⟨hfirst, hrest⟩ := List.forall_mem_cons.mp hhonest
    rw [history] at h
    cases before with
    | nil =>
      cases h
      refine ⟨List.mem_cons_self, ht, ?_⟩
      rwa [answersIn, List.flatMap_nil, List.append_nil]
    | cons x before =>
      obtain ⟨rfl, hlater⟩ := List.cons.inj h
      have hafter := (Round.staysHealthy ht hfirst.asked).after
      have hvouched' := (Round.staysVouched ht hfirst hvouched).after
      obtain ⟨hmem, hhealthy, hv⟩ := ih hafter hvouched' hrest hlater
      refine ⟨List.mem_cons_of_mem _ hmem, hhealthy, ?_⟩
      -- For the rounds after the first one, its answers are earlier answers.
      rwa [answersIn, List.flatMap_cons, ← List.append_assoc]

/-- Along every run from the empty table, whatever the service answers from round to round and
whatever calls of the store fail, each table is vouched for by the answers before it was committed:
a row is not bound, without a user and not active, or it was reported that its activation is not
removed and has the user of the row; and if the row is active, that the activation is active. So no
row is active for an activation that was not reported active, and no row is bound to an activation
that was only reported removed or missing. -/
theorem history_vouched (rounds : List Round) (hhonest : ∀ round ∈ rounds, round.oracle.Honest)
    {before after : List (Table × Round)} {t : Table} {round : Round}
    (hhistory : history .empty rounds = before ++ (t, round) :: after) :
    (round.commits t).map Prod.fst = round.tables t ∧
      ∀ x ∈ round.commits t,
        let answers := answersIn before ++ round.oracle.answersTo x.2
        x.2 <+: round.asked t ∧
          ∀ row ∈ x.1.rows, row.VouchedBy answers ∧
            ∀ a, row.activationId = some a →
              ((∀ report, (a, some report) ∈ answers → report.status ≠ .active) →
                row.isActive = false) ∧
              ¬ ∀ report, (a, some report) ∈ answers → report.status = .removed := by
  obtain ⟨hmem, ht, hvouched⟩ :=
    vouched_of_history Table.healthy_empty (Table.vouched_empty []) hhonest hhistory
  have hstays := Round.staysVouched ht (hhonest round hmem) hvouched
  refine ⟨round.map_fst_commits t, fun x hx => ?_⟩
  obtain ⟨hbefore, hrows⟩ := hstays.commits x hx
  exact ⟨hbefore, fun row hrow => ⟨hrows row hrow, fun a ha => (hrows row hrow).of_bound ha⟩⟩

theorem Oracle.honest_allActive : Oracle.allActive.Honest where
  asked := reportsAsked_allActive
  users := by
    rintro a _ ⟨⟩
    exact .inl rfl

/-- In the second round the turn of `a` is lost; what the row of `a` says was answered in the first
round. -/
theorem history_vouched_plain_lossy :
    let t := (Round.plain "T" "a").after .empty
    let round := Round.lossy "U" ["a", "b"]
    (∀ round ∈ [Round.plain "T" "a", .lossy "U" ["a", "b"]], round.oracle.Honest) ∧
      (round.commits t).map (fun x => (x.1.rows, x.2)) =
        [([⟨1, 1, "T", "ios", some "a", none, true, 0⟩, ⟨2, 1, "U", "ios", some "b", none, true, 0⟩],
          ["a", "b"])] ∧
      ∀ x ∈ round.commits t, ∀ row ∈ x.1.rows,
        row.VouchedBy [("a", some ⟨"a", .active, .null⟩), ("a", some ⟨"a", .active, .null⟩),
          ("b", some ⟨"b", .active, .null⟩)] := by
  intro t round
  have hhonest : ∀ round ∈ [Round.plain "T" "a", .lossy "U" ["a", "b"]], round.oracle.Honest :=
    List.forall_mem_cons.mpr
      ⟨Oracle.honest_allActive, List.forall_mem_singleton.mpr Oracle.honest_allActive⟩
  have hcommits : (round.commits t).map (fun x => (x.1.rows, x.2)) =
      [([⟨1, 1, "T", "ios", some "a", none, true, 0⟩, ⟨2, 1, "U", "ios", some "b", none, true, 0⟩],
        ["a", "b"])] := by decide +kernel
  refine ⟨hhonest, hcommits, fun x hx row hrow => ?_⟩
  have hpair := hcommits ▸ List.mem_map_of_mem hx
  have hasked : x.2 = ["a", "b"] := congrArg Prod.snd (List.mem_singleton.mp hpair)
  have hanswers : answersIn [(.empty, .plain "T" "a")] ++ round.oracle.answersTo ["a", "b"] =
      [("a", some ⟨"a", .active, .null⟩), ("a", some ⟨"a", .active, .null⟩),
        ("b", some ⟨"b", .active, .null⟩)] := by decide +kernel
  have hhistory : history .empty [Round.plain "T" "a", .lossy "U" ["a", "b"]] =
      [(.empty, .plain "T" "a")] ++ (t, round) :: [] := rfl
  obtain ⟨-, hall⟩ := history_vouched _ hhonest hhistory
  have hvouched := ((hall x hx).2 row hrow).1
  rwa [hasked, hanswers] at hvouched

end PushRegistry
