import PushRegistry.Proofs.Enrolment.Course

/-!
# What a batch leaves

Without faults, and if all activations of a batch can be bound to, the table after the batch is
determined by the table before it, up to the numbers of its rows: each activation has one row, rows
of other devices and activations stay, and the other rows of the device stay only if all
activations had a row before. In the course of the batch, the rows of the device that are not
claimed disappear with the first activation that has no row. The order of the activations plays
no part.

A second batch finds a row for each activation and writes it again, so it changes nothing but
times.

## Main definitions

* `Oracle.Knows`: the answers by which all activations can be bound to.
* `Table.batchForm`: the rows after a batch without their numbers.
* `Table.Formed`: a table in the course of a batch.
* `Table.Renewed`: a table in the course of a second batch.

## Main results

* `Table.Formed.registeredInBatch`, `Table.Formed.enrolledAll`: a step of a batch, and all steps.
* `Table.Renewed.registeredInBatch`, `Table.Renewed.enrolledAll`: the same of a second batch.
* `Enrolment.registerBatch_form`: the table after a batch, whatever the order, and after a second.
-/

namespace PushRegistry

/-! ### Rows without numbers -/

/-- A row without its number. -/
def Row.unnumbered (row : Row) : Row := { row with id := 0 }

/-- A row is determined by its number and the rest of it. -/
theorem Row.eq_of_unnumbered {x y : Row} (hid : x.id = y.id) (h : x.unnumbered = y.unnumbered) :
    x = y := by
  calc
    x = { x.unnumbered with id := x.id } := rfl
    _ = { y.unnumbered with id := y.id } := by rw [hid, h]

/-- The row of a device that is bound as a report says, without its number. -/
def ActivationReport.row (report : ActivationReport) (device : Device) (now : Int) : Row where
  id := 0
  appId := device.appId
  token := device.token
  platform := device.platform.name
  activationId := some report.activationId
  userId := userColumn report.userId
  isActive := report.status.isActive
  timestamp := now

/-- A row that is written again, if it is bound to one of some activations. -/
def Row.renewed (now : Int) (ids : List String) (row : Row) : Row :=
  if row.BoundIn ids then { row with timestamp := now } else row

theorem Row.renewed_congr {now : Int} {ids ids' : List String} {x : Row}
    (h : x.BoundIn ids ↔ x.BoundIn ids') : x.renewed now ids = x.renewed now ids' := by
  rw [renewed, renewed]
  simp only [h]

/-- Whether the service reports about an activation, under its name, that it is not removed, and
with a user that has a form in the table. -/
structure Oracle.Knows (oracle : Oracle) (report : String → ActivationReport)
    (activationId : String) : Prop where
  answer : oracle activationId = .ok (some (report activationId))
  asked : (report activationId).activationId = activationId
  status : (report activationId).status ≠ .removed
  user : (report activationId).userId.IsUser

theorem ActivationStatus.canBind_of_ne {status : ActivationStatus} (h : status ≠ .removed) :
    status.canBind = true := by
  cases status
  case removed => exact absurd rfl h
  all_goals rfl

theorem Oracle.Knows.answers {oracle : Oracle} {report : String → ActivationReport} {a : String}
    (h : oracle.Knows report a) : oracle.Answers a := by
  refine ⟨some (report a), h.answer, ?_⟩
  rintro r ⟨⟩
  exact ⟨h.asked, h.user⟩

namespace Table

/-- The rows that a batch leaves as they are: those that are neither bound to one of its activations
nor keyed by the device, and the others that are not bound to one of them, if all activations had a
row before. -/
def spared (t : Table) (device : Device) (ids : List String) : List Row :=
  (t.rows.filter fun x => ¬ x.BoundIn ids ∧ ¬ x.Keyed device) ++
    if ∀ a ∈ ids, t.boundTo a ≠ [] then t.rows.filter fun x => ¬ x.BoundIn ids ∧ x.Keyed device
    else []

/-- The rows after a batch without their numbers: those of its activations, and those that are
spared. -/
def batchForm (t : Table) (report : String → ActivationReport) (device : Device) (now : Int)
    (ids : List String) : List Row :=
  ids.map (fun a => (report a).row device now) ++ (t.spared device ids).map Row.unnumbered

variable {s t t' : Table} {oracle : Oracle} {report : String → ActivationReport} {now : Int}
  {device : Device} {claimed : List Int} {done rest ids : List String} {a : String}
  {saved : Registration} {x : Row} {written : List Row}

/-- The row of an activation that can be bound to is determined up to its number. -/
theorem unnumbered_batchRow (h : oracle.Knows report a) :
    (t.batchRow device now claimed a (some (report a))).unnumbered = (report a).row device now := by
  rw [batchRow, enrolledRow, Row.answered_of_canBind (ActivationStatus.canBind_of_ne h.status)]
  rfl

theorem activationId_of_unnumbered (h : oracle.Knows report a)
    (hx : x.unnumbered = (report a).row device now) : x.activationId = some a := by
  have hact : x.unnumbered.activationId = ((report a).row device now).activationId :=
    congrArg Row.activationId hx
  rw [ActivationReport.row, h.asked] at hact
  exact hact

/-! ### The course of a batch -/

/-- A table in the course of a batch that began with another table: it consists of the rows written
for the activations that are done and the rows that are untouched. -/
structure Formed (s : Table) (oracle : Oracle) (report : String → ActivationReport)
    (device : Device) (now : Int) (t : Table) (written : List Row) (done : List String) : Prop
    extends Underway t device (written.map Row.id) where
  knows : ∀ a ∈ done, oracle.Knows report a
  form : written.map Row.unnumbered = done.map fun a => (report a).row device now
  rows : ∀ x, x ∈ t.rows ↔ x ∈ written ∨ x ∈ s.rows ∧ s.Untouched device done x

theorem formed_nil (hs : s.Underway device []) :
    s.Formed oracle report device now s [] [] where
  toUnderway := hs
  knows := by simp
  form := rfl
  rows x := by simp [Untouched, Row.BoundIn]

theorem Formed.boundIn (ht : s.Formed oracle report device now t written done)
    (hx : x ∈ written) : x.BoundIn done := by
  have hmem : x.unnumbered ∈ written.map Row.unnumbered := List.mem_map.mpr ⟨x, hx, rfl⟩
  rw [ht.form] at hmem
  obtain ⟨a, ha, heq⟩ := List.mem_map.mp hmem
  exact ⟨a, ha, activationId_of_unnumbered (ht.knows a ha) heq.symm⟩

theorem Formed.mem_written (ht : s.Formed oracle report device now t written done)
    (hx : x ∈ t.rows) (hclaimed : x.id ∈ written.map Row.id) : x ∈ written := by
  obtain ⟨y, hy, hid⟩ := List.mem_map.mp hclaimed
  exact eq_of_id_eq ((ht.rows y).mpr (.inl hy)) hx hid ▸ hy

/-- An activation keeps an untouched row just if the row is still untouched after it. -/
theorem Formed.keeps_iff (hs : s.Healthy) (ht : s.Formed oracle report device now t written done)
    (ha : a ∉ done) (hx : x ∈ s.rows) (huntouched : s.Untouched device done x) :
    t.Keeps device (written.map Row.id) a x ↔ s.Untouched device (a :: done) x := by
  have hleft : ∀ y ∈ s.rows, s.Untouched device done y → y ∈ t.rows := fun y hy h =>
    (ht.rows y).mpr (.inr ⟨hy, h⟩)
  refine keeps_untouched_iff hs ha hleft (fun h => ?_) hx huntouched fun hclaimed => ?_
  · refine boundTo_eq_nil_iff.mpr fun r hr hra => ?_
    rcases (ht.rows r).mp hr with hwritten | ⟨hrs, -⟩
    · exact Row.not_boundIn hra ha (ht.boundIn hwritten)
    · exact boundTo_eq_nil_iff.mp h r hrs hra
  · exact huntouched.1 (ht.boundIn (ht.mem_written (hleft x hx huntouched) hclaimed))

/-- An activation of a batch writes its row and leaves those that stay untouched. -/
theorem Formed.registeredInBatch (hs : s.Healthy)
    (ht : s.Formed oracle report device now t written done) (hknows : oracle.Knows report a)
    (ha : a ∉ done) :
    ∃ w saved t', t.registeredInBatch oracle now device (written.map Row.id) a = .ok (saved, t') ∧
      saved.id = some w.id ∧ w.activationId = some a ∧
      s.Formed oracle report device now t' (w :: written) (a :: done) := by
  obtain ⟨saved, t', hresult⟩ := registeredInBatch_of_unclaimed now ht.toUnderway hknows.answers
    fun _ x hx hxa hclaimed =>
      Row.not_boundIn hxa ha (ht.boundIn (ht.mem_written hx hclaimed))
  obtain ⟨answer, hanswer, hid, hrows⟩ := mem_registeredInBatch ht.healthy hresult
  obtain rfl : some (report a) = answer := Except.ok.inj (hknows.answer.symm.trans hanswer)
  have hunderway := ht.toUnderway.registeredInBatch hknows.answers.reportsAsked hresult
  rw [hid] at hunderway
  have hform : (t.batchRow device now (written.map Row.id) a (some (report a))).unnumbered =
      (report a).row device now := unnumbered_batchRow hknows
  refine ⟨_, saved, t', hresult, hid, activationId_of_unnumbered hknows hform, ?_⟩
  refine { toUnderway := hunderway, knows := ?_, form := ?_, rows := fun x => ?_ }
  · exact List.forall_mem_cons.mpr ⟨hknows, ht.knows⟩
  · rw [List.map_cons, List.map_cons, hform, ht.form]
  · exact (hrows x).trans (mem_of_keeps ht.rows fun _ => ht.keeps_iff hs ha)

/-- The activations of a batch that remain are registered, each under the number of its row. -/
theorem Formed.enrolledAll (hs : s.Healthy)
    (ht : s.Formed oracle report device now t written done)
    (hknows : ∀ a ∈ rest, oracle.Knows report a) (hnodup : rest.Nodup)
    (hfresh : ∀ a ∈ rest, a ∉ done) :
    ∃ os t' later, t.enrolledAll oracle now device (written.map Row.id) rest = .ok (os, t') ∧
      s.Formed oracle report device now t' (later ++ written) (rest.reverse ++ done) ∧
      os.map Outcome.activationId = rest ∧
      ∀ o ∈ os, ∃ x ∈ later, x.activationId = some o.activationId ∧ o.result = .ok (some x.id) := by
  induction rest generalizing t written done with
  | nil => exact ⟨[], t, [], rfl, ht, rfl, by simp⟩
  | cons a rest ih =>
    obtain ⟨ha, hrest⟩ := List.forall_mem_cons.mp hknows
    obtain ⟨hadone, hnodup, hfresh⟩ := fresh_of_cons hnodup hfresh
    obtain ⟨w, saved, t₁, hresult, hid, hwa, ht₁⟩ := ht.registeredInBatch hs ha hadone
    obtain ⟨os, t', later, hos, ht', hids, hlater⟩ := ih ht₁ hrest hnodup hfresh
    refine ⟨⟨a, .ok saved.id⟩ :: os, t', later ++ [w], ?_, ?_, ?_, ?_⟩
    · refine enrolledAll_cons_eq_ok.mpr ⟨_, t₁, os, attempted_of_ok hresult, ?_, rfl⟩
      rw [← hos]
      change _ = t₁.enrolledAll oracle now device (w.id :: written.map Row.id) rest
      simp [Outcome.registrationId?, hid]
    · rw [List.append_assoc, List.reverse_cons, List.append_assoc]
      exact ht'
    · rw [List.map_cons, hids]
    · refine List.forall_mem_cons.mpr ⟨⟨w, by simp, hwa, by rw [hid]⟩, fun o ho => ?_⟩
      obtain ⟨x, hx, hxo⟩ := hlater o ho
      exact ⟨x, List.mem_append_left _ hx, hxo⟩

/-! ### The table after a batch -/

theorem untouched_reverse_iff : s.Untouched device ids.reverse x ↔ s.Untouched device ids x := by
  simp only [Untouched, Row.BoundIn, List.mem_reverse]

theorem mem_spared : x ∈ s.spared device ids ↔ x ∈ s.rows ∧ s.Untouched device ids x := by
  rw [spared, Untouched, List.mem_append]
  by_cases hall : ∀ a ∈ ids, s.boundTo a ≠ []
  · rw [if_pos hall, List.mem_filter, List.mem_filter, decide_eq_true_iff, decide_eq_true_iff]
    constructor
    · rintro (⟨hx, hbound, -⟩ | ⟨hx, hbound, -⟩) <;> exact ⟨hx, hbound, fun _ => hall⟩
    · rintro ⟨hx, hbound, -⟩
      by_cases hkeyed : x.Keyed device
      · exact .inr ⟨hx, hbound, hkeyed⟩
      · exact .inl ⟨hx, hbound, hkeyed⟩
  · rw [if_neg hall, List.mem_filter, decide_eq_true_iff]
    constructor
    · rintro (⟨hx, hbound, hkeyed⟩ | hx)
      · exact ⟨hx, hbound, fun h => absurd h hkeyed⟩
      · cases hx
    · rintro ⟨hx, hbound, hkeyed⟩
      exact .inl ⟨hx, hbound, fun h => hall (hkeyed h)⟩

theorem nodup_spared (s : Table) (device : Device) (ids : List String) :
    (s.spared device ids).Nodup := by
  have hfilter : ∀ p : Row → Bool, (s.rows.filter p).Nodup :=
    fun p => s.nodup_rows.sublist List.filter_sublist
  rw [spared, List.nodup_append]
  refine ⟨hfilter _, ?_, fun x hx y hy heq => ?_⟩
  · split
    · exact hfilter _
    · exact List.nodup_nil
  · subst heq
    have hnot := (decide_eq_true_iff.mp (List.mem_filter.mp hx).2).2
    split at hy
    · exact hnot (decide_eq_true_iff.mp (List.mem_filter.mp hy).2).2
    · cases hy

theorem Formed.nodup_written (ht : s.Formed oracle report device now t written done)
    (hnodup : done.Nodup) : written.Nodup := by
  have hrows : (done.map fun a => (report a).row device now).Nodup := by
    refine List.pairwise_map.mpr (hnodup.imp_of_mem fun ha hb hne heq => hne ?_)
    have hact := congrArg Row.activationId heq
    simp only [ActivationReport.row, (ht.knows _ ha).asked, (ht.knows _ hb).asked] at hact
    exact Option.some.inj hact
  rw [← ht.form] at hrows
  exact (List.pairwise_map.mp hrows).imp fun hne heq => hne (congrArg Row.unnumbered heq)

/-- A table at the end of a batch has the form of it. -/
theorem Formed.perm_batchForm (ht : s.Formed oracle report device now t written ids.reverse)
    (hnodup : ids.Nodup) :
    (t.rows.map Row.unnumbered).Perm (s.batchForm report device now ids) := by
  have hwritten : (written.map Row.unnumbered).Perm
      (ids.map fun a => (report a).row device now) := by
    rw [ht.form]
    exact ids.reverse_perm.map _
  have hall : (written ++ s.spared device ids).Nodup := by
    have hreverse : ids.reverse.Nodup := hnodup.perm ids.reverse_perm.symm
    refine List.nodup_append.mpr ⟨ht.nodup_written hreverse, s.nodup_spared _ _, ?_⟩
    rintro x hx _ hspared rfl
    obtain ⟨a, ha, hxa⟩ := ht.boundIn hx
    exact (mem_spared.mp hspared).2.1 ⟨a, List.mem_reverse.mp ha, hxa⟩
  have hrows : t.rows.Perm (written ++ s.spared device ids) := by
    refine (List.perm_ext_iff_of_nodup t.nodup_rows hall).mpr fun x => ?_
    rw [ht.rows, List.mem_append, mem_spared, untouched_reverse_iff]
  refine (hrows.map Row.unnumbered).trans ?_
  rw [List.map_append, batchForm]
  exact hwritten.append_right _

theorem batchForm_perm {ids' : List String} (h : ids'.Perm ids) :
    (s.batchForm report device now ids').Perm (s.batchForm report device now ids) := by
  have hbound : ∀ x : Row, x.BoundIn ids' ↔ x.BoundIn ids := by
    intro x
    simp only [Row.BoundIn, h.mem_iff]
  have hfilter : ∀ p : Row → Prop, ∀ [DecidablePred p],
      (s.rows.filter fun x => ¬ x.BoundIn ids' ∧ p x) =
        s.rows.filter fun x => ¬ x.BoundIn ids ∧ p x := by
    intro p _
    exact List.filter_congr fun x _ => decide_eq_decide.mpr (by rw [hbound])
  have hspared : s.spared device ids' = s.spared device ids := by
    rw [spared, spared, hfilter, hfilter]
    simp only [h.mem_iff]
  rw [batchForm, batchForm, hspared]
  exact (h.map _).append_right _

/-! ### A second batch -/

/-- What an activation comes to that has a row in a table: it is registered under the number of the
row. -/
def standing (t : Table) (activationId : String) : Outcome :=
  ⟨activationId, .ok ((t.boundTo activationId).head?.map Row.id)⟩

theorem Healthy.standing_eq (ht : t.Healthy) (hx : x ∈ t.rows) (hxa : x.activationId = some a) :
    t.standing a = ⟨a, .ok (some x.id)⟩ := by
  rw [standing, ht.boundTo_eq hx hxa]
  rfl

/-- The outcomes of activations that are registered under the numbers of their rows. -/
theorem Healthy.eq_map_standing (ht : t.Healthy) {os : List Outcome}
    (hids : os.map Outcome.activationId = ids)
    (hresults : ∀ o ∈ os, ∃ x ∈ t.rows, x.activationId = some o.activationId ∧
      o.result = .ok (some x.id)) : os = ids.map t.standing := by
  have hstanding : ∀ o ∈ os, t.standing o.activationId = o := by
    intro o ho
    obtain ⟨x, hx, hxo, hresult⟩ := hresults o ho
    rw [ht.standing_eq hx hxo, ← hresult]
  rw [← hids, List.map_map]
  exact ((List.map_congr_left hstanding).trans os.map_id).symm

/-- A table in the course of a batch whose activations had their rows before: the rows of those that
are done are renewed, and claimed. -/
structure Renewed (s : Table) (device : Device) (now : Int) (t : Table) (claimed : List Int)
    (done : List String) : Prop extends Underway t device claimed where
  rows : t.rows = s.rows.map (Row.renewed now done)
  bound : ∀ x ∈ s.rows, x.id ∈ claimed → x.BoundIn done

theorem renewed_nil (hs : s.Underway device []) : s.Renewed device now s [] [] where
  toUnderway := hs
  rows := by
    refine (s.rows.map_id.symm).trans (List.map_congr_left fun x _ => ?_)
    rw [Row.renewed, if_neg (by simp [Row.BoundIn]), id]
  bound := by simp

/-- An activation is bound to one row only, so its turn renews this row and no other. -/
theorem renewed_cons (hs : s.Healthy) (hx : x ∈ s.rows) (hxa : x.activationId = some a) :
    (s.rows.map (Row.renewed now done)).map
        (fun y => if y.id = x.id then { x with timestamp := now } else y) =
      s.rows.map (Row.renewed now (a :: done)) := by
  have hid : ∀ y : Row, (y.renewed now done).id = y.id := by
    intro y
    rw [Row.renewed]
    split <;> rfl
  rw [List.map_map]
  refine List.map_congr_left fun y hy => ?_
  rw [Function.comp_apply, hid]
  by_cases heq : y.id = x.id
  · obtain rfl := eq_of_id_eq hy hx heq
    rw [if_pos rfl, Row.renewed, if_pos ⟨a, List.mem_cons_self, hxa⟩]
  · have hbound : y.BoundIn (a :: done) ↔ y.BoundIn done := by
      have hya : y.activationId ≠ some a := fun hya =>
        heq (congrArg Row.id (hs.single y hy x hx a hya hxa))
      simp only [Row.BoundIn, List.mem_cons, exists_eq_or_imp, or_iff_right hya]
    rw [if_neg heq, Row.renewed_congr hbound]

/-- The row of an activation that takes over a row of the same form differs in the time only. -/
theorem batchRow_of_chosen {before : Int} (hknows : oracle.Knows report a)
    (hchosen : t.chosenInBatch device claimed a = some x)
    (hx : x.unnumbered = (report a).row device before) :
    t.batchRow device now claimed a (some (report a)) = { x with timestamp := now } := by
  have hid : (t.batchRow device now claimed a (some (report a))).id = x.id :=
    id_batchRow_of_chosen hchosen
  refine Row.eq_of_unnumbered hid ?_
  calc
    (t.batchRow device now claimed a (some (report a))).unnumbered
      = { (report a).row device before with timestamp := now } := unnumbered_batchRow hknows
    _ = { x.unnumbered with timestamp := now } := by rw [hx]

/-- An activation of a second batch renews its row. -/
theorem Renewed.registeredInBatch {before : Int} (hs : s.Healthy)
    (ht : s.Renewed device now t claimed done) (hknows : oracle.Knows report a) (ha : a ∉ done)
    (hx : x ∈ s.rows) (hform : x.unnumbered = (report a).row device before) :
    ∃ saved t', t.registeredInBatch oracle now device claimed a = .ok (saved, t') ∧
      saved.id = some x.id ∧ s.Renewed device now t' (x.id :: claimed) (a :: done) := by
  have hxa : x.activationId = some a := activationId_of_unnumbered hknows hform
  have hfresh : ¬ x.BoundIn done := Row.not_boundIn hxa ha
  have hunclaimed : x.id ∉ claimed := fun hclaimed => hfresh (ht.bound x hx hclaimed)
  have hxt : x ∈ t.rows := by
    rw [ht.rows]
    exact List.mem_map.mpr ⟨x, hx, if_neg hfresh⟩
  have hcandidates : t.candidates device a = [x] :=
    candidates_of_bound (ht.healthy.boundTo_eq hxt hxa)
  have hchosen : t.chosenInBatch device claimed a = some x := by
    rw [chosenInBatch_of_singleton hcandidates, if_neg hunclaimed]
  have hrow : t.batchRow device now claimed a (some (report a)) = { x with timestamp := now } :=
    batchRow_of_chosen hknows hchosen hform
  obtain ⟨saved, t', hresult⟩ := registeredInBatch_of_unclaimed now ht.toUnderway hknows.answers
    fun _ y hy hya => ht.healthy.single y hy x hxt a hya hxa ▸ hunclaimed
  obtain ⟨answer, hanswer, -, hid, hadmits, ht'⟩ := enrolled_eq_ok hresult
  obtain rfl : some (report a) = answer := Except.ok.inj (hknows.answer.symm.trans hanswer)
  change saved.id = some (t.batchRow device now claimed a (some (report a))).id at hid
  have hunderway := ht.toUnderway.registeredInBatch hknows.answers.reportsAsked hresult
  rw [hrow] at hid
  rw [hid] at hunderway
  refine ⟨saved, t', hresult, hid, { toUnderway := hunderway, rows := ?_, bound := ?_ }⟩
  · have hrows : t'.rows = putRow { x with timestamp := now } t.rows := by
      rw [ht', ← hrow, batchRow]
      change putRow _ (t.vacated device claimed a).rows = _
      rw [vacated_of_singleton hcandidates]
    have hplace : putRow { x with timestamp := now } t.rows =
        t.rows.map fun y => if y.id = x.id then { x with timestamp := now } else y :=
      putRow_eq_map t.ordered ⟨x, hxt, rfl⟩
    rw [hrows, hplace, ht.rows]
    exact renewed_cons hs hx hxa
  · intro y hy hclaimed
    rcases List.mem_cons.mp hclaimed with heq | hclaimed
    · exact eq_of_id_eq hy hx heq ▸ ⟨a, List.mem_cons_self, hxa⟩
    · obtain ⟨b, hb, hyb⟩ := ht.bound y hy hclaimed
      exact ⟨b, List.mem_cons_of_mem a hb, hyb⟩

/-- A second batch renews the rows of its activations. -/
theorem Renewed.enrolledAll {before : Int} (hs : s.Healthy)
    (ht : s.Renewed device now t claimed done) (hknows : ∀ a ∈ rest, oracle.Knows report a)
    (hform : ∀ a ∈ rest, ∃ x ∈ s.rows, x.unnumbered = (report a).row device before)
    (hnodup : rest.Nodup) (hfresh : ∀ a ∈ rest, a ∉ done) :
    ∃ t' claimed', t.enrolledAll oracle now device claimed rest = .ok (rest.map s.standing, t') ∧
      s.Renewed device now t' claimed' (rest.reverse ++ done) := by
  induction rest generalizing t claimed done with
  | nil => exact ⟨t, claimed, rfl, ht⟩
  | cons a rest ih =>
    obtain ⟨ha, hrest⟩ := List.forall_mem_cons.mp hknows
    obtain ⟨⟨x, hx, hxform⟩, hrestform⟩ := List.forall_mem_cons.mp hform
    obtain ⟨hadone, hnodup, hfresh⟩ := fresh_of_cons hnodup hfresh
    obtain ⟨saved, t₁, hresult, hid, ht₁⟩ := ht.registeredInBatch hs ha hadone hx hxform
    obtain ⟨t', claimed', hlater, ht'⟩ := ih ht₁ hrest hrestform hnodup hfresh
    have hstanding : s.standing a = ⟨a, .ok saved.id⟩ := by
      rw [hs.standing_eq hx (activationId_of_unnumbered ha hxform), hid]
    refine ⟨t', claimed', ?_, ?_⟩
    · rw [List.map_cons, hstanding]
      refine enrolledAll_cons_eq_ok.mpr
        ⟨_, t₁, rest.map s.standing, attempted_of_ok hresult, ?_, rfl⟩
      rw [Outcome.registrationId?, hid]
      exact hlater
    · rw [List.reverse_cons, List.append_assoc]
      exact ht'

/-! ### Whole batches -/

/-- A batch whose activations can be bound to registers all of them. -/
theorem Underway.formed (hs : s.Underway device []) (now : Int)
    (hknows : ∀ a ∈ ids, oracle.Knows report a) (hnodup : ids.Nodup) :
    ∃ t written, s.enrolledAll oracle now device [] ids = .ok (ids.map t.standing, t) ∧
      s.Formed oracle report device now t written ids.reverse := by
  have hnil : s.Formed oracle report device now s [] [] := formed_nil hs
  obtain ⟨os, t, later, hos, ht, hids, hresults⟩ :=
    hnil.enrolledAll hs.healthy hknows hnodup (by simp)
  rw [List.append_nil, List.append_nil] at ht
  have hstanding : os = ids.map t.standing := by
    refine ht.healthy.eq_map_standing hids fun o ho => ?_
    obtain ⟨x, hx, hxo⟩ := hresults o ho
    exact ⟨x, (ht.rows x).mpr (.inl hx), hxo⟩
  exact ⟨t, later, hstanding ▸ hos, ht⟩

/-- The same batch again, on what it has left, only renews the rows of its activations. -/
theorem Formed.again (ht : s.Formed oracle report device now t written ids.reverse) (now' : Int)
    (hknows : ∀ a ∈ ids, oracle.Knows report a) (hnodup : ids.Nodup)
    (hfits : t.Fits device.appId []) :
    ∃ t', t.enrolledAll oracle now' device [] ids = .ok (ids.map t.standing, t') ∧
      t'.rows = t.rows.map (Row.renewed now' ids) := by
  have hform : ∀ a ∈ ids, ∃ x ∈ t.rows, x.unnumbered = (report a).row device now := by
    intro a ha
    have hmem : (report a).row device now ∈ written.map Row.unnumbered := by
      rw [ht.form]
      exact List.mem_map.mpr ⟨a, List.mem_reverse.mpr ha, rfl⟩
    obtain ⟨x, hx, hxform⟩ := List.mem_map.mp hmem
    exact ⟨x, (ht.rows x).mpr (.inl hx), hxform⟩
  have hnil : t.Renewed device now' t [] [] := renewed_nil (underway_nil ht.healthy hfits)
  obtain ⟨t', claimed, hall, ht'⟩ :=
    hnil.enrolledAll ht.healthy hknows hform hnodup (by simp)
  refine ⟨t', hall, ?_⟩
  have hreverse : Row.renewed now' (ids.reverse ++ []) = Row.renewed now' ids := by
    funext x
    refine Row.renewed_congr ?_
    simp only [Row.BoundIn, List.append_nil, List.mem_reverse]
  rw [ht'.rows, hreverse]

end Table

namespace Enrolment

open Work

variable {s t : Table} {oracle : Oracle} {report : String → ActivationReport} {now : Int}
  {device : Device} {request : BatchRequest} {ids : List String}

/-- A request whose activations are all registered answers with their registrations. -/
theorem runUnit_registerBatch_of_standing {t' : Table}
    (hchecked : request.checked = .ok (device, ids)) (hs : s.Healthy)
    (hfits : s.Fits device.appId []) (hknows : ∀ a ∈ ids, oracle.Knows report a)
    (h : s.enrolledAll oracle now device [] ids = .ok (ids.map t.standing, t')) :
    ((registerBatch oracle now true request).runUnit s .none).1 = .ok (ids.map t.standing) ∧
      ((registerBatch oracle now true request).runUnit s .none).2.committed = t' := by
  have hfailed : failedActivations (ids.map t.standing) = [] := by
    refine failedActivations_eq_nil_iff.mpr fun o ho => ?_
    obtain ⟨a, -, rfl⟩ := List.mem_map.mp ho
    rfl
  obtain ⟨hrun, hcommitted⟩ := runUnit_registerBatch hchecked hs hfits
    (fun a ha => (hknows a ha).answers.reportsAsked) h
  rw [hfailed] at hrun
  exact ⟨hrun, hcommitted⟩

/-- Without faults a batch whose activations can be bound to registers all of them. The table after
it has the form `Table.batchForm`, whatever the order of the activations, and the same batch again
gives the same registrations and changes times only. -/
theorem registerBatch_form (now : Int) (hchecked : request.checked = .ok (device, ids))
    (hs : s.Healthy) (hfits : s.Fits device.appId [])
    (hknows : ∀ a ∈ ids, oracle.Knows report a) :
    let run := (registerBatch oracle now true request).runUnit s .none
    run.1 = .ok (ids.map run.2.committed.standing) ∧
      (run.2.committed.rows.map Row.unnumbered).Perm (s.batchForm report device now ids) ∧
      (∀ request' ids', request'.checked = .ok (device, ids') → ids'.Perm ids →
        let run' := (registerBatch oracle now true request').runUnit s .none
        (run'.2.committed.rows.map Row.unnumbered).Perm
          (run.2.committed.rows.map Row.unnumbered)) ∧
      ∀ now', run.2.committed.Fits device.appId [] →
        let again := (registerBatch oracle now' true request).runUnit run.2.committed .none
        again.1 = run.1 ∧
          again.2.committed.rows = run.2.committed.rows.map (Row.renewed now' ids) := by
  have hunderway := Table.underway_nil hs hfits
  have hnodup := BatchRequest.nodup_of_checked hchecked
  obtain ⟨t, written, hall, ht⟩ := hunderway.formed now hknows hnodup
  obtain ⟨hrun, hcommitted⟩ := runUnit_registerBatch_of_standing hchecked hs hfits hknows hall
  have hform : (t.rows.map Row.unnumbered).Perm (s.batchForm report device now ids) :=
    ht.perm_batchForm hnodup
  intro run
  change run.1 = _ at hrun
  change run.2.committed = t at hcommitted
  rw [hrun, hcommitted]
  refine ⟨rfl, hform, fun request' ids' hchecked' hperm => ?_, fun now' hfits' => ?_⟩
  · intro run'
    have hknows' : ∀ a ∈ ids', oracle.Knows report a :=
      fun a ha => hknows a (hperm.mem_iff.mp ha)
    obtain ⟨t', written', hall', ht'⟩ := hunderway.formed now hknows' (hperm.nodup_iff.mpr hnodup)
    have hcommitted' : run'.2.committed = t' :=
      (runUnit_registerBatch_of_standing hchecked' hs hfits hknows' hall').2
    rw [hcommitted']
    have hform' : (t'.rows.map Row.unnumbered).Perm (s.batchForm report device now ids') :=
      ht'.perm_batchForm (hperm.nodup_iff.mpr hnodup)
    exact (hform'.trans (Table.batchForm_perm hperm)).trans hform.symm
  · intro again
    obtain ⟨t', hall', hrows⟩ := ht.again now' hknows hnodup hfits'
    obtain ⟨hagain, hcommitted'⟩ :=
      runUnit_registerBatch_of_standing hchecked ht.healthy hfits' hknows hall'
    exact ⟨hagain, hcommitted' ▸ hrows⟩

end Enrolment

/-! ### A batch that makes place -/

/-- A table whose first two rows share an application and a token, the second bound to `a`. -/
def Table.shared : Table where
  rows := [⟨1, 1, "T", "ios", none, none, true, 0⟩, ⟨2, 1, "T", "ios", some "a", none, false, 0⟩,
    ⟨3, 2, "U", "ios", some "c", none, true, 0⟩]
  indexed := true
  ordered := by decide
  unique := by decide

/-- A request to register a device of the shared token for two activations. -/
def BatchRequest.sharing (a b : String) : BatchRequest :=
  ⟨some 1, some "T", some "ios", some [some a, some b]⟩

theorem Table.healthy_shared : Table.shared.Healthy where
  indexed := rfl
  readable := by
    intro row hrow
    refine ⟨.ios, ?_⟩
    revert row
    decide
  single := by
    have hnumber : ∀ x ∈ shared.rows, ∀ a, x.activationId = some a →
        a = "a" ∧ x.id = 2 ∨ a = "c" ∧ x.id = 3 := by
      simp [shared]
    intro x hx y hy a hxa hya
    refine eq_of_id_eq hx hy ?_
    rcases hnumber x hx a hxa with ⟨rfl, hxid⟩ | ⟨rfl, hxid⟩
    · rcases hnumber y hy "a" hya with ⟨-, hyid⟩ | ⟨h, -⟩
      · omega
      · exact absurd h (by decide)
    · rcases hnumber y hy "c" hya with ⟨h, -⟩ | ⟨-, hyid⟩
      · exact absurd h (by decide)
      · omega

theorem Table.fits_shared : Table.shared.Fits 1 [] where
  app := by decide
  ids := by decide

theorem Oracle.knows_allActive (a : String) :
    Oracle.allActive.Knows (fun b => ⟨b, .active, .null⟩) a where
  answer := rfl
  asked := rfl
  status := nofun
  user := .inl rfl

theorem Table.fits_sharing :
    ((Enrolment.registerBatch .allActive 5 true (.sharing "b" "a")).runUnit .shared
      .none).2.committed.Fits 1 [] where
  app := by decide
  ids := by decide +kernel

theorem registerBatch_form_shared :
    let run := (Enrolment.registerBatch .allActive 5 true (.sharing "b" "a")).runUnit .shared .none
    let run' := (Enrolment.registerBatch .allActive 5 true (.sharing "a" "b")).runUnit .shared .none
    let again := (Enrolment.registerBatch .allActive 6 true (.sharing "b" "a")).runUnit
      run.2.committed .none
    run.1 = .ok (["b", "a"].map run.2.committed.standing) ∧
      (run.2.committed.rows.map Row.unnumbered).Perm
        (Table.shared.batchForm (fun b => ⟨b, .active, .null⟩) ⟨1, "T", .ios⟩ 5 ["b", "a"]) ∧
      (run'.2.committed.rows.map Row.unnumbered).Perm
        (run.2.committed.rows.map Row.unnumbered) ∧
      again.1 = run.1 ∧
      again.2.committed.rows = run.2.committed.rows.map (Row.renewed 6 ["b", "a"]) := by
  obtain ⟨hrun, hform, horder, hagain⟩ := Enrolment.registerBatch_form 5
    (show (BatchRequest.sharing "b" "a").checked = .ok (⟨1, "T", .ios⟩, ["b", "a"]) by rfl)
    Table.healthy_shared Table.fits_shared fun a _ => Oracle.knows_allActive a
  refine ⟨hrun, hform, ?_, hagain 6 Table.fits_sharing⟩
  exact horder (.sharing "a" "b") ["a", "b"] (by rfl) (.swap "b" "a" [])

end PushRegistry
