import PushRegistry.Proofs.Enrolment.BatchRun

/-!
# The course of a batch

In the course of a batch the table consists of the rows that the batch has written and of rows that
it has not touched. Both can be told from the table that the batch began with, from the answers and
from the activations that were registered so far: which rows are untouched, which row an activation
starts from, and what it writes.

A row that is written is bound to an activation that was registered, with one exception. The first
activation may take over the only row of the device although it cannot be bound to, and the row
stays bound as it was.

## Main definitions

* `Row.Keyed`, `Row.BoundIn`, `Table.Untouched`: the rows that a batch leaves.
* `Table.origin`, `Table.outline`: what an activation starts from, and what it writes.
* `Table.takenOver`: the row that the first activation takes over without being bound to it.
* `Table.Course`: a table in the course of a batch.

## Main results

* `Table.Course.bound`: what rows are bound to that were written.
* `Table.Course.chosenInBatch_eq`: what an activation starts from.
* `Table.Course.registeredInBatch`, `Table.Course.enrolledAll`: a step of a batch, and all steps.
-/

namespace PushRegistry

/-! ### Rows of a batch -/

/-- Whether a row is bound to one of some activations. -/
def Row.BoundIn (row : Row) (ids : List String) : Prop := ∃ a ∈ ids, row.activationId = some a

/-- Whether a row has the application and the token of a device. -/
def Row.Keyed (row : Row) (device : Device) : Prop :=
  row.appId = device.appId ∧ row.token = device.token

instance (row : Row) (ids : List String) : Decidable (row.BoundIn ids) :=
  inferInstanceAs (Decidable (∃ a ∈ ids, row.activationId = some a))

instance (row : Row) (device : Device) : Decidable (row.Keyed device) :=
  inferInstanceAs (Decidable (row.appId = device.appId ∧ row.token = device.token))

theorem Row.not_boundIn {x : Row} {a : String} {ids : List String}
    (hxa : x.activationId = some a) (ha : a ∉ ids) : ¬ x.BoundIn ids := by
  rintro ⟨b, hb, hxb⟩
  exact ha (Option.some.inj (hxa.symm.trans hxb) ▸ hb)

/-- A row without its number and its time. -/
def Row.untimed (row : Row) : Row := { row with id := 0, timestamp := 0 }

/-- A row of a device that is not bound, without number and time. -/
def Device.blank (device : Device) : Row :=
  ⟨0, device.appId, device.token, device.platform.name, none, none, false, 0⟩

/-- A row that a device takes over without being bound, without number and time. -/
def Row.takenBy (row : Row) (device : Device) : Row := (row.heard device.appId device 0).untimed

/-- What is answered about an activation, if anything. -/
def Oracle.answer? (oracle : Oracle) (activationId : String) : Option ActivationReport :=
  match oracle activationId with
  | .ok answer => answer
  | .error _ => none

theorem Oracle.answer?_of_ok {oracle : Oracle} {a : String} {answer : Option ActivationReport}
    (h : oracle a = .ok answer) : oracle.answer? a = answer := by
  rw [answer?, h]

/-- The elements of a list, each with those after it. -/
def places {α : Type} : List α → List (α × List α)
  | [] => []
  | a :: rest => (a, rest) :: places rest

theorem mem_places_iff {α : Type} {l rest : List α} {a : α} :
    (a, rest) ∈ places l ↔ ∃ before, l = before ++ a :: rest := by
  induction l with
  | nil =>
    refine iff_of_false List.not_mem_nil ?_
    rintro ⟨before, h⟩
    cases before <;> cases h
  | cons b l ih =>
    rw [places, List.mem_cons, ih]
    constructor
    · rintro (h | ⟨before, rfl⟩)
      · cases h
        exact ⟨[], rfl⟩
      · exact ⟨b :: before, rfl⟩
    · rintro ⟨_ | ⟨c, before⟩, h⟩
      · cases h
        exact .inl rfl
      · cases h
        exact .inr ⟨before, rfl⟩

theorem mem_of_mem_places {α : Type} {l rest : List α} {a : α} (h : (a, rest) ∈ places l) :
    a ∈ l ∧ ∀ b ∈ rest, b ∈ l := by
  obtain ⟨before, rfl⟩ := mem_places_iff.mp h
  exact ⟨List.mem_append_right _ List.mem_cons_self,
    fun b hb => List.mem_append_right _ (List.mem_cons_of_mem a hb)⟩

namespace Table

variable {s t t' : Table} {oracle : Oracle} {now : Int} {device : Device} {claimed : List Int}
  {done before rest : List String} {a c : String} {saved : Registration} {x r : Row}
  {written : List Row} {answer : Option ActivationReport}

/-! ### What a batch starts from -/

/-- Whether a batch leaves a row when some activations are done: it is bound to none of them, and
if it is keyed by the device then all of them had a row. -/
def Untouched (s : Table) (device : Device) (done : List String) (x : Row) : Prop :=
  ¬ x.BoundIn done ∧ (x.Keyed device → ∀ a ∈ done, s.boundTo a ≠ [])

theorem untouched_cons_iff : s.Untouched device (a :: done) x ↔
    s.Untouched device done x ∧ x.activationId ≠ some a ∧
      (x.Keyed device → s.boundTo a ≠ []) := by
  simp only [Untouched, Row.BoundIn, List.mem_cons, exists_eq_or_imp, forall_eq_or_imp, not_or]
  constructor
  · rintro ⟨⟨hxa, hdone⟩, hkeyed⟩
    exact ⟨⟨hdone, fun h => (hkeyed h).2⟩, hxa, fun h => (hkeyed h).1⟩
  · rintro ⟨⟨hdone, hkeyed⟩, hxa, hbound⟩
    exact ⟨⟨hxa, hdone⟩, fun h => ⟨hbound h, hkeyed h⟩⟩

/-- An activation keeps an untouched row just if the row is still untouched after it. -/
theorem keeps_untouched_iff (hs : s.Healthy) (ha : a ∉ done)
    (hleft : ∀ x ∈ s.rows, s.Untouched device done x → x ∈ t.rows)
    (hnew : s.boundTo a = [] → t.boundTo a = []) (hx : x ∈ s.rows)
    (huntouched : s.Untouched device done x) (hclaimed : x.id ∉ claimed) :
    t.Keeps device claimed a x ↔ s.Untouched device (a :: done) x := by
  rw [Keeps, or_iff_right hclaimed, untouched_cons_iff, and_iff_right huntouched]
  by_cases hnil : t.boundTo a = []
  · rw [if_pos hnil]
    constructor
    · intro hkeyed
      exact ⟨boundTo_eq_nil_iff.mp hnil x (hleft x hx huntouched), fun h => absurd h hkeyed⟩
    · rintro ⟨-, hbound⟩ hkeyed
      -- The row of the activation is gone, so the rows of the device are no longer untouched.
      rcases hs.boundTo_cases a with h | ⟨r, hr, hra, -⟩
      · exact hbound hkeyed h
      · refine boundTo_eq_nil_iff.mp hnil r (hleft r hr ⟨?_, ?_⟩) hra
        · exact Row.not_boundIn hra ha
        · exact fun _ => huntouched.2 hkeyed
  · rw [if_neg hnil]
    exact ⟨fun hxa => ⟨hxa, fun _ h => hnil (hnew h)⟩, And.left⟩

/-- The rows written and the rows untouched, after one more row was written. -/
theorem mem_of_keeps {w : Row}
    (hrows : ∀ x, x ∈ t.rows ↔ x ∈ written ∨ x ∈ s.rows ∧ s.Untouched device done x)
    (hkeeps : ∀ x ∈ s.rows, s.Untouched device done x →
      (t.Keeps device (written.map Row.id) a x ↔ s.Untouched device (a :: done) x)) :
    x = w ∨ x ∈ t.rows ∧ t.Keeps device (written.map Row.id) a x ↔
      x ∈ w :: written ∨ x ∈ s.rows ∧ s.Untouched device (a :: done) x := by
  rw [List.mem_cons]
  constructor
  · rintro (rfl | ⟨hx, hkept⟩)
    · exact .inl (.inl rfl)
    · rcases (hrows x).mp hx with hwritten | ⟨hxs, huntouched⟩
      · exact .inl (.inr hwritten)
      · exact .inr ⟨hxs, (hkeeps x hxs huntouched).mp hkept⟩
  · rintro ((rfl | hwritten) | ⟨hxs, huntouched⟩)
    · exact .inl rfl
    · exact .inr ⟨(hrows x).mpr (.inl hwritten), .inl (List.mem_map.mpr ⟨x, hwritten, rfl⟩)⟩
    · have hbefore := (untouched_cons_iff.mp huntouched).1
      exact .inr ⟨(hrows x).mpr (.inr ⟨hxs, hbefore⟩), (hkeeps x hxs hbefore).mpr huntouched⟩

/-- The only row of a device, if there is just one. -/
def sole (t : Table) (device : Device) : Option Row :=
  match t.keyedBy device.appId device.token with
  | [row] => some row
  | _ => none

theorem sole_eq_some_iff :
    t.sole device = some x ↔ t.keyedBy device.appId device.token = [x] := by
  rw [sole]
  split
  · next row hrows => rw [hrows, Option.some_inj, List.singleton_inj]
  · next hne => exact iff_of_false nofun (hne x)

/-- The row that an activation of a batch starts from when some were registered before it: its own
row unless that has made place, and for the first activation also the only row of the device. -/
def origin (s : Table) (device : Device) (before : List String) (activationId : String) :
    Option Row :=
  match s.boundTo activationId with
  | [] => if before = [] then s.sole device else none
  | row :: _ =>
    if row.Keyed device ∧ ∃ e ∈ before, s.boundTo e = [] then none else some row

theorem origin_of_unbound (h : s.boundTo a = []) :
    s.origin device before a = if before = [] then s.sole device else none := by
  rw [origin, h]

theorem origin_of_bound (h : s.boundTo a = [x]) :
    s.origin device before a =
      if x.Keyed device ∧ ∃ e ∈ before, s.boundTo e = [] then none else some x := by
  rw [origin, h]

/-- An activation starts from its own row, or is the first one and starts from that of the
device. -/
theorem origin_eq_some (hs : s.Healthy) (h : s.origin device before a = some x) :
    x ∈ s.rows ∧ (s.boundTo a = [x] ∧ x.activationId = some a ∨
      before = [] ∧ s.boundTo a = [] ∧ s.sole device = some x) := by
  rcases hs.boundTo_cases a with hnil | ⟨row, hrow, hrowa, hrows⟩
  · rw [origin_of_unbound hnil] at h
    split at h
    · next hbefore =>
      have hmem : x ∈ s.keyedBy device.appId device.token := by
        rw [sole_eq_some_iff.mp h]
        exact List.mem_singleton.mpr rfl
      exact ⟨(mem_keyedBy.mp hmem).1, .inr ⟨hbefore, hnil, h⟩⟩
    · cases h
  · rw [origin_of_bound hrows] at h
    split at h
    · cases h
    · cases h
      exact ⟨hrow, .inl ⟨hrows, hrowa⟩⟩

/-- The row that the first activation of a batch takes over although it is not bound to it: the
activation cannot be bound to and has no row, and the row is the only one of the device. -/
def takenOver (s : Table) (oracle : Oracle) (device : Device) : Option String → Option Row
  | none => none
  | some first =>
    if oracle.admits first = false ∧ s.boundTo first = [] then s.sole device else none

theorem takenOver_eq_some_iff {first? : Option String} :
    s.takenOver oracle device first? = some r ↔ ∃ first, first? = some first ∧
      oracle.admits first = false ∧ s.boundTo first = [] ∧ s.sole device = some r := by
  cases first? with
  | none =>
    refine iff_of_false nofun ?_
    rintro ⟨first, ⟨⟩, -⟩
  | some first =>
    rw [takenOver]
    constructor
    · intro h
      split at h
      · next hfirst => exact ⟨first, rfl, hfirst.1, hfirst.2, h⟩
      · cases h
    · rintro ⟨_, ⟨⟩, hadmits, hnil, hsole⟩
      rw [if_pos ⟨hadmits, hnil⟩, hsole]

/-- Whether an activation of a batch has a row of its own after its turn: it can be bound to, or it
starts from its own row. -/
def Owns (s : Table) (oracle : Oracle) (device : Device) (before : List String)
    (activationId : String) : Prop :=
  oracle.admits activationId = true ∨
    ∃ x, s.origin device before activationId = some x ∧ x.activationId = some activationId

/-! ### What a batch writes -/

/-- The row that an activation of a batch writes when some were registered before it, without number
and time. -/
def outline (s : Table) (oracle : Oracle) (device : Device) (before : List String)
    (activationId : String) : Row :=
  ((((s.origin device before activationId).getD device.blank).heard device.appId device
    0).answered (oracle.answer? activationId)).untimed

theorem untimed_enrolledRow (t : Table) (now : Int) (chosen : Option Row)
    (answer : Option ActivationReport) :
    (t.enrolledRow device.appId device now chosen answer).untimed =
      (((chosen.getD device.blank).heard device.appId device 0).answered answer).untimed := by
  have hanswered : ∀ row : Row, (row.answered answer).untimed =
      (row.untimed.answered answer).untimed := by
    intro row
    rw [Row.answered, Row.answered]
    split <;> rfl
  have hheard : ((t.startRow device now chosen).heard device.appId device now).untimed =
      ((chosen.getD device.blank).heard device.appId device 0).untimed := by
    cases chosen <;> rfl
  rw [enrolledRow, hanswered, hheard, ← hanswered]

theorem timestamp_enrolledRow {chosen : Option Row} :
    (t.enrolledRow device.appId device now chosen answer).timestamp = now := by
  rw [enrolledRow, Row.answered]
  split <;> rfl

/-- The row of an activation that can be bound to does not depend on what it starts from. -/
theorem outline_of_admits (s : Table) (device : Device) (before : List String)
    (hadmits : oracle.admits a = true) :
    ∃ report, oracle a = .ok (some report) ∧ s.outline oracle device before a =
      { device.blank with
        activationId := some report.activationId
        userId := userColumn report.userId
        isActive := report.status.isActive } := by
  rw [Oracle.admits] at hadmits
  split at hadmits
  · next report hreport =>
    refine ⟨report, hreport, ?_⟩
    rw [outline, Oracle.answer?_of_ok hreport, Row.answered_of_canBind hadmits]
    rfl
  · cases hadmits

theorem activationId_outline_of_admits (hreports : oracle.ReportsAsked a)
    (hadmits : oracle.admits a = true) :
    (s.outline oracle device before a).activationId = some a := by
  obtain ⟨report, hreport, houtline⟩ := outline_of_admits s device before hadmits
  rw [houtline, hreports report hreport]

/-- The row of an activation that cannot be bound to is bound as the row that it starts from. -/
theorem outline_of_not_admits (hadmits : oracle.admits a = false) :
    s.outline oracle device before a =
      ((s.origin device before a).getD device.blank).takenBy device := by
  have hnone : ActivationReport.binding? (oracle.answer? a) = none := by
    rw [Oracle.admits] at hadmits
    rw [Oracle.answer?]
    split at hadmits
    · next report hreport =>
      rw [hreport]
      exact Option.filter_eq_none_iff.mpr fun r hr => by simp [← Option.some.inj hr, hadmits]
    · next hother =>
      split
      · next answer hanswer =>
        cases answer with
        | none => rfl
        | some report => exact absurd hanswer (hother report)
      · rfl
  rw [outline, Row.answered, hnone, Row.takenBy]

theorem activationId_outline_of_not_admits (hadmits : oracle.admits a = false) :
    (s.outline oracle device before a).activationId =
      (s.origin device before a).bind Row.activationId := by
  rw [outline_of_not_admits hadmits]
  cases s.origin device before a <;> rfl

/-! ### The course of a batch -/

/-- A table in the course of a batch that began with another table. It consists of the rows written
for the activations that were registered, the last one first, and of the rows that are untouched. -/
structure Course (s : Table) (oracle : Oracle) (device : Device) (now : Int) (t : Table)
    (written : List Row) (done : List String) : Prop where
  start : s.Healthy
  healthy : t.Healthy
  claims : t.Claims device (written.map Row.id)
  reports : ∀ a ∈ done, oracle.ReportsAsked a
  nodup : done.Nodup
  initial : done = [] → t = s
  rows : ∀ x, x ∈ t.rows ↔ x ∈ written ∨ x ∈ s.rows ∧ s.Untouched device done x
  apart : ∀ x ∈ s.rows, s.Untouched device done x → x.id ∉ written.map Row.id
  numbers : (written.map Row.id).Nodup
  times : ∀ w ∈ written, w.timestamp = now
  form : written.map Row.untimed = (places done).map fun p => s.outline oracle device p.2 p.1
  astray : ∀ r, s.takenOver oracle device done.getLast? = some r →
    ∃ w ∈ written, w.id = r.id ∧ w.activationId = r.activationId

theorem course_nil (hs : s.Healthy) : s.Course oracle device now s [] [] where
  start := hs
  healthy := hs
  claims := claims_nil
  reports := by simp
  nodup := List.nodup_nil
  initial _ := rfl
  rows x := by simp [Untouched, Row.BoundIn]
  apart := by simp
  numbers := List.nodup_nil
  times := by simp
  form := rfl
  astray := nofun

theorem Course.mem_of_written (ht : s.Course oracle device now t written done)
    (hx : x ∈ written) : x ∈ t.rows :=
  (ht.rows x).mpr (.inl hx)

/-- A row was written for an activation that was registered, and one for each of them. -/
theorem Course.exists_place (ht : s.Course oracle device now t written done) (hx : x ∈ written) :
    ∃ a before, (a, before) ∈ places done ∧ x.untimed = s.outline oracle device before a := by
  have hmem : x.untimed ∈ written.map Row.untimed := List.mem_map.mpr ⟨x, hx, rfl⟩
  rw [ht.form] at hmem
  obtain ⟨⟨a, before⟩, hplace, hform⟩ := List.mem_map.mp hmem
  exact ⟨a, before, hplace, hform.symm⟩

theorem Course.exists_written (ht : s.Course oracle device now t written done)
    (h : (a, before) ∈ places done) :
    ∃ x ∈ written, x.untimed = s.outline oracle device before a := by
  have hmem : s.outline oracle device before a ∈ written.map Row.untimed := by
    rw [ht.form]
    exact List.mem_map.mpr ⟨(a, before), h, rfl⟩
  exact List.mem_map.mp hmem

/-- A row that was written is the own row of an activation that was registered, or bound as the row
is that the first activation has taken over. -/
theorem Course.bound (ht : s.Course oracle device now t written done) (hx : x ∈ written)
    (hc : x.activationId = some c) :
    (∃ before, (c, before) ∈ places done ∧ s.Owns oracle device before c) ∨
      ∃ r, s.takenOver oracle device done.getLast? = some r ∧ r.activationId = some c := by
  obtain ⟨a, before, hplace, hform⟩ := ht.exists_place hx
  have hbound : (s.outline oracle device before a).activationId = some c := by
    rw [← hform]
    exact hc
  cases hadmits : oracle.admits a with
  | true =>
    have hreports := ht.reports a (mem_of_mem_places hplace).1
    rw [activationId_outline_of_admits hreports hadmits] at hbound
    obtain rfl := Option.some.inj hbound
    exact .inl ⟨before, hplace, .inl hadmits⟩
  | false =>
    rw [activationId_outline_of_not_admits hadmits] at hbound
    obtain ⟨r, horigin, hrc⟩ := Option.bind_eq_some_iff.mp hbound
    obtain ⟨-, ⟨-, hra⟩ | ⟨rfl, hnil, hsole⟩⟩ := origin_eq_some ht.start horigin
    · obtain rfl := Option.some.inj (hra.symm.trans hrc)
      exact .inl ⟨before, hplace, .inr ⟨r, horigin, hra⟩⟩
    · obtain ⟨later, rfl⟩ := mem_places_iff.mp hplace
      exact .inr ⟨r, takenOver_eq_some_iff.mpr
        ⟨a, List.getLast?_concat, hadmits, hnil, hsole⟩, hrc⟩

theorem mem_of_takenOver {first? : Option String}
    (h : s.takenOver oracle device first? = some r) : r ∈ s.rows ∧ r.Keyed device := by
  obtain ⟨first, -, -, -, hsole⟩ := takenOver_eq_some_iff.mp h
  have hmem : r ∈ s.keyedBy device.appId device.token := by
    rw [sole_eq_some_iff.mp hsole]
    exact List.mem_singleton.mpr rfl
  exact mem_keyedBy.mp hmem

/-- An activation that is not registered yet and had no row has none. -/
theorem Course.boundTo_eq_nil (ht : s.Course oracle device now t written done) (ha : a ∉ done)
    (h : s.boundTo a = []) : t.boundTo a = [] := by
  refine boundTo_eq_nil_iff.mpr fun x hx hxa => ?_
  rcases (ht.rows x).mp hx with hwritten | ⟨hxs, -⟩
  · rcases ht.bound hwritten hxa with ⟨before, hplace, -⟩ | ⟨r, hr, hra⟩
    · exact ha (mem_of_mem_places hplace).1
    · exact boundTo_eq_nil_iff.mp h r (mem_of_takenOver hr).1 hra
  · exact boundTo_eq_nil_iff.mp h x hxs hxa

theorem Course.keeps_iff (ht : s.Course oracle device now t written done) (ha : a ∉ done)
    (hx : x ∈ s.rows) (huntouched : s.Untouched device done x) :
    t.Keeps device (written.map Row.id) a x ↔ s.Untouched device (a :: done) x :=
  keeps_untouched_iff ht.start ha (fun y hy h => (ht.rows y).mpr (.inr ⟨hy, h⟩))
    (ht.boundTo_eq_nil ha) hx huntouched (ht.apart x hx huntouched)

/-- An activation takes over no row if the only row of the device is claimed. -/
theorem Course.chosenInBatch_of_unbound (ht : s.Course oracle device now t written done)
    (hdone : done ≠ []) (h : t.boundTo a = []) :
    t.chosenInBatch device (written.map Row.id) a = none := by
  obtain ⟨b, before, rfl⟩ := List.exists_cons_of_ne_nil hdone
  obtain ⟨w, hw, -⟩ := ht.exists_written (show (b, before) ∈ places (b :: before) from
    List.mem_cons_self)
  have hclaimed : w.id ∈ written.map Row.id := List.mem_map.mpr ⟨w, hw, rfl⟩
  have hkeyed : w ∈ t.keyedBy device.appId device.token :=
    mem_keyedBy.mpr ⟨ht.mem_of_written hw, ht.claims w (ht.mem_of_written hw) hclaimed⟩
  cases hchosen : t.chosenInBatch device (written.map Row.id) a with
  | none => rfl
  | some x =>
    obtain ⟨hcandidates, -, hunclaimed⟩ := mem_of_chosenInBatch hchosen
    rw [candidates_of_unbound h] at hcandidates
    rw [hcandidates, List.mem_singleton] at hkeyed
    exact absurd (hkeyed ▸ hclaimed) hunclaimed

/-- In the course of a batch an activation starts from its origin. -/
theorem Course.chosenInBatch_eq (ht : s.Course oracle device now t written done) (ha : a ∉ done) :
    t.chosenInBatch device (written.map Row.id) a = s.origin device done a := by
  rcases ht.start.boundTo_cases a with hnil | ⟨x, hx, hxa, hrows⟩
  · rw [origin_of_unbound hnil]
    have htnil := ht.boundTo_eq_nil ha hnil
    by_cases hdone : done = []
    · obtain rfl := ht.initial hdone
      subst hdone
      obtain rfl : written = [] := List.map_eq_nil_iff.mp ht.form
      rw [if_pos rfl]
      cases hsole : t.sole device with
      | none =>
        refine chosenInBatch_of_ne fun row hrow => ?_
        rw [candidates_of_unbound htnil, ← sole_eq_some_iff, hsole] at hrow
        cases hrow
      | some row =>
        exact (chosenInBatch_of_singleton ((candidates_of_unbound htnil).trans
          (sole_eq_some_iff.mp hsole))).trans (if_neg List.not_mem_nil)
    · rw [if_neg hdone, ht.chosenInBatch_of_unbound hdone htnil]
  · rw [origin_of_bound hrows]
    by_cases htouched : x.Keyed device ∧ ∃ e ∈ done, s.boundTo e = []
    · rw [if_pos htouched]
      obtain ⟨hkeyed, e, he, henil⟩ := htouched
      cases hchosen : t.chosenInBatch device (written.map Row.id) a with
      | none => rfl
      | some y =>
        obtain ⟨hcandidates, -, hunclaimed⟩ := mem_of_chosenInBatch hchosen
        rcases ht.healthy.boundTo_cases a with htnil | ⟨z, hz, hza, htrows⟩
        · rw [ht.chosenInBatch_of_unbound (List.ne_nil_of_mem he) htnil] at hchosen
          cases hchosen
        · rw [candidates_of_bound htrows] at hcandidates
          obtain rfl := List.singleton_inj.mp hcandidates
          rcases (ht.rows z).mp hz with hwritten | ⟨hzs, huntouched⟩
          · exact absurd (List.mem_map.mpr ⟨z, hwritten, rfl⟩) hunclaimed
          · obtain rfl := ht.start.single z hzs x hx a hza hxa
            exact absurd henil (huntouched.2 hkeyed e he)
    · rw [if_neg htouched]
      have huntouched : s.Untouched device done x :=
        ⟨Row.not_boundIn hxa ha, fun hkeyed e he henil => htouched ⟨hkeyed, e, he, henil⟩⟩
      have hxt : x ∈ t.rows := (ht.rows x).mpr (.inr ⟨hx, huntouched⟩)
      rw [chosenInBatch_of_singleton (candidates_of_bound (ht.healthy.boundTo_eq hxt hxa)),
        if_neg (ht.apart x hx huntouched)]

/-- An activation of a batch that is registered writes its row and leaves those that stay
untouched. -/
theorem Course.registeredInBatch (ht : s.Course oracle device now t written done)
    (hreports : oracle.ReportsAsked a) (ha : a ∉ done)
    (h : t.registeredInBatch oracle now device (written.map Row.id) a = .ok (saved, t')) :
    ∃ w, saved.id = some w.id ∧ s.Course oracle device now t' (w :: written) (a :: done) := by
  obtain ⟨answer, hanswer, hid, hrows⟩ := mem_registeredInBatch ht.healthy h
  have horigin := ht.chosenInBatch_eq ha
  have hkeep : ∀ x ∈ s.rows, s.Untouched device (a :: done) x →
      x ∈ t.rows ∧ t.Keeps device (written.map Row.id) a x := by
    intro x hx huntouched
    have hbefore := (untouched_cons_iff.mp huntouched).1
    exact ⟨(ht.rows x).mpr (.inr ⟨hx, hbefore⟩), (ht.keeps_iff ha hx hbefore).mpr huntouched⟩
  have hclaims := ht.claims.registeredInBatch h
  rw [hid] at hclaims
  refine ⟨_, hid,
    { start := ht.start
      healthy := ht.healthy.registeredInBatch hreports ht.claims h
      claims := hclaims
      reports := List.forall_mem_cons.mpr ⟨hreports, ht.reports⟩
      nodup := List.nodup_cons.mpr ⟨ha, ht.nodup⟩
      initial := nofun
      rows := fun x => (hrows x).trans (mem_of_keeps ht.rows fun _ => ht.keeps_iff ha)
      apart := fun x hx huntouched => ?_
      numbers := ?_
      times := List.forall_mem_cons.mpr ⟨timestamp_enrolledRow, ht.times⟩
      form := ?_
      astray := fun r hr => ?_ }⟩
  · obtain ⟨hxt, hkeeps⟩ := hkeep x hx huntouched
    rw [List.map_cons, List.mem_cons, not_or]
    exact ⟨((Table.keeps_iff ht.healthy hxt now answer).mp hkeeps).2,
      ht.apart x hx (untouched_cons_iff.mp huntouched).1⟩
  · refine List.nodup_cons.mpr ⟨fun hmem => ?_, ht.numbers⟩
    obtain ⟨y, hy, hyid⟩ := List.mem_map.mp hmem
    exact id_batchRow_ne (ht.mem_of_written hy) (hyid ▸ hmem) hyid.symm
  · rw [places, List.map_cons, List.map_cons, ht.form, batchRow, untimed_enrolledRow, horigin,
      outline, Oracle.answer?_of_ok hanswer]
  · cases done with
    | nil =>
      obtain ⟨first, hfirst, hadmits, hnil, hsole⟩ := takenOver_eq_some_iff.mp hr
      obtain rfl : a = first := Option.some.inj hfirst
      rw [origin_of_unbound hnil, if_pos rfl, hsole] at horigin
      refine ⟨_, List.mem_cons_self, id_batchRow_of_chosen horigin, ?_⟩
      rw [activationId_batchRow_of_not_admits hanswer hadmits, horigin]
      rfl
    | cons b done =>
      rw [List.getLast?_cons_cons] at hr
      obtain ⟨w, hw, hwr⟩ := ht.astray r hr
      exact ⟨w, List.mem_cons_of_mem _ hw, hwr⟩

/-- After the activations of a batch that remain, those that succeeded are registered. -/
theorem Course.enrolledAll {os : List Outcome} (ht : s.Course oracle device now t written done)
    (hreports : ∀ a ∈ rest, oracle.ReportsAsked a) (hnodup : rest.Nodup)
    (hfresh : ∀ a ∈ rest, a ∉ done)
    (h : t.enrolledAll oracle now device (written.map Row.id) rest = .ok (os, t')) :
    ∃ later, s.Course oracle device now t' (later ++ written)
      (((os.filter Outcome.succeeded).map Outcome.activationId).reverse ++ done) := by
  induction rest generalizing t written done os with
  | nil =>
    cases h
    exact ⟨[], ht⟩
  | cons a rest ih =>
    obtain ⟨ha, hrest⟩ := List.forall_mem_cons.mp hreports
    obtain ⟨hadone, hnodup, hfresh⟩ := fresh_of_cons hnodup hfresh
    obtain ⟨o, t₁, os₁, hattempted, hlater, rfl⟩ := enrolledAll_cons_eq_ok.mp h
    rcases attempted_eq_ok hattempted with ⟨saved, hresult, rfl⟩ | ⟨rfl, e, rfl⟩
    · obtain ⟨w, hid, ht₁⟩ := ht.registeredInBatch ha hadone hresult
      rw [Outcome.registrationId?, hid] at hlater
      obtain ⟨later, ht'⟩ := ih ht₁ hrest hnodup hfresh hlater
      refine ⟨later ++ [w], ?_⟩
      rw [List.filter_cons_of_pos rfl, List.map_cons, List.reverse_cons, List.append_assoc,
        List.append_assoc]
      exact ht'
    · rw [List.filter_cons_of_neg (by simp [Outcome.succeeded])]
      exact ih ht hrest hnodup (fun c hc hmem => hfresh c hc (List.mem_cons_of_mem a hmem)) hlater

end Table

end PushRegistry
