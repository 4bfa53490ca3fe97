import PushRegistry.Proofs.Enrolment.Accounting
import PushRegistry.Proofs.Enrolment.BatchRun

/-!
# One activation in a request and in a batch

A device may be registered for one activation by a single request or by a batch of one. Both find
the same rows, and unless these are several they choose the same row, ask the same question and
write the same row, with one difference. A single request leaves a row that was found in its
application, a batch moves it to the application of the device.

So a batch of one does to every table what a single request does, and moves the row that was
written.

## Main definitions

* `Table.moved`: a table in which one row belongs to another application.

## Main results

* `Table.saved_moved`: what is saved for another application.
* `Table.reconciledInBatch_eq_moved`: what a batch of one does to a table.
* `Enrolment.register_agrees`: a single request and a batch of one.
-/

namespace PushRegistry

/-! ### Rows of another application -/

/-- A row that belongs to an application if it has a number, and as it was otherwise. -/
def Row.moved (row : Row) (id : Option Int) (appId : Int) : Row :=
  if some row.id = id then { row with appId } else row

namespace Row

variable {row : Row} {id : Option Int} {appId : Int}

theorem moved_of_ne (h : some row.id ≠ id) : row.moved id appId = row := if_neg h

@[simp] theorem id_moved : (row.moved id appId).id = row.id := by
  rw [moved]
  split <;> rfl

@[simp] theorem clashes_moved (a b : Row) :
    (a.moved id appId).clashes (b.moved id appId) = a.clashes b := by
  have hkey : ∀ row : Row, (row.moved id appId).id = row.id ∧
      (row.moved id appId).activationId = row.activationId ∧
      (row.moved id appId).token = row.token := by
    intro row
    rw [moved]
    split <;> exact ⟨rfl, rfl, rfl⟩
  obtain ⟨hid, hact, htoken⟩ := hkey a
  obtain ⟨hid', hact', htoken'⟩ := hkey b
  rw [clashes, clashes, hid, hact, htoken, hid', hact', htoken']

theorem map_moved {rows : List Row} (h : ∀ x ∈ rows, some x.id ≠ id) :
    (rows.map fun x => x.moved id appId) = rows :=
  (List.map_congr_left fun x hx => moved_of_ne (h x hx)).trans (List.map_id rows)

end Row

/-- A row put among rows is moved there. -/
theorem putRow_moved {row : Row} {rows : List Row} (h : Row.Ordered rows) (appId : Int) :
    ((putRow row rows).map fun x => x.moved (some row.id) appId) =
      putRow { row with appId } rows := by
  have hrow : row.moved (some row.id) appId = { row with appId } := if_pos rfl
  induction rows with
  | nil => exact congrArg ([·]) hrow
  | cons r rs ih =>
    obtain ⟨hr, hrs⟩ := List.pairwise_cons.mp h
    rw [putRow, putRow]
    by_cases hlt : row.id < r.id
    · have hne : ∀ x ∈ r :: rs, some x.id ≠ some row.id := by
        intro x hx hid
        have hid := Option.some.inj hid
        rcases List.mem_cons.mp hx with rfl | hx
        · omega
        · have := hr x hx
          omega
      rw [if_pos hlt, if_pos hlt, List.map_cons, hrow, Row.map_moved hne]
    · rw [if_neg hlt, if_neg hlt]
      by_cases hid : row.id = r.id
      · have hne : ∀ x ∈ rs, some x.id ≠ some row.id := by
          intro x hx heq
          have := hr x hx
          have := Option.some.inj heq
          omega
        rw [if_pos hid, if_pos hid, List.map_cons, hrow, Row.map_moved hne]
      · rw [if_neg hid, if_neg hid, List.map_cons, ih hrs,
          Row.moved_of_ne fun heq => hid (Option.some.inj heq).symm]

namespace Table

variable {t t' : Table} {oracle : Oracle} {now appId appId' : Int} {device : Device} {a : String}
  {r saved : Registration} {chosen : Option Row} {e : Failure}

/-- A table in which the row with a number belongs to an application. -/
def moved (t : Table) (id : Option Int) (appId : Int) : Table where
  rows := t.rows.map fun row => row.moved id appId
  indexed := t.indexed
  ordered := List.pairwise_map.mpr (t.ordered.imp fun hlt => by simpa using hlt)
  unique hindexed _ ha _ hb := by
    obtain ⟨x, hx, rfl⟩ := List.mem_map.mp ha
    obtain ⟨y, hy, rfl⟩ := List.mem_map.mp hb
    rw [Row.clashes_moved]
    exact t.unique hindexed x hx y hy

@[simp] theorem rows_moved (t : Table) (id : Option Int) (appId : Int) :
    (t.moved id appId).rows = t.rows.map fun row => row.moved id appId :=
  rfl

theorem put_moved {row : Row} (h : t.forbids row = false) (appId : Int) :
    (t.put row h).moved (some row.id) appId = t.put { row with appId } h :=
  Table.ext (putRow_moved t.ordered appId) rfl

/-- A row that belongs to the application already is not moved. -/
theorem moved_eq_self {row : Row} (hrow : row ∈ t.rows) (happ : row.appId = appId) :
    t.moved (some row.id) appId = t := by
  refine Table.ext ((List.map_congr_left fun x hx => ?_).trans (List.map_id t.rows)) rfl
  by_cases hid : x.id = row.id
  · obtain rfl := eq_of_id_eq hx hrow hid
    rw [Row.moved, if_pos rfl, ← happ]
    rfl
  · exact Row.moved_of_ne fun heq => hid (Option.some.inj heq)

/-! ### What is saved -/

theorem ofRegistration_moved (id : Int) (hfits : fitsStore r.appId = true)
    (hfits' : fitsStore appId = true) :
    Row.ofRegistration id { r with appId } =
      (Row.ofRegistration id r).map fun row => { row with appId } := by
  rw [Row.ofRegistration, Row.ofRegistration]
  cases columnText r.userId with
  | error e => rfl
  | ok userId =>
    simp only [bind, Except.bind, hfits, hfits', if_true]
    cases r.platform <;> rfl

/-- What is saved for another application is moved to it. -/
theorem saved_moved (hfits : fitsStore r.appId = true) (hfits' : fitsStore appId = true) :
    t.saved { r with appId } =
      (t.saved r).map fun x => ({ x.1 with appId }, x.2.moved x.1.id appId) := by
  rw [saved, saved, ofRegistration_moved _ hfits hfits']
  cases Row.ofRegistration (r.id.getD t.nextId) r with
  | error e => rfl
  | ok row =>
    cases hforbids : t.forbids row with
    | false =>
      have hforbids' : t.forbids { row with appId } = false := hforbids
      simp only [Except.map, bind, Except.bind, store_eq_ok hforbids, store_eq_ok hforbids']
      change Except.ok _ = Except.ok (_, (t.put row hforbids).moved (some row.id) appId)
      rw [put_moved]
    | true =>
      have hforbids' : t.forbids { row with appId } = true := hforbids
      simp only [Except.map, bind, Except.bind, store_eq_error hforbids, store_eq_error hforbids']
      rfl

theorem answered_moved (r : Registration) (appId : Int) (answer : Option ActivationReport) :
    ({ r with appId }).answered answer = { r.answered answer with appId } := by
  rw [Registration.answered, Registration.answered]
  split <;> rfl

theorem appId_answered (answer : Option ActivationReport) :
    (r.answered answer).appId = r.appId := by
  rw [Registration.answered]
  split <;> rfl

/-- An enrolment for another application is moved to it. -/
theorem enrolledInRange_moved (hfits : fitsStore appId = true) (hfits' : fitsStore appId' = true) :
    t.enrolledInRange oracle now appId' device chosen a =
      (t.enrolledInRange oracle now appId device chosen a).map fun x =>
        ({ x.1 with appId := appId' }, x.2.moved x.1.id appId') := by
  rw [enrolledInRange, enrolledInRange]
  cases hanswer : oracle a with
  | error e =>
    rw [enrolled, enrolled, hanswer]
    split <;> rfl
  | ok answer =>
    split
    · rw [enrolled, enrolled, hanswer]
      have hcurrent : (t.current appId' device now chosen).answered answer =
          { (t.current appId device now chosen).answered answer with appId := appId' } :=
        answered_moved (t.current appId device now chosen) appId' answer
      change t.saved _ = (t.saved _).map _
      rw [hcurrent]
      exact saved_moved ((congrArg fitsStore (appId_answered answer)).trans hfits) hfits'
    · rfl

/-- A batch of one does to a table what a single request does, and moves the row that was written
to the application of the device. -/
theorem reconciledInBatch_eq_moved (oracle : Oracle) (now : Int)
    (hfits : fitsStore device.appId = true)
    (happs : ∀ row ∈ t.rows, fitsStore row.appId = true)
    (hfound : ∀ rows, t.located device a = .ok rows → rows.length ≤ 1) :
    t.reconciledInBatch oracle now device [] a =
      (t.reconciled oracle now device a).map fun x =>
        ({ x.1 with appId := device.appId }, x.2.moved x.1.id device.appId) := by
  rw [reconciledInBatch, reconciled]
  rcases hrows : t.located device a with e | _ | ⟨row, _ | ⟨y, rest⟩⟩
  · rfl
  · change (t.erase []).enrolledInRange oracle now device.appId device none a = _
    rw [erase_nil]
    exact enrolledInRange_moved hfits hfits
  · have hrow : row ∈ t.rows := mem_of_located hrows (List.mem_singleton.mpr rfl)
    exact enrolledInRange_moved (happs row hrow) hfits
  · have := hfound _ hrows
    simp at this

end Table

/-! ### Faults that are reported -/

/-- Whether a result is no fault of the store; faults become errors of the service where they
arise. -/
def FaultFree {α : Type} (r : Except Failure α) : Prop := ∀ fault, r ≠ .error (.store fault)

namespace FaultFree

variable {α β : Type}

theorem ok (a : α) : FaultFree (.ok a) := by
  intro fault h
  cases h

theorem app (e : AppError) : FaultFree (.error (.app e) : Except Failure α) := by
  intro fault h
  cases h

theorem defect (d : Defect) : FaultFree (.error (.defect d) : Except Failure α) := by
  intro fault h
  cases h

theorem bind {r : Except Failure α} {k : α → Except Failure β} (hr : FaultFree r)
    (hk : ∀ a, FaultFree (k a)) : FaultFree (r >>= k) := by
  cases r with
  | error e =>
    intro fault h
    cases h
    exact hr fault rfl
  | ok a => exact hk a

theorem mapError_reported (report : StoreFault → AppError) (r : Except Failure α) :
    FaultFree (r.mapError (Failure.reported report)) := by
  intro fault h
  rcases r with (_ | _ | _) | _ <;> cases h

theorem toRegistration (row : Row) : FaultFree row.toRegistration := by
  intro fault h
  rw [Row.toRegistration] at h
  split at h <;> cases h

theorem mapM_toRegistration (rows : List Row) : FaultFree (rows.mapM Row.toRegistration) := by
  induction rows with
  | nil => exact ok []
  | cons row rows ih =>
    rw [List.mapM_cons]
    exact (toRegistration row).bind fun _ => ih.bind fun _ => ok _

theorem readAll (rows : List Row) : FaultFree (Row.readAll rows) := by
  rw [Row.readAll]
  have hread := mapM_toRegistration rows
  cases hrows : rows.mapM Row.toRegistration with
  | error e =>
    rw [hrows] at hread
    intro fault h
    cases h
    exact hread fault rfl
  | ok rs => exact ok rows

variable {t : Table} {oracle : Oracle} {now : Int} {device : Device} {a : String}

theorem located : FaultFree (t.located device a) := by
  refine (readAll _).bind fun rows => ?_
  split
  · refine (readAll _).bind fun rows' => ?_
    split
    · split
      · exact readAll _
      · exact defect _
    · exact ok _
    · exact app _
  · exact ok _
  · exact app _

theorem enrolledInRange {appId : Int} {chosen : Option Row} (hasked : FaultFree (oracle a)) :
    FaultFree (t.enrolledInRange oracle now appId device chosen a) := by
  rw [Table.enrolledInRange]
  split
  · exact hasked.bind fun _ => mapError_reported _ _
  · exact hasked.bind fun _ => defect _

/-- A request for one activation ends with no fault of the store unless the question does. -/
theorem reconciled (hasked : FaultFree (oracle a)) :
    FaultFree (t.reconciled oracle now device a) := by
  refine located.bind fun rows => ?_
  have honly : FaultFree (Row.only device.appId rows) := by
    rw [Row.only.eq_def]
    split
    · exact ok none
    · exact ok _
    · exact app _
  exact honly.bind fun _ => enrolledInRange hasked

end FaultFree

/-! ### Requests -/

/-- The batch of the one activation of a request. -/
def SingleRequest.asBatch (request : SingleRequest) : BatchRequest :=
  ⟨request.appId, request.token, request.platform, some [request.activationId]⟩

/-- A request in order is in order as a batch of one. -/
theorem SingleRequest.checked_asBatch {request : SingleRequest} {device : Device} {a : String}
    (h : request.checked = .ok (device, a)) : request.asBatch.checked = .ok (device, [a]) := by
  obtain ⟨hdevice, htext⟩ := checked_eq_ok_iff.mp h
  obtain ⟨hactivation, hcontent⟩ := Validation.requireText_eq_ok_iff.mp htext
  refine BatchRequest.checked_eq_ok_iff.mpr ⟨hdevice,
    Validation.requireActivations_eq_ok_iff.mpr ⟨?_, List.cons_ne_nil a [], ?_, ?_⟩⟩
  · exact congrArg (fun value => some [value]) hactivation
  · exact List.forall_mem_singleton.mpr hcontent
  · exact List.nodup_cons.mpr ⟨List.not_mem_nil, List.nodup_nil⟩

namespace Enrolment

open Work

variable {t : Table} {oracle : Oracle} {now : Int} {device : Device} {a : String}

/-- Without faults a batch of one ends as its only activation does. -/
theorem runUnit_registerBatch_one (t : Table) (oracle : Oracle) (now : Int)
    {request : BatchRequest} (hchecked : request.checked = .ok (device, [a])) :
    let batch := (registerBatch oracle now true request).runUnit t .none
    (∃ saved t', t.reconciledInBatch oracle now device [] a = .ok (saved, t') ∧
        batch.1 = .ok [⟨a, .ok saved.id⟩] ∧ batch.2.committed = t') ∨
      (∃ e, t.reconciledInBatch oracle now device [] a = .error e ∧ (∀ d, e ≠ .defect d) ∧
        batch.1 = .error (.app (.batchFailed [a])) ∧ batch.2.committed = t) ∨
      ∃ d, t.reconciledInBatch oracle now device [] a = .error (.defect d) ∧
        batch.1 = .error (.defect d) ∧ batch.2.committed = t := by
  intro batch
  have hs := Session.ready_begin t
  have hone : ∀ {o : Outcome} {s' : Session},
      attemptInBatch oracle now device [] a (Session.begin t .none) = (.ok o, s') →
        enrolAll oracle now device [] [a] (Session.begin t .none) = (.ok [o], s') :=
    fun hrun => enrolAll_cons_eq_ok_iff.mpr ⟨_, _, [], hrun, rfl, rfl⟩
  have hanswer : batch.1 = _ := runUnit_fst _ t .none
  have hafter : batch.2.committed = _ := committed_runUnit _ t .none
  rcases hrun : attemptInBatch oracle now device [] a (Session.begin t .none) with ⟨res, s'⟩
  have hattempt := attempt_of_settles hs.toSettled
    (settles_reconciledInBatch t oracle now device [] a)
  rw [hrun] at hattempt
  rcases hattempt.of_ready hs with ⟨saved, t', hr, rfl, hready⟩ | ⟨e, hr, hkind, rfl, hready⟩ |
    ⟨d, hr, rfl, hcommitted⟩
  · rw [registerBatch_of_enrolAll hchecked (hone hrun)] at hanswer hafter
    exact .inl ⟨saved, t', hr, hanswer, hafter.trans hready.committed⟩
  · rw [registerBatch_of_enrolAll hchecked (hone hrun)] at hanswer hafter
    exact .inr (.inl ⟨e, hr, hkind, hanswer, hafter.trans hready.committed⟩)
  · rw [registerBatch_apply hchecked, enrolAll_cons_of_error hrun] at hanswer hafter
    exact .inr (.inr ⟨d, hr, hanswer, hafter.trans hcommitted⟩)

/-- A single request and a batch of one, on the same table and without faults, end alike unless
several rows are found under the application and the token. All applications in the table have a
form in the store, since it holds no others. Both register the activation under the
same number, or both are refused, or both end with the same defect, and in the last two cases the
table is left. If they succeed then they leave the same table, except that a row that was found in
another application is moved by the batch and left there by the single request. -/
theorem register_agrees (oracle : Oracle) (now : Int) (t : Table) {request : SingleRequest}
    (hchecked : request.checked = .ok (device, a)) (hfits : fitsStore device.appId = true)
    (happs : ∀ row ∈ t.rows, fitsStore row.appId = true)
    (hreplies : ∀ e, oracle a = .error e → ∃ error, e = .app error)
    (hfound : ∀ rows, t.located device a = .ok rows → rows.length ≤ 1) :
    let single := (register oracle now request).runUnit t .none
    let batch := (registerBatch oracle now true request.asBatch).runUnit t .none
    (∃ (saved : Registration) (id : Int) (found : Option Row),
        single.1 = .ok saved ∧ saved.id = some id ∧ batch.1 = .ok [⟨a, .ok (some id)⟩] ∧
        t.located device a = .ok found.toList ∧ (∀ row, found = some row → row.id = id) ∧
        (∃ row ∈ single.2.committed.rows, row.id = id ∧
          row.appId = found.elim device.appId Row.appId) ∧
        batch.2.committed = single.2.committed.moved (some id) device.appId ∧
        (found.elim device.appId Row.appId = device.appId →
          batch.2.committed = single.2.committed)) ∨
      (∃ error, single.1 = .error (.app error) ∧ batch.1 = .error (.app (.batchFailed [a])) ∧
        single.2.committed = t ∧ batch.2.committed = t) ∨
      ∃ d, single.1 = .error (.defect d) ∧ batch.1 = .error (.defect d) ∧
        single.2.committed = t ∧ batch.2.committed = t := by
  intro single batch
  have hmoved := Table.reconciledInBatch_eq_moved oracle now hfits happs hfound
  have hbatch := runUnit_registerBatch_one t oracle now (SingleRequest.checked_asBatch hchecked)
  rcases (settles_register t oracle now hchecked).runUnit_cases .none with
    ⟨saved, hsingle, hr⟩ | ⟨e, hsingle, hleft, hr⟩
  · obtain ⟨found, answer, hlocated, -, hid, hadmits, hput⟩ := Table.reconciled_eq_ok hr
    rw [hmoved, hr] at hbatch
    rcases hbatch with ⟨_, _, ⟨⟩, hanswer, hafter⟩ | ⟨_, ⟨⟩, -⟩ | ⟨_, ⟨⟩, -⟩
    have hafter : batch.2.committed = single.2.committed.moved saved.id device.appId := hafter
    have hanswer : batch.1 = .ok [⟨a, .ok saved.id⟩] := hanswer
    rw [hid] at hafter hanswer
    have hmem := (Table.mem_put hadmits).mpr (.inl rfl)
    rw [← hput] at hmem
    refine .inl ⟨saved, _, found, hsingle, hid, hanswer, hlocated, ?_,
      ⟨_, hmem, rfl, Table.appId_enrolledRow⟩, hafter, fun happ => ?_⟩
    · rintro row rfl
      exact (Table.id_enrolledRow t _ device now (some row) answer).symm
    · exact hafter.trans (Table.moved_eq_self hmem (Table.appId_enrolledRow.trans happ))
  · have hr := hr.resolve_right fun h => h.1 rfl
    rw [hmoved, hr] at hbatch
    have hfree : FaultFree (oracle a) := by
      intro fault hfault
      obtain ⟨error, herror⟩ := hreplies _ hfault
      cases herror
    rcases hbatch with ⟨_, _, ⟨⟩, -⟩ | ⟨_, ⟨⟩, hkind, hanswer, hafter⟩ | ⟨d, ⟨⟩, hanswer, hafter⟩
    · cases e with
      | app error => exact .inr (.inl ⟨error, hsingle, hanswer, hleft, hafter⟩)
      | store fault => exact absurd hr (FaultFree.reconciled hfree fault)
      | defect d => exact absurd rfl (hkind d)
    · exact .inr (.inr ⟨d, hsingle, hanswer, hleft, hafter⟩)

end Enrolment

/-! ### A row of another application -/

/-- A table in which the activation `a` has a row of the application 2, beside a row of the
application 1 that is not bound. -/
def Table.elsewhere : Table where
  rows := [⟨1, 2, "S", "android", some "a", some "v", false, 0⟩,
    ⟨2, 1, "T", "ios", none, none, false, 0⟩]
  indexed := true
  ordered := by decide
  unique := by decide

/-- The single request leaves the row of `a` in the application 2, and the batch moves it to the
application 1. -/
theorem register_agrees_elsewhere :
    let request : SingleRequest := ⟨some 1, some "T", some "ios", some "a"⟩
    let single := (Enrolment.register .allActive 5 request).runUnit .elsewhere .none
    let batch := (Enrolment.registerBatch .allActive 5 true request.asBatch).runUnit .elsewhere .none
    request.checked = .ok (⟨1, "T", .ios⟩, "a") ∧
      (∀ row ∈ Table.elsewhere.rows, fitsStore row.appId = true) ∧
      (∀ rows, Table.elsewhere.located ⟨1, "T", .ios⟩ "a" = .ok rows → rows.length ≤ 1) ∧
      (∃ saved, single.1 = .ok saved ∧ saved.id = some 1) ∧ batch.1 = .ok [⟨"a", .ok (some 1)⟩] ∧
      single.2.committed.rows = [⟨1, 2, "T", "ios", some "a", none, true, 5⟩,
        ⟨2, 1, "T", "ios", none, none, false, 0⟩] ∧
      batch.2.committed.rows = [⟨1, 1, "T", "ios", some "a", none, true, 5⟩,
        ⟨2, 1, "T", "ios", none, none, false, 0⟩] := by
  intro request single batch
  have hchecked : request.checked = .ok (⟨1, "T", .ios⟩, "a") := by rfl
  have happs : ∀ row ∈ Table.elsewhere.rows, fitsStore row.appId = true := by decide
  have hlocated : Table.elsewhere.located ⟨1, "T", .ios⟩ "a" =
      .ok [⟨1, 2, "S", "android", some "a", some "v", false, 0⟩] := by rfl
  have hfound : ∀ rows, Table.elsewhere.located ⟨1, "T", .ios⟩ "a" = .ok rows →
      rows.length ≤ 1 := by
    rintro rows hrows
    cases hlocated.symm.trans hrows
    exact Nat.le_refl 1
  have hrows : single.2.committed.rows = [⟨1, 2, "T", "ios", some "a", none, true, 5⟩,
      ⟨2, 1, "T", "ios", none, none, false, 0⟩] := by decide +kernel
  rcases Enrolment.register_agrees .allActive 5 .elsewhere hchecked (by decide) happs
      (by rintro e ⟨⟩) hfound with
    ⟨saved, id, found, hsingle, hid, hbatch, hfoundrow, hnumber, -, hmoved, -⟩ |
    ⟨_, -, -, hleft, -⟩ | ⟨_, -, -, hleft, -⟩
  · have hlist := Except.ok.inj (hlocated.symm.trans hfoundrow)
    cases found with
    | none => cases hlist
    | some row =>
      obtain rfl := List.singleton_inj.mp hlist
      obtain rfl : 1 = id := hnumber _ rfl
      refine ⟨hchecked, happs, hfound, ⟨saved, hsingle, hid⟩, hbatch, hrows, ?_⟩
      refine (congrArg Table.rows hmoved).trans ?_
      rw [Table.rows_moved, hrows]
      rfl
  all_goals
    rw [hleft] at hrows
    exact absurd hrows (by decide)

end PushRegistry
