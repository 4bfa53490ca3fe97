import PushRegistry.Proofs.Enrolment.Idempotence
import PushRegistry.Proofs.Enrolment.Questions

/-!
# Single requests without faults

If no call of the store fails, what a request for one activation does to a table is decided by the
rows under three keys: the activation with the token, the activation, and the application with the
token. The first key that finds any rows decides. Several rows under it are complained about before
the activation service is asked. Otherwise the service is asked once, and if it answers then the
request is carried out: its row is written in place of the one that was found, or as a new one.

This holds on every table whose rows can stand in the store, with duplicates or without, and whether
its index is present or not. The index never refuses the row that is written. If the row is bound to
the activation of the request, then all rows of this activation with the token were looked up, and if
it is bound as it was before, then it also had the token before.

## Main definitions

* `Table.sought`: the rows under the first key that finds any.
* `Table.Takes`: a table in which a device has got its row.
* `Enrolment.Declines`: a request that is refused without a question.

## Main results

* `Table.forbids_enrolledRow_of_located`: the index admits the row that is written.
* `Enrolment.enrol_declines`, `Enrolment.enrol_of_answer`: how an enrolment ends.
* `Enrolment.register_outcome`: what a request does.
-/

namespace PushRegistry

namespace Row

variable {row : Row} {answer : Option ActivationReport}

/-- A row stays as it is if the activation does not exist or is removed. -/
theorem answered_of_removed (h : ∀ report, answer = some report → report.status = .removed) :
    row.answered answer = row := by
  have hnone : ActivationReport.binding? answer = none :=
    Option.filter_eq_none_iff.mpr fun report hreport => by
      simp [ActivationStatus.canBind, h report (Option.mem_def.mp hreport)]
  rw [answered, hnone]

theorem only_toList (appId : Int) (chosen : Option Row) :
    only appId chosen.toList = .ok chosen := by
  cases chosen <;> rfl

theorem only_of_several {appId : Int} {rows : List Row} (h : 2 ≤ rows.length) :
    only appId rows = .error (.app (.ambiguousToken appId rows.length)) := by
  match rows, h with
  | _ :: _ :: _, _ => rfl

end Row

namespace Table

variable {t : Table} {oracle : Oracle} {now appId : Int} {device : Device} {a : String}
  {chosen : Option Row} {answer : Option ActivationReport} {e : Failure}

/-! ### The rows that are found -/

/-- The rows under the first key that finds any: the activation with the token, the activation, and
the application with the token. -/
def sought (t : Table) (device : Device) (activationId : String) : List Row :=
  match t.boundWith activationId device.token, t.boundTo activationId with
  | [], [] => t.keyedBy device.appId device.token
  | [], rows => rows
  | rows, _ => rows

/-- A single row or none is found as it is sought. -/
theorem located_of_sought (hread : ∀ row ∈ t.rows, row.Readable)
    (hfits : fitsStore device.appId = true) (h : t.sought device a = chosen.toList) :
    t.located device a = .ok chosen.toList := by
  rw [located_of_readable hread hfits]
  rw [sought] at h
  rcases hone : t.boundWith a device.token with _ | ⟨row, _ | ⟨y, rest⟩⟩ <;> rw [hone] at h
  · rcases htwo : t.boundTo a with _ | ⟨row, _ | ⟨y, rest⟩⟩ <;> rw [htwo] at h
    · exact congrArg Except.ok h
    · exact congrArg Except.ok h
    · cases chosen <;> cases h
  · exact congrArg Except.ok h
  · cases chosen <;> cases h

/-- Several rows of the activation with the token are complained about. -/
theorem located_of_several_boundWith (hread : ∀ row ∈ t.rows, row.Readable)
    (hfits : fitsStore device.appId = true) (h : 2 ≤ (t.boundWith a device.token).length) :
    t.located device a =
      .error (.app (.duplicateBinding a (t.boundWith a device.token).length)) := by
  rw [located_of_readable hread hfits]
  match t.boundWith a device.token, h with
  | _ :: _ :: _, _ => rfl

/-- Several rows of the activation with other tokens are complained about. -/
theorem located_of_several_boundTo (hread : ∀ row ∈ t.rows, row.Readable)
    (hfits : fitsStore device.appId = true) (hnone : t.boundWith a device.token = [])
    (h : 2 ≤ (t.boundTo a).length) :
    t.located device a = .error (.app (.duplicateActivation a (t.boundTo a).length)) := by
  rw [located_of_readable hread hfits, hnone]
  match t.boundTo a, h with
  | _ :: _ :: _, _ => rfl

/-! ### The row that is written -/

/-- The index admits the row that a request for one activation writes. -/
theorem forbids_enrolledRow_of_located (hlocated : t.located device a = .ok chosen.toList)
    (hreports : oracle.ReportsAsked a) (hanswer : oracle a = .ok answer) :
    t.forbids (t.enrolledRow appId device now chosen answer) = false := by
  cases hindexed : t.indexed with
  | false => rw [forbids, hindexed, Bool.false_and]
  | true =>
    refine (forbids_eq_false_iff hindexed).mpr fun x hx => Bool.eq_false_iff.mpr fun hclash => ?_
    obtain ⟨hid, ⟨b, hb, hxb⟩, htoken⟩ := Row.clashes_eq_true_iff.mp hclash
    have hxtoken : x.token = device.token := htoken.symm.trans token_enrolledRow
    have hchosen : chosen ≠ some x := by
      rintro rfl
      exact hid (id_enrolledRow t appId device now (some x) answer)
    have hbound := activationId_enrolledRow_of_reports t appId device now chosen hreports hanswer
    rw [hb] at hbound
    rcases bound_or_unbound_of_located hlocated with
      ⟨row, hrow, -, hrowa, halone⟩ | ⟨hunbound, -, hkeyed⟩
    · -- the row found is the only one of the activation with the token
      obtain rfl := Option.toList_eq_singleton_iff.mp hrow
      obtain rfl : b = a := hbound.elim (fun h => Option.some.inj (h.trans hrowa)) Option.some.inj
      exact hchosen (congrArg some (halone x (mem_boundWith.mpr ⟨hx, hxb, hxtoken⟩)).symm)
    · rcases hbound with hkept | hasked
      · -- the row found had its activation and the token before
        obtain ⟨row, rfl, hrowb⟩ := Option.bind_eq_some_iff.mp hkept.symm
        obtain ⟨hrow, -, hrowtoken⟩ := mem_keyedBy.mp (hkeyed ▸ Option.mem_toList.mpr rfl)
        exact hchosen (congrArg some
          (eq_of_binding_eq hindexed hrow hx hrowb hxb (hrowtoken.trans hxtoken.symm)))
      · exact boundTo_eq_nil_iff.mp hunbound x hx (hxb.trans hasked)

/-- Whether a table is another one in which a device has got a row: the row of a target that was
found, or a new one. The row is bound as was answered, or as the target was if the activation does
not exist or is removed, and no other row differs. -/
structure Takes (t : Table) (device : Device) (now : Int) (activationId : String)
    (answer : Option ActivationReport) (target : Option Row) (row : Row) (t' : Table) : Prop where
  id : ∀ x, target = some x → row.id = x.id
  fresh : target = none → ∀ x ∈ t.rows, x.id ≠ row.id
  appId : row.appId = target.elim device.appId Row.appId
  token : row.token = device.token
  platform : row.platform = device.platform.name
  timestamp : row.timestamp = now
  bound : ∀ report, answer = some report → report.status ≠ .removed →
    row.activationId = some activationId ∧ row.userId.elim .null Json.text = report.userId ∧
      row.isActive = decide (report.status = .active)
  kept : (∀ report, answer = some report → report.status = .removed) →
    row.activationId = target.bind Row.activationId ∧ row.userId = target.bind Row.userId ∧
      row.isActive = target.any Row.isActive
  rows : ∀ x, x ∈ t'.rows ↔ x = row ∨ x ∈ t.rows ∧ x.id ≠ row.id
  indexed : t'.indexed = t.indexed

/-- The row that an enrolment writes is taken by its device. -/
theorem takes_put (hreports : oracle.ReportsAsked a) (hanswer : oracle a = .ok answer)
    (huser : ∀ report, answer = some report → report.userId.IsUser)
    (hadmits : t.forbids (t.enrolledRow (chosen.elim device.appId Row.appId) device now chosen
      answer) = false) :
    t.Takes device now a answer chosen
      (t.enrolledRow (chosen.elim device.appId Row.appId) device now chosen answer)
      (t.put _ hadmits) where
  id x hx := by
    rw [id_enrolledRow, hx]
    rfl
  fresh hnone x hx := id_ne_enrolledRow hx fun row hrow => nomatch hnone.symm.trans hrow
  appId := appId_enrolledRow
  token := token_enrolledRow
  platform := by rw [enrolledRow, Row.platform_answered, Row.heard]
  timestamp := by rw [← heard_enrolledRow, Row.heard]
  bound report hreport hstatus := by
    have hbind : report.status.canBind = true := bne_iff_ne.mpr hstatus
    subst hreport
    rw [enrolledRow, Row.answered_of_canBind hbind, hreports report hanswer]
    exact ⟨rfl, (elim_userColumn (huser report rfl)).symm, rfl⟩
  kept hremoved := by
    rw [enrolledRow, Row.answered_of_removed hremoved]
    cases chosen <;> exact ⟨rfl, rfl, rfl⟩
  rows x := mem_put hadmits
  indexed := rfl

end Table

namespace Enrolment

open Work

variable {t : Table} {oracle : Oracle} {now : Int} {device : Device} {a : String}
  {chosen : Option Row} {answer : Option ActivationReport} {e : Failure}

/-! ### Enrolments -/

/-- Whether a request that ran on a table was refused with an error of a kind, before anything was
asked, and has left the table as it was. -/
structure Declines {α : Type} (kind : ErrorKind) (error : AppError) (t : Table)
    (run : Except Failure α × Session) : Prop where
  kind : error.report.kind = kind
  result : run.1 = .error (.app error)
  asked : run.2.asked = []
  commits : run.2.commits = 0
  committed : run.2.committed = t

/-- An enrolment asks about its activation unless the choice is refused. -/
theorem asked_runUnit_enrol (oracle : Oracle) (now : Int) (device : Device) (a : String)
    (t : Table) :
    ((enrol oracle now device a).runUnit t .none).2.asked =
      if (t.located device a >>= Row.only device.appId).isOk then [a] else [] := by
  have hs := (Session.settled_begin t .none).toTidy
  have hchoice := comesTo_chooseSingle t device a now
  rw [asked_runUnit, asked_enrol]
  cases hchosen : t.located device a >>= Row.only device.appId with
  | error e =>
    rw [hchosen] at hchoice
    obtain ⟨s', hrun, -⟩ := hchoice.run_of_error hs rfl rfl
    rw [hrun]
    rfl
  | ok chosen =>
    rw [hchosen] at hchoice
    obtain ⟨s', hrun, -⟩ := hchoice.run_of_ok hs rfl rfl
    rw [hrun]
    rfl

/-- An enrolment commits once if it is carried out, and nothing if it fails. -/
theorem commits_runUnit_enrol (oracle : Oracle) (now : Int) (device : Device) (a : String)
    (t : Table) (plan : FaultPlan) :
    ((enrol oracle now device a).runUnit t plan).2.commits =
      if ((enrol oracle now device a).runUnit t plan).1.isOk then 1 else 0 := by
  rw [Session.commits, published_runUnit, runUnit_fst]
  rcases hrun : enrol oracle now device a (Session.begin t plan) with ⟨result, s'⟩
  rw [enrol_eq_commit] at hrun
  have htally := (comesTo_reconciled t oracle now device a).tally_commit id
    (Session.settled_begin t plan) rfl hrun
  rw [htally.2]
  cases result <;> rfl

theorem reconciled_eq_bind (t : Table) (oracle : Oracle) (now : Int) (device : Device) (a : String) :
    t.reconciled oracle now device a =
      (t.located device a >>= Row.only device.appId) >>= fun chosen =>
        t.enrolledInRange oracle now (chosen.elim device.appId Row.appId) device chosen a := by
  rw [Table.reconciled, bind_assoc]

/-- An enrolment is refused if the choice is. -/
theorem enrol_declines (oracle : Oracle) (now : Int) {kind : ErrorKind} {error : AppError}
    (hkind : error.report.kind = kind)
    (h : t.located device a >>= Row.only device.appId = .error (.app error)) :
    Declines kind error t ((enrol oracle now device a).runUnit t .none) := by
  have hsettles := settles_reconciled t oracle now device a
  rw [reconciled_eq_bind, h] at hsettles
  obtain ⟨hresult, hcommitted⟩ := Settles.runUnit_of_error (e := .app error) hsettles
  refine ⟨hkind, hresult, ?_, ?_, hcommitted⟩
  · rw [asked_runUnit_enrol, h]
    rfl
  · rw [commits_runUnit_enrol, hresult]
    rfl

theorem asked_runUnit_of_located (oracle : Oracle) (now : Int)
    (hlocated : t.located device a = .ok chosen.toList) :
    ((enrol oracle now device a).runUnit t .none).2.asked = [a] := by
  rw [asked_runUnit_enrol, hlocated]
  simp only [bind, Except.bind, Row.only_toList]
  rfl

theorem reconciled_of_located (oracle : Oracle) (now : Int)
    (hlocated : t.located device a = .ok chosen.toList) :
    t.reconciled oracle now device a =
      t.enrolledInRange oracle now (chosen.elim device.appId Row.appId) device chosen a := by
  rw [reconciled_eq_bind, hlocated]
  simp only [bind, Except.bind, Row.only_toList]

/-- If the service does not answer, its failure is the failure of the enrolment. -/
theorem enrol_of_failure (now : Int) (hlocated : t.located device a = .ok chosen.toList)
    (hfailure : oracle a = .error e) :
    let run := (enrol oracle now device a).runUnit t .none
    run.1 = .error e ∧ run.2.commits = 0 ∧ run.2.committed = t := by
  intro run
  have hsettles := settles_reconciled t oracle now device a
  have hwritten : t.reconciled oracle now device a = .error e := by
    rw [reconciled_of_located oracle now hlocated, Table.enrolledInRange, Table.enrolled, hfailure]
    split <;> rfl
  rw [hwritten] at hsettles
  obtain ⟨hresult, hcommitted⟩ := hsettles.runUnit_of_error
  refine ⟨hresult, ?_, hcommitted⟩
  rw [commits_runUnit_enrol, hresult]
  rfl

/-- If the service answers, the enrolment is carried out. -/
theorem enrol_of_answer (now : Int) (ht : ∀ row ∈ t.rows, row.Storable)
    (hfits : fitsStore device.appId = true) (hlocated : t.located device a = .ok chosen.toList)
    (hreports : oracle.ReportsAsked a) (hanswer : oracle a = .ok answer)
    (huser : ∀ report, answer = some report → report.userId.IsUser) :
    let run := (enrol oracle now device a).runUnit t .none
    ∃ row, run.1 = .ok row.read ∧ run.2.commits = 1 ∧
      t.Takes device now a answer chosen row run.2.committed := by
  intro run
  have hchosen : ∀ row, chosen = some row → row.Storable := by
    rintro row rfl
    exact ht row (Table.mem_of_located hlocated (List.mem_singleton_self row))
  have happ : fitsStore (chosen.elim device.appId Row.appId) = true := by
    cases chosen with
    | none => exact hfits
    | some row => exact (hchosen row rfl).app
  have hadmits : t.forbids (t.enrolledRow (chosen.elim device.appId Row.appId) device now chosen
      answer) = false :=
    Table.forbids_enrolledRow_of_located hlocated hreports hanswer
  have hsettles := settles_reconciled t oracle now device a
  rw [reconciled_of_located oracle now hlocated,
    Table.enrolledInRange_eq fun row hrow => (hchosen row hrow).id,
    Table.enrolled_of_admitted hanswer happ huser hadmits] at hsettles
  obtain ⟨hresult, hcommitted⟩ := hsettles.runUnit_of_ok
  refine ⟨_, hresult, ?_, ?_⟩
  · rw [commits_runUnit_enrol, hresult]
    rfl
  · rw [hcommitted]
    exact Table.takes_put hreports hanswer huser hadmits

/-! ### Requests -/

/-- A request in order is carried out for its device and its activation. -/
theorem register_of_checked (oracle : Oracle) (now : Int) {request : SingleRequest}
    (hchecked : request.checked = .ok (device, a)) :
    register oracle now request = enrol oracle now device a := by
  rw [register, hchecked]
  rfl

/-- What a request for one activation does. Several rows under the first key that finds any are
complained about, without a question. Otherwise the service is asked once; its failure is the failure
of the request, and if it answers then the request is carried out. -/
theorem register_outcome (oracle : Oracle) (now : Int) {request : SingleRequest}
    (hchecked : request.checked = .ok (device, a)) (ht : ∀ row ∈ t.rows, row.Storable)
    (hfits : fitsStore device.appId = true) (hreports : oracle.ReportsAsked a)
    (huser : ∀ report, oracle a = .ok (some report) → report.userId.IsUser) :
    let run := (register oracle now request).runUnit t .none
    let withToken := t.boundWith a device.token
    let bound := t.boundTo a
    let keyed := t.keyedBy device.appId device.token
    (2 ≤ withToken.length →
      Declines .consistencyViolation (.duplicateBinding a withToken.length) t run) ∧
    (withToken = [] → 2 ≤ bound.length →
      Declines .consistencyViolation (.duplicateActivation a bound.length) t run) ∧
    (withToken = [] → bound = [] → 2 ≤ keyed.length →
      Declines .ambiguousRegistration (.ambiguousToken device.appId keyed.length) t run) ∧
    ∀ target : Option Row, t.sought device a = target.toList →
      run.2.asked = [a] ∧
      (∀ e, oracle a = .error e →
        run.1 = .error e ∧ run.2.commits = 0 ∧ run.2.committed = t) ∧
      ∀ answer, oracle a = .ok answer →
        ∃ row, run.1 = .ok row.read ∧ run.2.commits = 1 ∧
          t.Takes device now a answer target row run.2.committed := by
  intro run withToken bound keyed
  have hread : ∀ row ∈ t.rows, row.Readable := fun row hrow => (ht row hrow).readable
  have hrun : run = (enrol oracle now device a).runUnit t .none :=
    congrArg (fun work => runUnit work t .none) (register_of_checked oracle now hchecked)
  rw [hrun]
  refine ⟨fun hmany => ?_, fun hnone hmany => ?_, fun hnone hunbound hmany => ?_,
    fun target hsought => ?_⟩
  · refine enrol_declines oracle now rfl ?_
    rw [Table.located_of_several_boundWith hread hfits hmany]
    rfl
  · refine enrol_declines oracle now rfl ?_
    rw [Table.located_of_several_boundTo hread hfits hnone hmany]
    rfl
  · refine enrol_declines oracle now rfl ?_
    have hfound : t.located device a = .ok keyed := by
      rw [Table.located_of_readable hread hfits, show t.boundWith a device.token = [] from hnone,
        show t.boundTo a = [] from hunbound]
    rw [hfound]
    exact Row.only_of_several hmany
  · have hfound := Table.located_of_sought hread hfits hsought
    exact ⟨asked_runUnit_of_located oracle now hfound, fun e => enrol_of_failure now hfound,
      fun answer hanswer => enrol_of_answer now ht hfits hfound hreports hanswer
        fun report hreport => huser report (hreport ▸ hanswer)⟩

end Enrolment

theorem Table.storable_rotated : ∀ row ∈ rotated.rows, row.Storable :=
  List.forall_mem_cons.mpr ⟨⟨rfl, rfl, .ios, rfl⟩, List.forall_mem_cons.mpr ⟨⟨rfl, rfl, .ios, rfl⟩,
    List.forall_mem_singleton.mpr ⟨rfl, rfl, .ios, rfl⟩⟩⟩

/-- A new token for the activation with two rows is refused, and one for the other activation comes
to its row. -/
theorem register_outcome_rotated :
    let request (a : String) : SingleRequest := ⟨some 1, some "T", some "ios", some a⟩
    let run (a : String) := (Enrolment.register .allActive 5 (request a)).runUnit .rotated .none
    let target : Row := ⟨3, 1, "S", "ios", some "a", none, false, 0⟩
    Enrolment.Declines .consistencyViolation (.duplicateActivation "z" 2) .rotated (run "z") ∧
      (run "a").2.asked = ["a"] ∧
      ∃ row, (run "a").1 = .ok row.read ∧ (run "a").2.commits = 1 ∧
        Table.rotated.Takes ⟨1, "T", .ios⟩ 5 "a" (some ⟨"a", .active, .null⟩) (some target) row
          (run "a").2.committed := by
  intro request run target
  have hchecked : ∀ a, ¬ Text.AllBlank a → (request a).checked = .ok (⟨1, "T", .ios⟩, a) :=
    fun a ha => SingleRequest.checked_eq_ok_iff.mpr
      ⟨rfl, Validation.requireText_eq_ok_iff.mpr ⟨rfl, ha⟩⟩
  have huser : ∀ a report, Oracle.allActive a = .ok (some report) → report.userId.IsUser := by
    rintro a _ ⟨⟩
    exact .inl rfl
  obtain ⟨-, hdeclines, -⟩ := Enrolment.register_outcome .allActive 5
    (hchecked "z" (by decide)) Table.storable_rotated rfl (Oracle.reportsAsked_allActive "z")
    (huser "z")
  obtain ⟨-, -, -, hcarried⟩ := Enrolment.register_outcome .allActive 5
    (hchecked "a" (by decide)) Table.storable_rotated rfl (Oracle.reportsAsked_allActive "a")
    (huser "a")
  obtain ⟨hasked, -, hanswered⟩ := hcarried (some target) (by decide)
  exact ⟨hdeclines (by decide) (by decide), hasked, hanswered _ rfl⟩

end PushRegistry
