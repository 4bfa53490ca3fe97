import PushRegistry.Proofs.Enrolment.Choice

/-!
# What an enrolment writes

Whatever registration was chosen for a device, the row that is written starts from the row chosen,
or from an empty one under the next number, takes token, platform and time from the request, and
takes activation, user and state from the answer of the activation service if the activation can be
bound to. A single request and an activation of a batch differ in the choice and in the application
of the row only.

## Main definitions

* `Row.heard`, `Row.answered`: a row with what a request says, and with what an answer says.
* `Table.enrolledRow`: the row that an enrolment writes.
* `Table.enrolled`: what an enrolment does to a table once the choice is made.
* `Table.reconciled`, `Table.reconciledInBatch`: what a single request and an activation of a batch
  do to any table.
* `Table.registered`, `Table.registeredInBatch`: what they do to a healthy table.

## Main results

* `Table.enrolled_eq_ok`: what a successful enrolment has written.
* `Table.enrolled_of_admitted`, `Table.enrolled_of_forbidden`: an enrolment with a usable answer
  fails only where the index forbids its row.
* `Enrolment.settles_reconciled`, `Enrolment.settles_reconciledInBatch`: the work of a single request
  and of an activation of a batch.
* `Enrolment.settles_enrol`, `Enrolment.settles_enrolInBatch`: the same on a healthy table.
-/

namespace PushRegistry

/-! ### Users -/

/-- The user of an answer as its column keeps it, with nothing for a user that it cannot keep. -/
def userColumn (user : Json) : Option String :=
  match columnText user with
  | .ok text => text
  | .error _ => none

/-- Users that are a text or nothing. -/
def Json.IsUser (user : Json) : Prop := user = .null ∨ ∃ s, user = .text s

theorem columnText_of_isUser {user : Json} (h : user.IsUser) :
    columnText user = .ok (userColumn user) := by
  rcases h with rfl | ⟨s, rfl⟩ <;> rfl

/-- A user is read back from its column as it was. -/
theorem elim_userColumn {user : Json} (h : user.IsUser) :
    user = (userColumn user).elim .null .text := by
  rcases h with rfl | ⟨s, rfl⟩ <;> rfl

theorem columnText_read (userId : Option String) :
    columnText (userId.elim .null Json.text) = .ok userId := by
  cases userId <;> rfl

/-! ### Answers -/

/-- An answer by which a registration is bound. -/
def ActivationReport.binding? (answer : Option ActivationReport) : Option ActivationReport :=
  answer.filter fun report => report.status.canBind

/-- A registration after an answer. -/
def Registration.answered (r : Registration) (answer : Option ActivationReport) : Registration :=
  match ActivationReport.binding? answer with
  | some report => r.bind report
  | none => r

namespace Row

/-- A row with what a request says of its device. -/
def heard (row : Row) (appId : Int) (device : Device) (now : Int) : Row :=
  { row with appId, token := device.token, platform := device.platform.name, timestamp := now }

/-- A row after an answer. -/
def answered (row : Row) (answer : Option ActivationReport) : Row :=
  match ActivationReport.binding? answer with
  | some report =>
    { row with
      activationId := some report.activationId
      userId := userColumn report.userId
      isActive := report.status.isActive }
  | none => row

variable {row : Row} {answer : Option ActivationReport}

@[simp] theorem id_answered : (row.answered answer).id = row.id := by
  rw [answered]
  split <;> rfl

@[simp] theorem appId_answered : (row.answered answer).appId = row.appId := by
  rw [answered]
  split <;> rfl

@[simp] theorem token_answered : (row.answered answer).token = row.token := by
  rw [answered]
  split <;> rfl

@[simp] theorem platform_answered : (row.answered answer).platform = row.platform := by
  rw [answered]
  split <;> rfl

theorem answered_of_canBind {report : ActivationReport} (h : report.status.canBind = true) :
    row.answered (some report) =
      { row with
        activationId := some report.activationId
        userId := userColumn report.userId
        isActive := report.status.isActive } := by
  rw [answered, ActivationReport.binding?, Option.filter_some, if_pos h]

theorem activationId_answered (row : Row) (answer : Option ActivationReport) :
    (row.answered answer).activationId = row.activationId ∨
      ∃ report, answer = some report ∧ report.status.canBind = true ∧
        (row.answered answer).activationId = some report.activationId := by
  rw [answered]
  split
  · next report hreport =>
    obtain ⟨hanswer, hbind⟩ := Option.filter_eq_some_iff.mp hreport
    exact .inr ⟨report, hanswer, hbind, rfl⟩
  · exact .inl rfl

/-- A registration that is read from a row has that row, also under another number and with another
state, if the row can stand in the store under that number. -/
theorem ofRegistration_read_eq_ok_iff {id : Int} {id? : Option Int} {isActive : Bool}
    {written : Row} :
    Row.ofRegistration id { row.read with id := id?, isActive } = .ok written ↔
      fitsStore row.appId = true ∧ row.Readable ∧ written = { row with id, isActive } := by
  rw [Row.ofRegistration_eq_ok_iff]
  constructor
  · rintro ⟨userId, platform, huser, hfits, hplatform, rfl⟩
    have hname : row.platform = platform.name := Platform.ofName?_eq_some_iff.mp hplatform
    have huserId : row.userId = userId :=
      Except.ok.inj ((columnText_read row.userId).symm.trans huser)
    exact ⟨hfits, ⟨platform, hname⟩, by simp [read, hname, huserId]⟩
  · rintro ⟨hfits, ⟨platform, hplatform⟩, rfl⟩
    exact ⟨row.userId, platform, columnText_read row.userId, hfits,
      Platform.ofName?_eq_some_iff.mpr hplatform, by simp [read, hplatform]⟩

/-- The row of an answered registration is the answered row. -/
theorem eq_answered_of_ofRegistration {id : Int} {id? : Option Int} {written : Row}
    (h : Row.ofRegistration id ({ row.read with id := id? }.answered answer) = .ok written) :
    fitsStore row.appId = true ∧ written = { row.answered answer with id } := by
  rw [Registration.answered] at h
  rw [answered]
  cases hbinding : ActivationReport.binding? answer with
  | some report =>
    rw [hbinding] at h
    obtain ⟨userId, platform, huser, hfits, hplatform, rfl⟩ := Row.ofRegistration_eq_ok_iff.mp h
    have hname : row.platform = platform.name := Platform.ofName?_eq_some_iff.mp hplatform
    have huserId : userColumn report.userId = userId := by
      rw [userColumn, show columnText report.userId = .ok userId from huser]
    exact ⟨hfits, by simp [Registration.bind, read, hname, huserId]⟩
  | none =>
    rw [hbinding] at h
    obtain ⟨hfits, -, hwritten⟩ := ofRegistration_read_eq_ok_iff.mp h
    exact ⟨hfits, hwritten⟩

/-- An answered registration has a row if its application and its user have forms in the table. -/
theorem ofRegistration_answered (id : Int) (id? : Option Int) (hread : row.Readable)
    (hfits : fitsStore row.appId = true)
    (huser : ∀ report, answer = some report → report.userId.IsUser) :
    Row.ofRegistration id ({ row.read with id := id? }.answered answer) =
      .ok { row.answered answer with id } := by
  rw [Registration.answered, answered]
  cases hbinding : ActivationReport.binding? answer with
  | some report =>
    have hanswer := (Option.filter_eq_some_iff.mp hbinding).1
    obtain ⟨platform, hplatform⟩ := hread
    exact Row.ofRegistration_eq_ok_iff.mpr ⟨userColumn report.userId, platform,
      columnText_of_isUser (huser report hanswer), hfits,
      Platform.ofName?_eq_some_iff.mpr hplatform, by simp [Registration.bind, read, hplatform]⟩
  | none => exact ofRegistration_read_eq_ok_iff.mpr ⟨hfits, hread, rfl⟩

/-- A row after an answer is read as its registration after the answer. -/
theorem read_answered (huser : ∀ report, answer = some report → report.userId.IsUser) :
    (row.answered answer).read = row.read.answered answer := by
  rw [answered, Registration.answered]
  cases hbinding : ActivationReport.binding? answer with
  | none => rfl
  | some report =>
    have huser := huser report (Option.filter_eq_some_iff.mp hbinding).1
    simp only [read, Registration.bind, ← elim_userColumn huser]

theorem readable_heard (row : Row) (appId : Int) (device : Device) (now : Int) :
    (row.heard appId device now).Readable :=
  ⟨device.platform, rfl⟩

theorem readable_answered (h : row.Readable) : (row.answered answer).Readable := by
  obtain ⟨platform, hplatform⟩ := h
  exact ⟨platform, by rw [platform_answered, hplatform]⟩

end Row

/-! ### The row that is written -/

namespace Table

/-- The row that an enrolment starts from: the row chosen, or an empty one under the next number. -/
def startRow (t : Table) (device : Device) (now : Int) : Option Row → Row
  | some row => row
  | none => ⟨t.nextId, device.appId, device.token, "", none, none, false, now⟩

/-- The row that an enrolment writes. -/
def enrolledRow (t : Table) (appId : Int) (device : Device) (now : Int) (chosen : Option Row)
    (answer : Option ActivationReport) : Row :=
  ((t.startRow device now chosen).heard appId device now).answered answer

/-- The registration of a device that was heard of, before an answer. -/
def current (t : Table) (appId : Int) (device : Device) (now : Int) (chosen : Option Row) :
    Registration :=
  { ((t.startRow device now chosen).heard appId device now).read with id := chosen.map Row.id }

/-- An enrolment once the choice is made: an answer is asked for and the row is written. -/
def enrolled (t : Table) (oracle : Oracle) (now : Int) (appId : Int) (device : Device)
    (chosen : Option Row) (activationId : String) : Except Failure (Registration × Table) := do
  let answer ← oracle activationId
  t.saved ((t.current appId device now chosen).answered answer)

/-- An enrolment of a row whose number may be out of range, which shows after the answer. -/
def enrolledInRange (t : Table) (oracle : Oracle) (now : Int) (appId : Int) (device : Device)
    (chosen : Option Row) (activationId : String) : Except Failure (Registration × Table) :=
  if chosen.all fun row => fitsStore row.id then
    t.enrolled oracle now appId device chosen activationId
  else oracle activationId >>= fun _ => .error (.defect .integerRange)

variable {t t' : Table} {oracle : Oracle} {now appId : Int} {device : Device}
  {chosen : Option Row} {a : String} {answer : Option ActivationReport} {saved : Registration}

@[simp] theorem id_enrolledRow (t : Table) (appId : Int) (device : Device) (now : Int)
    (chosen : Option Row) (answer : Option ActivationReport) :
    (t.enrolledRow appId device now chosen answer).id = (chosen.map Row.id).getD t.nextId := by
  rw [enrolledRow, Row.id_answered]
  cases chosen <;> rfl

/-- The row has the number of no row but the one chosen. -/
theorem id_ne_enrolledRow {x : Row} (hx : x ∈ t.rows)
    (hchosen : ∀ row, chosen = some row → x.id ≠ row.id) :
    x.id ≠ (t.enrolledRow appId device now chosen answer).id := by
  rw [id_enrolledRow]
  cases chosen with
  | none => exact Int.ne_of_lt (lt_nextId hx)
  | some row => exact hchosen row rfl

@[simp] theorem appId_enrolledRow :
    (t.enrolledRow appId device now chosen answer).appId = appId := by
  rw [enrolledRow, Row.appId_answered, Row.heard]

@[simp] theorem token_enrolledRow :
    (t.enrolledRow appId device now chosen answer).token = device.token := by
  rw [enrolledRow, Row.token_answered, Row.heard]

theorem readable_enrolledRow : (t.enrolledRow appId device now chosen answer).Readable :=
  Row.readable_answered (Row.readable_heard _ appId device now)

/-- The row keeps through the answer what was heard of its device. -/
theorem heard_enrolledRow :
    (t.enrolledRow appId device now chosen answer).heard appId device now =
      t.enrolledRow appId device now chosen answer := by
  rw [enrolledRow, Row.answered]
  split <;> rfl

/-- The row is bound as the row chosen is, or as the answer says. -/
theorem activationId_enrolledRow (t : Table) (appId : Int) (device : Device) (now : Int)
    (chosen : Option Row) (answer : Option ActivationReport) :
    (t.enrolledRow appId device now chosen answer).activationId = chosen.bind Row.activationId ∨
      ∃ report, answer = some report ∧ report.status.canBind = true ∧
        (t.enrolledRow appId device now chosen answer).activationId =
          some report.activationId := by
  rw [enrolledRow]
  rcases Row.activationId_answered ((t.startRow device now chosen).heard appId device now) answer
    with hkept | hanswer
  · rw [hkept]
    exact .inl (by cases chosen <;> rfl)
  · exact .inr hanswer

theorem id_answered_current :
    ((t.current appId device now chosen).answered answer).id = chosen.map Row.id := by
  rw [Registration.answered]
  split <;> rfl

theorem enrolledInRange_eq (h : ∀ row, chosen = some row → fitsStore row.id = true) :
    t.enrolledInRange oracle now appId device chosen a =
      t.enrolled oracle now appId device chosen a := by
  rw [enrolledInRange, if_pos]
  cases chosen with
  | none => rfl
  | some row => exact h row rfl

/-- The number of a row has a form in the store, or it shows that it has none. -/
theorem enrolledInRange_cases (t : Table) (oracle : Oracle) (now appId : Int) (device : Device)
    (chosen : Option Row) (a : String) :
    t.enrolledInRange oracle now appId device chosen a =
        t.enrolled oracle now appId device chosen a ∨
      (∃ row, chosen = some row ∧ fitsStore row.id = false) ∧
        t.enrolledInRange oracle now appId device chosen a = .error (.defect .integerRange) := by
  by_cases hfits : ∀ row, chosen = some row → fitsStore row.id = true
  · exact .inl (enrolledInRange_eq hfits)
  · simp only [Classical.not_forall, Bool.not_eq_true] at hfits
    obtain ⟨row, rfl, hout⟩ := hfits
    rw [enrolledInRange, if_neg (by simpa using hout), enrolled]
    cases oracle a with
    | error e => exact .inl rfl
    | ok answer => exact .inr ⟨⟨row, rfl, hout⟩, rfl⟩

/-- An enrolment that succeeds refers to a row in range. -/
theorem enrolled_of_enrolledInRange {result : Registration × Table}
    (h : t.enrolledInRange oracle now appId device chosen a = .ok result) :
    t.enrolled oracle now appId device chosen a = .ok result := by
  rcases t.enrolledInRange_cases oracle now appId device chosen a with hresult | ⟨-, hresult⟩ <;>
    rw [hresult] at h
  · exact h
  · cases h

/-- A successful enrolment has put its row into the table. -/
theorem enrolled_eq_ok (h : t.enrolled oracle now appId device chosen a = .ok (saved, t')) :
    ∃ answer, oracle a = .ok answer ∧ fitsStore appId = true ∧
      saved.id = some (t.enrolledRow appId device now chosen answer).id ∧
      ∃ hadmits : t.forbids (t.enrolledRow appId device now chosen answer) = false,
        t' = t.put (t.enrolledRow appId device now chosen answer) hadmits := by
  obtain ⟨answer, hanswer, h⟩ := bind_eq_ok_iff.mp h
  obtain ⟨row, hrow, ⟨hadmits, rfl⟩, rfl⟩ := saved_eq_ok_iff.mp h
  rw [id_answered_current] at hrow
  obtain ⟨hfits, hwritten⟩ := Row.eq_answered_of_ofRegistration hrow
  have hrow : row = t.enrolledRow appId device now chosen answer := by
    rw [hwritten, ← id_enrolledRow t appId device now chosen answer, enrolledRow]
  subst hrow
  exact ⟨answer, hanswer, hfits, rfl, hadmits, rfl⟩

theorem ofRegistration_current (hfits : fitsStore appId = true)
    (huser : ∀ report, answer = some report → report.userId.IsUser) :
    Row.ofRegistration ((chosen.map Row.id).getD t.nextId)
        ((t.current appId device now chosen).answered answer) =
      .ok (t.enrolledRow appId device now chosen answer) := by
  have hread := Row.readable_heard (t.startRow device now chosen) appId device now
  refine (Row.ofRegistration_answered _ (chosen.map Row.id) hread hfits huser).trans
    (congrArg Except.ok ?_)
  rw [← id_enrolledRow t appId device now chosen answer, enrolledRow]

/-- The registration after an answer is, under the number of its row, what the row is read as. -/
theorem answered_current (huser : ∀ report, answer = some report → report.userId.IsUser) :
    { (t.current appId device now chosen).answered answer with
      id := some (t.enrolledRow appId device now chosen answer).id } =
      (t.enrolledRow appId device now chosen answer).read := by
  rw [enrolledRow, Row.read_answered huser, Row.id_answered, current, Registration.answered,
    Registration.answered]
  cases ActivationReport.binding? answer <;> rfl

/-- An enrolment with a usable answer writes its row if the index admits it. -/
theorem enrolled_of_admitted (hanswer : oracle a = .ok answer) (hfits : fitsStore appId = true)
    (huser : ∀ report, answer = some report → report.userId.IsUser)
    (hadmits : t.forbids (t.enrolledRow appId device now chosen answer) = false) :
    t.enrolled oracle now appId device chosen a =
      .ok ((t.enrolledRow appId device now chosen answer).read,
        t.put (t.enrolledRow appId device now chosen answer) hadmits) := by
  rw [enrolled, hanswer]
  refine saved_eq_ok_iff.mpr ⟨t.enrolledRow appId device now chosen answer, ?_, ⟨hadmits, rfl⟩,
    (answered_current huser).symm⟩
  rw [id_answered_current]
  exact ofRegistration_current hfits huser

/-- An enrolment with a usable answer fails if the index forbids its row. -/
theorem enrolled_of_forbidden (hanswer : oracle a = .ok answer) (hfits : fitsStore appId = true)
    (huser : ∀ report, answer = some report → report.userId.IsUser)
    (hforbids : t.forbids (t.enrolledRow appId device now chosen answer) = true) :
    ∃ activationId, t.enrolled oracle now appId device chosen a =
      .error (.app (.bindingTaken activationId)) := by
  refine ⟨((t.current appId device now chosen).answered answer).activationId, ?_⟩
  simp only [enrolled, hanswer, bind, Except.bind, saved, id_answered_current,
    ofRegistration_current hfits huser, store_eq_error hforbids]
  rfl

/-- An enrolment fails with the failure of the question, or because its row is not saved. -/
theorem enrolled_eq_error {e : Failure}
    (h : t.enrolled oracle now appId device chosen a = .error e) :
    oracle a = .error e ∨ e.Accidental ∨ ∃ d, e = .defect d := by
  rcases bind_eq_error_iff.mp h with hanswer | ⟨answer, -, h⟩
  · exact .inl hanswer
  · exact .inr (saved_eq_error h)

end Table

namespace Enrolment

open Work

variable {t : Table} {oracle : Oracle} {now : Int} {device : Device} {a : String}

/-! ### Work -/

theorem comesTo_ask (oracle : Oracle) (a : String) :
    (ask oracle a).ComesTo t ((oracle a).map fun answer => (answer, t)) := by
  refine (comesTo_update fun s => ?_).bind_ok (comesTo_read fun _ _ _ => rfl)
  exact ⟨.of_eq rfl rfl rfl rfl rfl, rfl, rfl, rfl⟩

/-- Binding gives the registration with what the answer says. -/
theorem comesTo_bindActivation (oracle : Oracle) (r : Registration) (a : String) :
    (bindActivation oracle r a).ComesTo t
      ((oracle a).map fun answer => (r.answered answer, t)) := by
  have hask := comesTo_ask (t := t) oracle a
  have hnote : ∀ status, (record (.notBound a r.id status)).ComesTo t (.ok ((), t)) :=
    fun status => comesTo_record (by simp [LogEntry.severity])
  rw [bindActivation]
  cases hanswer : oracle a with
  | error e =>
    rw [hanswer] at hask
    exact hask.bind_error _
  | ok answer =>
    rw [hanswer] at hask
    refine hask.bind_ok ?_
    cases answer with
    | none => exact (hnote none).bind_ok (comesTo_pure r)
    | some report =>
      change (if report.status.canBind then pure (r.bind report) else _ : Work _).ComesTo t _
      by_cases hbind : report.status.canBind = true
      · rw [if_pos hbind]
        have hresult : r.answered (some report) = r.bind report := by
          rw [Registration.answered, ActivationReport.binding?, Option.filter_some, if_pos hbind]
        rw [show Except.map (fun answer => (r.answered answer, t)) (Except.ok (some report)) =
          Except.ok (r.answered (some report), t) from rfl, hresult]
        exact comesTo_pure _
      · rw [if_neg hbind]
        have hresult : r.answered (some report) = r := by
          rw [Registration.answered, ActivationReport.binding?, Option.filter_some, if_neg hbind]
        rw [show Except.map (fun answer => (r.answered answer, t)) (Except.ok (some report)) =
          Except.ok (r.answered (some report), t) from rfl, hresult]
        exact (hnote (some report.status)).bind_ok (comesTo_pure r)

/-- What is written once the choice is made, for a row whose number is in the table. -/
theorem comesTo_enrolledInRange {appId : Int} {chosen : Option Row}
    (hchosen : ∀ row, chosen = some row → ∃ x ∈ t.rows, x.id = row.id) :
    (bindActivation oracle (t.current appId device now chosen) a >>= save).ComesTo t
      (t.enrolledInRange oracle now appId device chosen a) := by
  have hbind := comesTo_bindActivation (t := t) oracle (t.current appId device now chosen) a
  cases hanswer : oracle a with
  | error e =>
    rw [hanswer] at hbind
    rw [Table.enrolledInRange, Table.enrolled, hanswer]
    split <;> exact hbind.bind_error _
  | ok answer =>
    rw [hanswer] at hbind
    by_cases hfits : ∀ row, chosen = some row → fitsStore row.id = true
    · rw [Table.enrolledInRange_eq hfits, Table.enrolled, hanswer]
      refine hbind.bind_ok (comesTo_save fun id hid => ?_)
      rw [Table.id_answered_current] at hid
      obtain ⟨row, hrow, rfl⟩ := Option.map_eq_some_iff.mp hid
      exact ⟨hfits row hrow, hchosen row hrow⟩
    · simp only [Classical.not_forall, Bool.not_eq_true] at hfits
      obtain ⟨row, rfl, hout⟩ := hfits
      rw [Table.enrolledInRange, hanswer, if_neg (by simpa using hout)]
      have hid : ((t.current appId device now (some row)).answered answer).id = some row.id :=
        Table.id_answered_current
      exact hbind.bind_ok (comesTo_save_outOfRange hid hout)

end Enrolment

/-! ### Requests -/

namespace Table

/-- What a request for one activation does to any table. -/
def reconciled (t : Table) (oracle : Oracle) (now : Int) (device : Device) (activationId : String) :
    Except Failure (Registration × Table) := do
  let rows ← t.located device activationId
  let chosen ← Row.only device.appId rows
  t.enrolledInRange oracle now (chosen.elim device.appId Row.appId) device chosen activationId

/-- What an activation of a batch does to any table. -/
def reconciledInBatch (t : Table) (oracle : Oracle) (now : Int) (device : Device)
    (claimed : List Int) (activationId : String) : Except Failure (Registration × Table) := do
  let rows ← t.located device activationId
  let t' ← t.cleared claimed rows
  t'.enrolledInRange oracle now device.appId device (Row.unclaimed? claimed rows) activationId

/-- What a request for one activation does to a healthy table. -/
def registered (t : Table) (oracle : Oracle) (now : Int) (device : Device) (activationId : String) :
    Except Failure (Registration × Table) :=
  match t.candidates device activationId with
  | [] => t.enrolled oracle now device.appId device none activationId
  | [row] => t.enrolled oracle now row.appId device (some row) activationId
  | rows => .error (.app (.ambiguousToken device.appId rows.length))

/-- What an activation of a batch does to a healthy table. -/
def registeredInBatch (t : Table) (oracle : Oracle) (now : Int) (device : Device)
    (claimed : List Int) (activationId : String) : Except Failure (Registration × Table) :=
  (t.vacated device claimed activationId).enrolled oracle now device.appId device
    (t.chosenInBatch device claimed activationId) activationId

variable {t t' : Table} {oracle : Oracle} {now : Int} {device : Device} {a : String}
  {claimed : List Int} {rows : List Row}

/-- A row that an activation of a batch takes over has not made place. -/
theorem cleared_of_unclaimed {row : Row} (h : Row.unclaimed? claimed rows = some row) :
    t.cleared claimed rows = .ok t := by
  rw [(Row.eq_singleton_of_unclaimed? h).1]
  rfl

/-- A request for one activation that was carried out has enrolled the row that it chose. -/
theorem enrolled_of_reconciled {saved : Registration}
    (h : t.reconciled oracle now device a = .ok (saved, t')) :
    ∃ chosen : Option Row, t.located device a = .ok chosen.toList ∧
      t.enrolled oracle now (chosen.elim device.appId Row.appId) device chosen a =
        .ok (saved, t') := by
  rw [reconciled] at h
  obtain ⟨rows, hlocated, h⟩ := bind_eq_ok_iff.mp h
  obtain ⟨chosen, hchosen, hwritten⟩ := bind_eq_ok_iff.mp h
  obtain rfl := Row.eq_toList_of_only hchosen
  exact ⟨chosen, hlocated, enrolled_of_enrolledInRange hwritten⟩

/-- A request for one activation that is carried out has put its row into the table. -/
theorem reconciled_eq_ok {saved : Registration}
    (h : t.reconciled oracle now device a = .ok (saved, t')) :
    ∃ (chosen : Option Row) (answer : Option ActivationReport),
      t.located device a = .ok chosen.toList ∧ oracle a = .ok answer ∧
      saved.id = some (t.enrolledRow (chosen.elim device.appId Row.appId) device now chosen
        answer).id ∧
      ∃ hadmits : t.forbids (t.enrolledRow (chosen.elim device.appId Row.appId) device now chosen
          answer) = false, t' = t.put _ hadmits := by
  obtain ⟨chosen, hrows, hwritten⟩ := enrolled_of_reconciled h
  obtain ⟨answer, hanswer, -, hid, hput⟩ := enrolled_eq_ok hwritten
  exact ⟨chosen, answer, hrows, hanswer, hid, hput⟩

/-- An activation of a batch that is registered has put its row into the table, after rows have made
place. -/
theorem reconciledInBatch_eq_ok {saved : Registration}
    (h : t.reconciledInBatch oracle now device claimed a = .ok (saved, t')) :
    ∃ rows t₁ answer, t.located device a = .ok rows ∧ t.cleared claimed rows = .ok t₁ ∧
      oracle a = .ok answer ∧
      saved.id = some (t₁.enrolledRow device.appId device now (Row.unclaimed? claimed rows)
        answer).id ∧
      ∃ hadmits : t₁.forbids (t₁.enrolledRow device.appId device now
          (Row.unclaimed? claimed rows) answer) = false,
        t' = t₁.put _ hadmits := by
  rw [reconciledInBatch] at h
  obtain ⟨rows, hrows, h⟩ := bind_eq_ok_iff.mp h
  obtain ⟨t₁, hcleared, h⟩ := bind_eq_ok_iff.mp h
  obtain ⟨answer, hanswer, -, hid, hput⟩ := enrolled_eq_ok (enrolled_of_enrolledInRange h)
  exact ⟨rows, t₁, answer, hrows, hcleared, hanswer, hid, hput⟩

/-- In a healthy table a request for one activation chooses among the candidates. -/
theorem Healthy.reconciled_cases (ht : t.Healthy) (oracle : Oracle) (now : Int) (device : Device)
    (a : String) :
    t.reconciled oracle now device a = t.registered oracle now device a ∨
      ¬ t.Fits device.appId [] ∧
        t.reconciled oracle now device a = .error (.defect .integerRange) := by
  rw [reconciled, registered]
  rcases ht.located_cases device a with hrows | ⟨hout, hrows⟩ <;> rw [hrows]
  · rcases hcandidates : t.candidates device a with _ | ⟨row, _ | ⟨y, rest⟩⟩
    · left
      change t.enrolledInRange oracle now device.appId device none a = _
      exact enrolledInRange_eq fun row hrow => nomatch hrow
    · have hmem : row ∈ t.rows := mem_of_mem_candidates (by rw [hcandidates]; simp)
      refine (t.enrolledInRange_cases oracle now row.appId device (some row) a).imp id ?_
      rintro ⟨⟨_, ⟨⟩, hout⟩, hresult⟩
      refine ⟨fun hfits => ?_, hresult⟩
      cases hout.symm.trans (hfits.ids row hmem List.not_mem_nil)
    · exact .inl rfl
  · exact .inr ⟨fun hfits => Bool.false_ne_true (hout.symm.trans hfits.app), rfl⟩

/-- In a healthy table an activation of a batch chooses among the candidates. -/
theorem Healthy.reconciledInBatch_cases (ht : t.Healthy) (oracle : Oracle) (now : Int)
    (device : Device) (claimed : List Int) (a : String) :
    t.reconciledInBatch oracle now device claimed a =
        t.registeredInBatch oracle now device claimed a ∨
      ¬ t.Fits device.appId claimed ∧
        t.reconciledInBatch oracle now device claimed a = .error (.defect .integerRange) := by
  rw [reconciledInBatch, registeredInBatch, chosenInBatch_eq]
  rcases ht.located_cases device a with hrows | ⟨hout, hrows⟩ <;> rw [hrows]
  · simp only [bind, Except.bind]
    rcases t.cleared_cases device claimed a with hcleared | ⟨hout, hcleared⟩ <;> rw [hcleared]
    · refine (enrolledInRange_cases _ oracle now device.appId device _ a).imp id ?_
      rintro ⟨⟨row, hrow, hout⟩, hresult⟩
      refine ⟨fun hfits => ?_, hresult⟩
      obtain ⟨hsole, hclaimed⟩ := Row.eq_singleton_of_unclaimed? hrow
      have hmem : row ∈ t.rows := mem_of_mem_candidates (by rw [hsole]; simp)
      cases hout.symm.trans (hfits.ids row hmem hclaimed)
    · exact .inr ⟨hout, rfl⟩
  · exact .inr ⟨fun hfits => Bool.false_ne_true (hout.symm.trans hfits.app), rfl⟩

end Table

namespace Enrolment

open Work

variable {t : Table}

theorem touch_startFrom (t : Table) (device : Device) (now : Int) (chosen : Option Row) :
    { startFrom device now chosen with token := device.token }.touch device.platform now =
      t.current (chosen.elim device.appId Row.appId) device now chosen := by
  cases chosen <;> simp [startFrom, Registration.create, Registration.touch, Table.current,
    Table.startRow, Row.heard, Row.read]

theorem touch_startFrom_app (t : Table) (device : Device) (now : Int) (chosen : Option Row) :
    { startFrom device now chosen with appId := device.appId, token := device.token }.touch
        device.platform now = t.current device.appId device now chosen := by
  cases chosen <;> simp [startFrom, Registration.create, Registration.touch, Table.current,
    Table.startRow, Row.heard, Row.read]

theorem enrol_eq_commit (oracle : Oracle) (now : Int) (device : Device) (a : String) :
    enrol oracle now device a =
      (chooseSingle device a now >>= fun chosen =>
        bindActivation oracle ({ chosen with token := device.token }.touch device.platform now) a
          >>= save) >>= fun saved => commit >>= fun _ => pure saved := by
  rw [enrol]
  simp only [bind_assoc]

theorem enrolInBatch_eq_commit (oracle : Oracle) (now : Int) (device : Device)
    (claimed : List Int) (a : String) :
    enrolInBatch oracle now device claimed a =
      (chooseInBatch device a now claimed >>= fun chosen =>
        bindActivation oracle ({ chosen with appId := device.appId, token := device.token }.touch
          device.platform now) a >>= save) >>= fun saved => commit >>= fun _ => pure saved := by
  rw [enrolInBatch]
  simp only [bind_assoc]

theorem settles_commit {work : Work Registration} {r : Except Failure (Registration × Table)}
    (h : work.ComesTo t r) :
    (work >>= fun saved => commit >>= fun _ => pure saved).Settles t r := by
  have hcommit := h.commit id
  cases r <;> exact hcommit

/-- A request for one activation comes to what `Table.reconciled` says before it commits. -/
theorem comesTo_reconciled (t : Table) (oracle : Oracle) (now : Int) (device : Device)
    (a : String) :
    (chooseSingle device a now >>= fun chosen =>
      bindActivation oracle ({ chosen with token := device.token }.touch device.platform now) a
        >>= save).ComesTo t (t.reconciled oracle now device a) := by
  rw [Table.reconciled, ← bind_assoc (t.located device a)]
  refine (comesTo_chooseSingle t device a now).bind_map fun chosen hchosen => ?_
  obtain ⟨rows, hrows, honly⟩ := bind_eq_ok_iff.mp hchosen
  rw [touch_startFrom t]
  refine comesTo_enrolledInRange fun row hrow => ?_
  obtain rfl := Row.eq_toList_of_only (hrow ▸ honly)
  exact ⟨row, Table.mem_of_located hrows (List.mem_singleton.mpr rfl), rfl⟩

/-- An activation of a batch comes to what `Table.reconciledInBatch` says before it commits. -/
theorem comesTo_reconciledInBatch (t : Table) (oracle : Oracle) (now : Int) (device : Device)
    (claimed : List Int) (a : String) :
    (chooseInBatch device a now claimed >>= fun chosen =>
      bindActivation oracle ({ chosen with appId := device.appId, token := device.token }.touch
        device.platform now) a >>= save).ComesTo t
      (t.reconciledInBatch oracle now device claimed a) := by
  have hsteps : t.reconciledInBatch oracle now device claimed a =
      t.locatedInBatch device claimed a >>= fun x =>
        x.2.enrolledInRange oracle now device.appId device (Row.unclaimed? claimed x.1) a := by
    simp only [Table.reconciledInBatch, Table.locatedInBatch, bind_assoc, pure_bind]
  rw [hsteps]
  refine (comesTo_chooseInBatch t device a now claimed).bind_map fun x hx => ?_
  obtain ⟨rows, hrows, hx⟩ := bind_eq_ok_iff.mp hx
  obtain ⟨t', hcleared, ⟨⟩⟩ := bind_eq_ok_iff.mp hx
  rw [touch_startFrom_app t']
  refine comesTo_enrolledInRange fun row hrow => ?_
  have ht' : t' = t := Except.ok.inj (hcleared.symm.trans (Table.cleared_of_unclaimed hrow))
  obtain ⟨rfl, -⟩ := Row.eq_singleton_of_unclaimed? hrow
  rw [ht']
  exact ⟨row, Table.mem_of_located hrows (List.mem_singleton.mpr rfl), rfl⟩

/-- A request for one activation does what `Table.reconciled` says. -/
theorem settles_reconciled (t : Table) (oracle : Oracle) (now : Int) (device : Device)
    (a : String) :
    (enrol oracle now device a).Settles t (t.reconciled oracle now device a) := by
  rw [enrol_eq_commit]
  exact settles_commit (comesTo_reconciled t oracle now device a)

/-- An activation of a batch does what `Table.reconciledInBatch` says. -/
theorem settles_reconciledInBatch (t : Table) (oracle : Oracle) (now : Int) (device : Device)
    (claimed : List Int) (a : String) :
    (enrolInBatch oracle now device claimed a).Settles t
      (t.reconciledInBatch oracle now device claimed a) := by
  rw [enrolInBatch_eq_commit]
  exact settles_commit (comesTo_reconciledInBatch t oracle now device claimed a)

/-- A request in order does what `Table.reconciled` says. -/
theorem settles_register (t : Table) (oracle : Oracle) (now : Int) {request : SingleRequest}
    {device : Device} {a : String}
    (hchecked : request.checked = .ok (device, a)) :
    (register oracle now request).Settles t (t.reconciled oracle now device a) := by
  have hcheck : (check request.checked).ComesTo t (.ok ((device, a), t)) := by
    rw [hchecked]
    exact comesTo_pure (device, a)
  exact hcheck.bind_settles (settles_reconciled t oracle now device a)

/-- On a healthy table a request for one activation does what `Table.registered` says, unless a
number is out of range. -/
theorem settles_enrol (ht : t.Healthy) (oracle : Oracle) (now : Int) (device : Device)
    (a : String) :
    (enrol oracle now device a).Settles t (t.registered oracle now device a) ∨
      ¬ t.Fits device.appId [] ∧
        (enrol oracle now device a).Settles t (.error (.defect .integerRange)) := by
  have hsettles := settles_reconciled t oracle now device a
  rcases ht.reconciled_cases oracle now device a with hresult | ⟨hout, hresult⟩ <;>
    rw [hresult] at hsettles
  · exact .inl hsettles
  · exact .inr ⟨hout, hsettles⟩

/-- On a healthy table an activation of a batch does what `Table.registeredInBatch` says, unless a
number is out of range. -/
theorem settles_enrolInBatch (ht : t.Healthy) (oracle : Oracle) (now : Int) (device : Device)
    (claimed : List Int) (a : String) :
    (enrolInBatch oracle now device claimed a).Settles t
        (t.registeredInBatch oracle now device claimed a) ∨
      ¬ t.Fits device.appId claimed ∧
        (enrolInBatch oracle now device claimed a).Settles t (.error (.defect .integerRange)) := by
  have hsettles := settles_reconciledInBatch t oracle now device claimed a
  rcases ht.reconciledInBatch_cases oracle now device claimed a with hresult | ⟨hout, hresult⟩ <;>
    rw [hresult] at hsettles
  · exact .inl hsettles
  · exact .inr ⟨hout, hsettles⟩

end Enrolment

end PushRegistry
