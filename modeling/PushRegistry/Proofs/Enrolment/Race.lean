import PushRegistry.Proofs.Enrolment.BatchRun

/-!
# Two requests at the same time

A request for one activation looks up its registration and then writes it. Between the two steps
another request may commit. This file holds up two requests at this point: both look into the same
table, then the first one writes, and then the second one writes to the table that the first one
has left, with the registration that it chose before.

All that keeps two such requests apart is the index on activation and token, and this is not enough
for one row for each activation. If no row is bound to an activation, two requests that bring it
different tokens both see that it has no row, and the index admits the row of either. No other pair
of requests ends with two rows: a row that is bound already is found by both requests, and equal
tokens meet the index.

## Main definitions

* `Work.runHeldUp`: work in a unit of its own that is held up between two steps.
* `Enrolment.lookUp`, `Enrolment.writeDown`: the two steps of a request for one activation.
* `Contender`, `Contender.run`: a request that is held up.
* `Table.SingleRows`: tables with one row at most for each activation.
* `Table.GivesWayTo`: the rows of an activation are those with the number of a row to be written.

## Main results

* `Contender.run_self`: a request that is not disturbed is a request like any other.
* `Table.singleRows_put_iff`: which rows may be written with one row for each activation kept.
* `Contender.singleRows_iff`: when two requests end with one row for each activation.
-/

namespace PushRegistry

/-! ### Units that are held up -/

/-- A session that has written nothing yet, after others have committed a table. -/
def Session.onto (s : Session) (t : Table) : Session := { s with committed := t, working := t }

namespace Work

variable {α β : Type}

/-- Work that is held up after its first step, which sees what was committed before; by the second
step others have committed a table. -/
def heldUp (look : Work α) (act : α → Work β) (t : Table) : Work β := fun s =>
  match look s with
  | (.ok a, s) => act a (s.onto t)
  | (.error failure, s) => (.error failure, s.onto t)

/-- Work whose first step writes nothing is as it would be without the delay if others have
committed nothing. -/
theorem runUnit_heldUp_self {look : Work α} (act : α → Work β) {t : Table} {r : Except Failure α}
    (hlook : look.ComesTo t (r.map fun a => (a, t))) (plan : FaultPlan) :
    (heldUp look act t).runUnit t plan = (look >>= act).runUnit t plan := by
  have hbegin := Session.settled_begin t plan
  have hwithin := hlook.within _ hbegin.toTidy rfl
  rw [runUnit, runUnit, heldUp, bind_apply]
  rcases hrun : look (Session.begin t plan) with ⟨e | a, s⟩ <;> rw [hrun] at hwithin
  · have ht : t = s.committed := hwithin.committed.symm
    rw [ht]
    rfl
  · have hs : s.onto t = s := by
      obtain ⟨-, hresult⟩ := hlook.ok _ a s hbegin.toTidy rfl hrun
      cases r <;> cases hresult
      exact congrArg (fun c => { s with committed := c }) hwithin.committed.symm
    simp only [hs]

end Work

namespace Enrolment

open Work

variable {t : Table} {device : Device} {a : String}

/-! ### The steps of a request -/

/-- The first step of a request for one activation: it is checked and a registration is chosen. -/
def lookUp (now : Int) (request : SingleRequest) : Work (Device × String × Registration) := do
  let (device, activationId) ← check request.checked
  let chosen ← chooseSingle device activationId now
  return (device, activationId, chosen)

/-- The second step: the registration chosen is changed, bound, saved and committed. -/
def writeDown (oracle : Oracle) (now : Int) :
    Device × String × Registration → Work Registration := fun (device, activationId, chosen) => do
  let current := { chosen with token := device.token }.touch device.platform now
  let bound ← bindActivation oracle current activationId
  let saved ← save bound
  commit
  return saved

theorem register_eq_writeDown (oracle : Oracle) (now : Int) (request : SingleRequest) :
    register oracle now request = lookUp now request >>= writeDown oracle now := by
  rw [register, lookUp, bind_assoc]
  refine congrArg (check request.checked >>= ·) (funext fun x => ?_)
  rw [bind_assoc]
  rfl

theorem comesTo_lookUp (t : Table) (now : Int) {request : SingleRequest}
    (hchecked : request.checked = .ok (device, a)) :
    (lookUp now request).ComesTo t
      (((t.located device a >>= Row.only device.appId).map fun chosen =>
        (device, a, startFrom device now chosen)).map fun x => (x, t)) := by
  have hcheck : (check request.checked).ComesTo t (.ok ((device, a), t)) := by
    rw [hchecked]
    exact comesTo_pure (device, a)
  have hchoice := comesTo_chooseSingle t device a now
  refine hcheck.bind_ok ?_
  cases hchosen : t.located device a >>= Row.only device.appId <;> rw [hchosen] at hchoice
  · exact hchoice.bind_error _
  · exact hchoice.bind_ok (comesTo_pure _)

/-- The second step writes to the table that it finds, with what was chosen before. -/
theorem settles_writeDown (t : Table) (oracle : Oracle) (now : Int) (device : Device) (a : String)
    {chosen : Option Row} (hchosen : ∀ row, chosen = some row → ∃ x ∈ t.rows, x.id = row.id) :
    (writeDown oracle now (device, a, startFrom device now chosen)).Settles t
      (t.enrolledInRange oracle now (chosen.elim device.appId Row.appId) device chosen a) := by
  have hwork : writeDown oracle now (device, a, startFrom device now chosen) =
      (bindActivation oracle (t.current (chosen.elim device.appId Row.appId) device now chosen) a
        >>= save) >>= fun saved => commit >>= fun _ => pure saved := by
    rw [← touch_startFrom t, bind_assoc]
    rfl
  rw [hwork]
  exact settles_commit (comesTo_enrolledInRange hchosen)

end Enrolment

/-! ### Requests that are held up -/

/-- A request for one activation, with what it is carried out with. -/
structure Contender where
  request : SingleRequest
  oracle : Oracle
  now : Int
  plan : FaultPlan

namespace Contender

open Work Enrolment

variable {c : Contender} {device : Device} {a : String} {seen t : Table}

/-- Carries out a request in a unit of its own: it looks into one table and writes to another one,
which others have committed meanwhile. -/
def run (c : Contender) (seen t : Table) : Except Failure Registration × Session :=
  (heldUp (lookUp c.now c.request) (writeDown c.oracle c.now) t).runUnit seen c.plan

/-- A request that is not disturbed is a request like any other. -/
theorem run_self (c : Contender) (hchecked : c.request.checked = .ok (device, a)) (t : Table) :
    c.run t t = (register c.oracle c.now c.request).runUnit t c.plan := by
  rw [register_eq_writeDown]
  exact runUnit_heldUp_self _ (comesTo_lookUp t c.now hchecked) c.plan

/-- A request that is held up enrols the row that it has chosen before, or changes nothing. -/
theorem run_cases (c : Contender) (hchecked : c.request.checked = .ok (device, a))
    (hkept : ∀ row ∈ seen.rows, ∃ x ∈ t.rows, x.id = row.id) :
    (∃ saved chosen, (c.run seen t).1 = .ok saved ∧ seen.located device a = .ok chosen.toList ∧
      t.enrolled c.oracle c.now (chosen.elim device.appId Row.appId) device chosen a =
        .ok (saved, (c.run seen t).2.committed)) ∨
      ∃ e, (c.run seen t).1 = .error e ∧ (c.run seen t).2.committed = t := by
  have hbegin := Session.settled_begin seen c.plan
  have hlook := comesTo_lookUp seen c.now hchecked
  rw [run, runUnit_fst, committed_runUnit, heldUp]
  rcases hrun : lookUp c.now c.request (Session.begin seen c.plan) with ⟨e | x, s⟩
  · exact .inr ⟨e, rfl, rfl⟩
  · obtain ⟨hs, hresult⟩ := hlook.ok _ x s hbegin.toTidy rfl hrun
    have honto : (s.onto t).Settled := ⟨⟨hs.pending, hs.usable⟩, rfl⟩
    rcases hchoice : seen.located device a >>= Row.only device.appId with e | chosen <;>
      rw [hchoice] at hresult <;> cases hresult
    obtain ⟨rows, hlocated, honly⟩ := bind_eq_ok_iff.mp hchoice
    obtain rfl := Row.eq_toList_of_only honly
    have hkept' : ∀ row, chosen = some row → ∃ x ∈ t.rows, x.id = row.id := by
      rintro row rfl
      exact hkept row (Table.mem_of_located hlocated (List.mem_singleton.mpr rfl))
    have hwrite := settles_writeDown t c.oracle c.now device a hkept'
    simp only
    rcases hact : writeDown c.oracle c.now (device, a, startFrom device c.now chosen) (s.onto t)
      with ⟨e | saved, s'⟩
    · exact .inr ⟨e, rfl, (hwrite.error _ e s' honto rfl hact).1⟩
    · obtain ⟨-, hwritten⟩ := hwrite.ok _ saved s' honto rfl hact
      exact .inl ⟨saved, chosen, rfl, hlocated, Table.enrolled_of_enrolledInRange hwritten⟩

end Contender

/-! ### One row for each activation -/

namespace Table

variable {t : Table} {W W' x : Row} {oracle : Oracle} {device : Device} {a : String}
  {chosen : Option Row} {answer : Option ActivationReport}

/-- Whether no two rows are bound to one activation. -/
def SingleRows (t : Table) : Prop :=
  ∀ x ∈ t.rows, ∀ y ∈ t.rows, ∀ a, x.activationId = some a → y.activationId = some a → x = y

/-- Whether the rows that are bound as a row is bound have its number. -/
def GivesWayTo (t : Table) (W : Row) : Prop :=
  ∀ x ∈ t.rows, ∀ a, x.activationId = some a → W.activationId = some a → x.id = W.id

/-- A row that is written leaves the table all its numbers. -/
theorem exists_id_put (h : t.forbids W = false) (hx : x ∈ t.rows) :
    ∃ y ∈ (t.put W h).rows, y.id = x.id := by
  by_cases hid : x.id = W.id
  · exact ⟨W, (mem_put h).mpr (.inl rfl), hid.symm⟩
  · exact ⟨x, (mem_put h).mpr (.inr ⟨hx, hid⟩), rfl⟩

/-- A row may be written just if it takes the place of the row of its activation. -/
theorem singleRows_put_iff (ht : t.SingleRows) (h : t.forbids W = false) :
    (t.put W h).SingleRows ↔ t.GivesWayTo W := by
  have hmem : W ∈ (t.put W h).rows := (mem_put h).mpr (.inl rfl)
  constructor
  · intro hsingle x hx a hxa hWa
    by_cases hid : x.id = W.id
    · exact hid
    · rw [hsingle x ((mem_put h).mpr (.inr ⟨hx, hid⟩)) W hmem a hxa hWa]
  · intro hgives x hx y hy a hxa hya
    rw [mem_put] at hx hy
    rcases hx with rfl | ⟨hx, hxid⟩ <;> rcases hy with rfl | ⟨hy, hyid⟩
    · rfl
    · exact absurd (hgives y hy a hya hxa) hyid
    · exact absurd (hgives x hx a hxa hya) hxid
    · exact ht x hx y hy a hxa hya

/-- After another row was written, a row may be written just if the two are bound to different
activations or have one number. -/
theorem givesWayTo_put_iff (hgives : t.GivesWayTo W') (h : t.forbids W = false) :
    (t.put W h).GivesWayTo W' ↔
      ∀ a, W.activationId = some a → W'.activationId = some a → W.id = W'.id := by
  constructor
  · exact fun hput => hput W ((mem_put h).mpr (.inl rfl))
  · intro hboth x hx a hxa hWa
    rcases (mem_put h).mp hx with rfl | ⟨hx, -⟩
    · exact hboth a hxa hWa
    · exact hgives x hx a hxa hWa

/-- A lookup finds the row of its activation. -/
theorem chosen_of_bound (ht : t.SingleRows) (hlocated : t.located device a = .ok chosen.toList)
    (hx : x ∈ t.rows) (hxa : x.activationId = some a) : chosen = some x := by
  rcases bound_or_unbound_of_located hlocated with ⟨row, hrow, hmem, hrowa, -⟩ | ⟨hnone, -, -⟩
  · rw [ht x hx row hmem a hxa hrowa]
    exact Option.toList_eq_singleton_iff.mp hrow
  · exact absurd hxa (boundTo_eq_nil_iff.mp hnone x hx)

/-- How the row that a request writes relates to the table that it has looked into, even if it is
written to another table. -/
structure WrittenFrom (seen : Table) (oracle : Oracle) (device : Device) (a : String)
    (chosen : Option Row) (W : Row) : Prop where
  located : seen.located device a = .ok chosen.toList
  number : ∀ row, chosen = some row → W.id = row.id
  token : W.token = device.token
  binding : ∀ b, W.activationId = some b → oracle.admits a = true ∧ b = a ∨
    ∃ row, chosen = some row ∧ row.activationId = some b
  bound : oracle.admits a = true → W.activationId = some a

/-- An enrolment that is carried out, in whatever table. -/
theorem writtenFrom_of_enrolled {seen t' : Table} {now : Int} {saved : Registration}
    (hreports : oracle.ReportsAsked a) (hlocated : seen.located device a = .ok chosen.toList)
    (h : t.enrolled oracle now (chosen.elim device.appId Row.appId) device chosen a =
      .ok (saved, t')) :
    ∃ W, seen.WrittenFrom oracle device a chosen W ∧ (chosen = none → W.id = t.nextId) ∧
      ∃ hadmits : t.forbids W = false, t' = t.put W hadmits := by
  obtain ⟨answer, hanswer, -, -, hadmits, ht'⟩ := enrolled_eq_ok h
  refine ⟨_, ⟨hlocated, ?_, token_enrolledRow, fun b hb => ?_, ?_⟩, ?_, hadmits, ht'⟩
  · rintro row rfl
    rw [id_enrolledRow]
    rfl
  · rcases activationId_enrolledRow t (chosen.elim device.appId Row.appId) device now chosen answer
      with hkept | ⟨report, rfl, hbind, hbound⟩
    · rw [hkept] at hb
      exact .inr (Option.bind_eq_some_iff.mp hb)
    · left
      rw [Oracle.admits, hanswer]
      rw [hbound, hreports report hanswer] at hb
      exact ⟨hbind, (Option.some.inj hb).symm⟩
  · exact activationId_enrolledRow_of_admits t _ device now chosen hanswer hreports
  · rintro rfl
    rw [id_enrolledRow]
    rfl

/-- The rows bound as the row that is written make place for it: that of the activation asked
about was chosen, and of another activation there is the row that was chosen only. -/
theorem WrittenFrom.givesWayTo (hW : t.WrittenFrom oracle device a chosen W) (ht : t.SingleRows) :
    t.GivesWayTo W := by
  intro x hx b hxb hWb
  rcases hW.binding b hWb with ⟨-, rfl⟩ | ⟨row, hrow, hrowb⟩
  · exact (hW.number x (chosen_of_bound ht hW.located hx hxb)).symm
  · have hmem : row ∈ t.rows := mem_of_located hW.located (Option.mem_toList.mpr hrow)
    rw [ht x hx row hmem b hxb hrowb, hW.number row hrow]

/-- Two rows with different numbers that are written for one activation are both newly bound to it,
and the activation had no row. -/
theorem WrittenFrom.fresh {oracle' : Oracle} {device' : Device} {b c : String}
    {chosen' : Option Row} (ht : t.SingleRows) (hW : t.WrittenFrom oracle device a chosen W)
    (hW' : t.WrittenFrom oracle' device' b chosen' W') (hid : W.id ≠ W'.id)
    (hWc : W.activationId = some c) (hWc' : W'.activationId = some c) :
    (oracle.admits a = true ∧ c = a) ∧ (oracle'.admits b = true ∧ c = b) ∧ t.boundTo c = [] := by
  have hnone : ∀ x ∈ t.rows, x.activationId ≠ some c := fun x hx hxc =>
    hid ((hW.givesWayTo ht x hx c hxc hWc).symm.trans (hW'.givesWayTo ht x hx c hxc hWc'))
  have hchosen : ∀ {device : Device} {a : String} {chosen : Option Row},
      t.located device a = .ok chosen.toList → ¬ ∃ row, chosen = some row ∧
        row.activationId = some c := by
    rintro device a _ hlocated ⟨row, rfl, hrow⟩
    exact hnone row (mem_of_located hlocated (List.mem_singleton.mpr rfl)) hrow
  exact ⟨(hW.binding c hWc).resolve_right (hchosen hW.located),
    (hW'.binding c hWc').resolve_right (hchosen hW'.located), boundTo_eq_nil_iff.mpr hnone⟩

/-- Where an activation has no row, the row chosen for it was found by its token. -/
theorem WrittenFrom.token_chosen (hW : t.WrittenFrom oracle device a chosen W)
    (hnone : t.boundTo a = []) {row : Row} (hrow : chosen = some row) :
    row ∈ t.rows ∧ row.token = device.token := by
  rcases bound_or_unbound_of_located hW.located with ⟨x, -, hx, hxa, -⟩ | ⟨-, -, hkey⟩
  · exact absurd hxa (boundTo_eq_nil_iff.mp hnone x hx)
  · obtain ⟨hmem, -, htoken⟩ := mem_keyedBy.mp (hkey ▸ Option.mem_toList.mpr hrow)
    exact ⟨hmem, htoken⟩

/-- Where an activation has no row, requests that bring it different tokens write different rows. -/
theorem WrittenFrom.id_ne {oracle' : Oracle} {device' : Device} {chosen' : Option Row}
    {h : t.forbids W = false} (hW : t.WrittenFrom oracle device a chosen W)
    (hW' : t.WrittenFrom oracle' device' a chosen' W') (hnone : t.boundTo a = [])
    (htokens : device.token ≠ device'.token) (hnew : chosen = none → W.id = t.nextId)
    (hnew' : chosen' = none → W'.id = (t.put W h).nextId) : W.id ≠ W'.id := by
  cases hchosen' : chosen' with
  | none =>
    have := lt_nextId ((mem_put h).mpr (.inl rfl))
    rw [hnew' hchosen']
    omega
  | some row' =>
    obtain ⟨hrow', htoken'⟩ := hW'.token_chosen hnone hchosen'
    rw [hW'.number row' hchosen']
    cases hchosen : chosen with
    | none =>
      have := lt_nextId hrow'
      rw [hnew hchosen]
      omega
    | some row =>
      obtain ⟨hrow, htoken⟩ := hW.token_chosen hnone hchosen
      rw [hW.number row hchosen]
      intro hid
      rw [eq_of_id_eq hrow hrow' hid, htoken'] at htoken
      exact htokens htoken.symm

/-- Two rows that were chosen from one table and written one after the other are bound to different
activations or one row, unless they are of an activation without rows and carry different tokens. -/
theorem WrittenFrom.apart_iff {oracle' : Oracle} {device' : Device} {b : String}
    {chosen' : Option Row} {h : t.forbids W = false} (hindexed : t.indexed = true)
    (ht : t.SingleRows) (hW : t.WrittenFrom oracle device a chosen W)
    (hW' : t.WrittenFrom oracle' device' b chosen' W') (hnew : chosen = none → W.id = t.nextId)
    (hnew' : chosen' = none → W'.id = (t.put W h).nextId)
    (h' : (t.put W h).forbids W' = false) :
    (∀ c, W.activationId = some c → W'.activationId = some c → W.id = W'.id) ↔
      ¬ (a = b ∧ t.boundTo a = [] ∧ device.token ≠ device'.token ∧ oracle.admits a = true ∧
        oracle'.admits b = true) := by
  constructor
  · rintro happart ⟨rfl, hnone, htokens, hadmits, hadmits'⟩
    exact hW.id_ne hW' hnone htokens hnew hnew'
      (happart a (hW.bound hadmits) (hW'.bound hadmits'))
  · intro hexcept c hWc hWc'
    by_cases hid : W.id = W'.id
    · exact hid
    · obtain ⟨⟨hadmits, rfl⟩, ⟨hadmits', rfl⟩, hnone⟩ := hW.fresh ht hW' hid hWc hWc'
      refine absurd ⟨rfl, hnone, fun htokens => ?_, hadmits, hadmits'⟩ hexcept
      have hclash : W'.clashes W = true := Row.clashes_eq_true_iff.mpr
        ⟨Ne.symm hid, ⟨c, hWc', hWc⟩, by rw [hW.token, hW'.token, htokens]⟩
      have hindexed' : (t.put W h).indexed = true := hindexed
      have hadmitted := (forbids_eq_false_iff hindexed').mp h' W ((mem_put h).mpr (.inl rfl))
      cases hclash.symm.trans hadmitted

end Table

namespace Contender

variable {t u : Table} {device : Device} {a : String}

/-- A request that is held up writes a row from the table that it has looked into, or nothing. -/
theorem run_written (c : Contender) (hchecked : c.request.checked = .ok (device, a))
    (hreports : c.oracle.ReportsAsked a) (hkept : ∀ row ∈ t.rows, ∃ x ∈ u.rows, x.id = row.id) :
    ((c.run t u).1.isOk = true ∧ ∃ chosen W, t.WrittenFrom c.oracle device a chosen W ∧
      (chosen = none → W.id = u.nextId) ∧
      ∃ hadmits : u.forbids W = false, (c.run t u).2.committed = u.put W hadmits) ∨
      (c.run t u).1.isOk = false ∧ (c.run t u).2.committed = u := by
  rcases c.run_cases hchecked hkept with ⟨saved, chosen, hrun, hlocated, henrolled⟩ |
    ⟨e, hrun, hcommitted⟩
  · obtain ⟨W, hW, hnew, hput⟩ := Table.writtenFrom_of_enrolled hreports hlocated henrolled
    exact .inl ⟨by rw [hrun]; rfl, chosen, W, hW, hnew, hput⟩
  · exact .inr ⟨by rw [hrun]; rfl, hcommitted⟩

/-- A request that looks into a table with one row for each activation and finds it unchanged leaves
such a table. -/
theorem singleRows_run (ht : t.SingleRows) (c : Contender)
    (hchecked : c.request.checked = .ok (device, a)) (hreports : c.oracle.ReportsAsked a) :
    (c.run t t).2.committed.SingleRows := by
  rcases c.run_written hchecked hreports fun row hrow => ⟨row, hrow, rfl⟩ with
    ⟨-, chosen, W, hW, -, hadmits, hcommitted⟩ | ⟨-, hcommitted⟩ <;> rw [hcommitted]
  · exact (Table.singleRows_put_iff ht hadmits).mpr (hW.givesWayTo ht)
  · exact ht

/-- Two requests for one activation each that look into one table at the same time and write one
after the other keep one row for each activation, unless both are for an activation without rows,
bring it different tokens, are both answered that it can be bound to, and are both carried out. -/
theorem singleRows_iff (hindexed : t.indexed = true) (ht : t.SingleRows)
    {first second : Contender} {device' : Device} {b : String}
    (hfirst : first.request.checked = .ok (device, a))
    (hsecond : second.request.checked = .ok (device', b))
    (hreports : first.oracle.ReportsAsked a) (hreports' : second.oracle.ReportsAsked b) :
    let one := first.run t t
    let two := second.run t one.2.committed
    two.2.committed.SingleRows ↔
      ¬ (a = b ∧ t.boundTo a = [] ∧ device.token ≠ device'.token ∧ first.oracle.admits a = true ∧
        second.oracle.admits b = true ∧ one.1.isOk = true ∧ two.1.isOk = true) := by
  intro one two
  have honesingle : one.2.committed.SingleRows := singleRows_run ht first hfirst hreports
  obtain ⟨u, hu⟩ : ∃ u, u = one.2.committed := ⟨_, rfl⟩
  have htwo : two = second.run t u := congrArg (second.run t) hu.symm
  rw [htwo]
  rw [← hu] at honesingle
  rcases first.run_written hfirst hreports fun row hrow => ⟨row, hrow, rfl⟩ with
    ⟨hone, chosen, W, hW, hnew, hadmits, hcommitted⟩ | ⟨hone, hcommitted⟩
  · obtain rfl : u = t.put W hadmits := hu.trans hcommitted
    rcases second.run_written hsecond hreports' fun row => Table.exists_id_put hadmits with
      ⟨htwo, chosen', W', hW', hnew', hadmits', hcommitted'⟩ | ⟨htwo, hcommitted'⟩
    · rw [hcommitted', Table.singleRows_put_iff honesingle hadmits',
        Table.givesWayTo_put_iff (hW'.givesWayTo ht) hadmits,
        hW.apart_iff hindexed ht hW' hnew hnew' hadmits']
      have hone' : one.1.isOk = true := hone
      simp only [hone', htwo, and_true]
    · rw [hcommitted', htwo]
      exact iff_of_true honesingle (by simp)
  · obtain rfl : u = t := hu.trans hcommitted
    have hone' : one.1.isOk = false := hone
    rw [hone']
    exact iff_of_true (singleRows_run ht second hsecond hreports') (by simp)

end Contender

/-! ### One new activation, two tokens -/

/-- A request of the application 1 that brings a token to the activation `a`, with a service that
knows every activation as active. -/
def Contender.bringing (token : String) (now : Int) : Contender where
  request := ⟨some 1, some token, some "ios", some "a"⟩
  oracle := .allActive
  now := now
  plan := .none

/-- Two requests at the same time bring two tokens to an activation without rows, and the activation
has two rows. -/
theorem Contender.race_doubles :
    let one := (Contender.bringing "T" 5).run .empty .empty
    let two := (Contender.bringing "U" 6).run .empty one.2.committed
    Table.empty.Healthy ∧ (∀ a, Oracle.allActive.ReportsAsked a) ∧
      (Contender.bringing "T" 5).request.checked = .ok (⟨1, "T", .ios⟩, "a") ∧
      (Contender.bringing "U" 6).request.checked = .ok (⟨1, "U", .ios⟩, "a") ∧
      two.2.committed.rows = [⟨1, 1, "T", "ios", some "a", none, true, 5⟩,
        ⟨2, 1, "U", "ios", some "a", none, true, 6⟩] ∧
      ¬ two.2.committed.SingleRows := by
  intro one two
  have hrows : two.2.committed.rows = [⟨1, 1, "T", "ios", some "a", none, true, 5⟩,
      ⟨2, 1, "U", "ios", some "a", none, true, 6⟩] := by decide +kernel
  refine ⟨Table.healthy_empty, Oracle.reportsAsked_allActive, by rfl, by rfl, hrows, fun h => ?_⟩
  rw [Table.SingleRows, hrows] at h
  exact absurd (h _ List.mem_cons_self _ (List.mem_cons_of_mem _ List.mem_cons_self) "a" rfl rfl)
    (by decide)

/-- A table in which the activation `a` has its one row. -/
def Table.held : Table where
  rows := [⟨1, 1, "S", "ios", some "a", none, false, 0⟩]
  indexed := true
  ordered := by decide
  unique := by decide

/-- Two requests at the same time bring two tokens to an activation with a row, and both write this
row. -/
theorem Contender.singleRows_held :
    let one := (Contender.bringing "T" 5).run .held .held
    let two := (Contender.bringing "U" 6).run .held one.2.committed
    Table.held.indexed = true ∧ Table.held.SingleRows ∧
      (Contender.bringing "T" 5).request.checked = .ok (⟨1, "T", .ios⟩, "a") ∧
      (Contender.bringing "U" 6).request.checked = .ok (⟨1, "U", .ios⟩, "a") ∧
      (∀ a, Oracle.allActive.ReportsAsked a) ∧
      two.2.committed.rows = [⟨1, 1, "U", "ios", some "a", none, true, 6⟩] ∧
      two.2.committed.SingleRows := by
  intro one two
  have hsingle : Table.held.SingleRows := (Table.healthy_of_one rfl rfl ⟨.ios, rfl⟩).single
  have hfirst : (Contender.bringing "T" 5).request.checked = .ok (⟨1, "T", .ios⟩, "a") := by rfl
  have hsecond : (Contender.bringing "U" 6).request.checked = .ok (⟨1, "U", .ios⟩, "a") := by rfl
  have hbound : Table.held.boundTo "a" ≠ [] := by decide
  refine ⟨rfl, hsingle, hfirst, hsecond, Oracle.reportsAsked_allActive, by decide +kernel, ?_⟩
  exact (Contender.singleRows_iff rfl hsingle hfirst hsecond (Oracle.reportsAsked_allActive _)
    (Oracle.reportsAsked_allActive _)).mpr fun h => hbound h.2.1

end PushRegistry
