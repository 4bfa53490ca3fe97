import PushRegistry.Proofs.Enrolment.Attempts
import PushRegistry.Proofs.Requests

/-!
# Registering a device twice

A request for one activation that is repeated finds the row that the first one wrote, wherever the
first one found its row: a row that is bound to the activation by then is found by activation and
token, and a row that the answer left unbound is found by application and token, because then
nothing is bound to the activation. It writes the same row, but for the time.

The time is written and never looked at. So the proof is in two halves: the second request is the
same request at another time, and at the same time it changes nothing. Nothing is assumed of the
table; it may lack its index, and rows may share an activation.

## Main definitions

* `Registration.asOf`, `Row.asOf`, `Table.asOf`: a registration, a row and a row of a table at
  another time.
* `Table.savedAsOf`: the result of saving at another time.

## Main results

* `Table.reconciled_asOf`: a request for one activation at another time.
* `Table.located_put`: a row that was written is found again, and alone.
* `Table.reconciled_again`: a request that was carried out changes nothing at the same time.
* `Enrolment.register_twice`: a request for one activation that is repeated.
-/

namespace PushRegistry

/-! ### Another time -/

/-- A registration as of another time. -/
def Registration.asOf (r : Registration) (time : Int) : Registration := { r with timestamp := time }

namespace Row

/-- A row as of another time. -/
def asOf (row : Row) (time : Int) : Row := { row with timestamp := time }

/-- A row as of another time if it has a number. -/
def asOfIf (id time : Int) (row : Row) : Row := if row.id = id then row.asOf time else row

@[simp] theorem id_asOfIf (id time : Int) (row : Row) : (row.asOfIf id time).id = row.id := by
  rw [asOfIf]
  split <;> rfl

theorem clashes_asOfIf (id time : Int) (x y : Row) :
    (x.asOfIf id time).clashes (y.asOfIf id time) = x.clashes y := by
  rw [asOfIf, asOfIf]
  split <;> split <;> rfl

theorem ofRegistration_asOf (id : Int) (r : Registration) (time : Int) :
    ofRegistration id (r.asOf time) = (ofRegistration id r).map (asOf · time) := by
  rw [ofRegistration, ofRegistration, Registration.asOf]
  cases columnText r.userId with
  | error e => rfl
  | ok userId =>
    cases fitsStore r.appId
    · rfl
    · cases r.platform <;> rfl

end Row

/-- A row put among rows at another time differs from the same row put among them in the time. -/
theorem putRow_asOf {rows : List Row} (row : Row) (time : Int) (h : Row.Ordered rows) :
    putRow (row.asOf time) rows = (putRow row rows).map (Row.asOfIf row.id time) := by
  have hself : row.asOfIf row.id time = row.asOf time := if_pos rfl
  have hkeep : ∀ l : List Row, (∀ x ∈ l, x.id ≠ row.id) → l.map (Row.asOfIf row.id time) = l :=
    fun l hl => (List.map_congr_left fun x hx => if_neg (hl x hx)).trans (List.map_id l)
  have hid : (row.asOf time).id = row.id := rfl
  induction rows with
  | nil => exact congrArg (· :: []) hself.symm
  | cons r rs ih =>
    obtain ⟨hr, hrs⟩ := List.pairwise_cons.mp h
    rw [putRow, putRow, hid]
    split
    · next hlt =>
      have hafter : ∀ x ∈ r :: rs, x.id ≠ row.id := by
        refine List.forall_mem_cons.mpr ⟨by omega, fun x hx => ?_⟩
        have := hr x hx
        omega
      rw [List.map_cons, hself, hkeep (r :: rs) hafter]
    · split
      · next heq =>
        have hafter : ∀ x ∈ rs, x.id ≠ row.id := by
          intro x hx
          have := hr x hx
          omega
        rw [List.map_cons, hself, hkeep rs hafter]
      · next hne =>
        rw [List.map_cons, Row.asOfIf, if_neg (Ne.symm hne), ih hrs]

namespace Table

variable {t t' : Table} {oracle : Oracle} {now later appId : Int} {device : Device}
  {chosen : Option Row} {a : String} {answer : Option ActivationReport}
  {r saved : Registration}

/-- A table in which the row with a number is as of another time. -/
def asOf (t : Table) (id time : Int) : Table where
  rows := t.rows.map (Row.asOfIf id time)
  indexed := t.indexed
  ordered := by
    rw [Row.Ordered, List.pairwise_map]
    simp only [Row.id_asOfIf]
    exact t.ordered
  unique hindexed := by
    simp only [List.forall_mem_map, Row.clashes_asOfIf]
    exact t.unique hindexed

theorem store_asOf (t : Table) (row : Row) (time : Int) :
    t.store (row.asOf time) = (t.store row).map (asOf · row.id time) := by
  have hforbids : t.forbids (row.asOf time) = t.forbids row := rfl
  cases h : t.forbids row with
  | true =>
    rw [store_eq_error h, store_eq_error (hforbids.trans h)]
    rfl
  | false =>
    rw [store_eq_ok h, store_eq_ok (hforbids.trans h)]
    exact congrArg Except.ok (Table.ext (putRow_asOf row time t.ordered) rfl)

/-- The registration saved and the table with its row, both as of another time. -/
def savedAsOf (time : Int) (x : Registration × Table) : Registration × Table :=
  (x.1.asOf time, x.1.id.elim x.2 fun id => x.2.asOf id time)

/-- The time decides neither whether a registration is saved nor where. -/
theorem saved_asOf (t : Table) (r : Registration) (time : Int) :
    t.saved (r.asOf time) = (t.saved r).map (savedAsOf time) := by
  have hreport : Work.saveError (r.asOf time) = Work.saveError r := by
    funext fault
    cases fault <;> rfl
  have hid : (r.asOf time).id = r.id := rfl
  rw [Table.saved, Table.saved, hreport, hid, Row.ofRegistration_asOf]
  cases Row.ofRegistration (r.id.getD t.nextId) r with
  | error e => rfl
  | ok row =>
    have hstore := store_asOf t row time
    simp only [Except.map, bind, Except.bind, hstore]
    cases t.store row <;> rfl

theorem current_asOf (t : Table) (appId : Int) (device : Device) (now later : Int)
    (chosen : Option Row) :
    t.current appId device later chosen = (t.current appId device now chosen).asOf later := by
  cases chosen <;> rfl

theorem answered_asOf (r : Registration) (answer : Option ActivationReport) (time : Int) :
    (r.asOf time).answered answer = (r.answered answer).asOf time := by
  rw [Registration.answered, Registration.answered]
  split <;> rfl

theorem enrolledInRange_asOf (t : Table) (oracle : Oracle) (now later appId : Int)
    (device : Device) (chosen : Option Row) (a : String) :
    t.enrolledInRange oracle later appId device chosen a =
      (t.enrolledInRange oracle now appId device chosen a).map (savedAsOf later) := by
  rw [enrolledInRange, enrolledInRange, enrolled, enrolled]
  cases oracle a with
  | error e => split <;> rfl
  | ok answer =>
    split
    · have hcurrent := answered_asOf (t.current appId device now chosen) answer later
      rw [← current_asOf] at hcurrent
      exact (congrArg t.saved hcurrent).trans (saved_asOf t _ later)
    · rfl

/-- A request for one activation does the same at another time, but for the time. -/
theorem reconciled_asOf (t : Table) (oracle : Oracle) (now later : Int) (device : Device)
    (a : String) :
    t.reconciled oracle later device a =
      (t.reconciled oracle now device a).map (savedAsOf later) := by
  rw [reconciled, reconciled]
  cases t.located device a with
  | error e => rfl
  | ok rows =>
    simp only [bind, Except.bind]
    cases Row.only device.appId rows with
    | error e => rfl
    | ok chosen => exact enrolledInRange_asOf t oracle now later _ device chosen a

/-! ### The same time -/

/-- What was saved may be saved again without effect. -/
theorem saved_again (h : t.saved r = .ok (saved, t')) : t'.saved saved = .ok (saved, t') := by
  obtain ⟨row, hrow, ⟨hadmits, rfl⟩, rfl⟩ := saved_eq_ok_iff.mp h
  have hrow' : Row.ofRegistration row.id { r with id := some row.id } = .ok row := by
    rw [← Row.id_of_ofRegistration hrow] at hrow
    exact hrow
  have hmem : row ∈ (t.put row hadmits).rows := (mem_put hadmits).mpr (.inl rfl)
  have hstays : (t.put row hadmits).forbids row = false := by
    cases hindexed : (t.put row hadmits).indexed with
    | false => rw [forbids, hindexed, Bool.false_and]
    | true =>
      exact (forbids_eq_false_iff hindexed).mpr ((t.put row hadmits).unique hindexed row hmem)
  have hput : (t.put row hadmits).put row hstays = t.put row hadmits := by
    refine Table.ext ((putRow_eq_map (t.put row hadmits).ordered ⟨row, hmem, rfl⟩).trans ?_) rfl
    refine (List.map_congr_left fun x hx => ?_).trans (List.map_id _)
    by_cases hid : x.id = row.id
    · rw [if_pos hid, eq_of_id_eq hx hmem hid, id]
    · rw [if_neg hid, id]
  exact saved_eq_ok_iff.mpr ⟨row, hrow', ⟨hstays, hput.symm⟩, rfl⟩

/-- A row that was written is selected alone if it has taken the place of all that would be. -/
theorem select_put {W : Row} {p : Row → Bool} (hadmits : t.forbids W = false) (hp : p W = true)
    (h : ∀ x ∈ t.select p, x.id = W.id) : (t.put W hadmits).select p = [W] := by
  have honly : ∀ x ∈ (t.put W hadmits).rows, p x = true → x = W := by
    intro x hx hxp
    rcases (mem_put hadmits).mp hx with rfl | ⟨hx, hne⟩
    · rfl
    · exact absurd (h x (mem_select.mpr ⟨hx, hxp⟩)) hne
  have hone : ((t.put W hadmits).select p).length ≤ 1 :=
    length_select_le_one fun x hx y hy hxp hyp => (honly x hx hxp).trans (honly y hy hyp).symm
  have hmem : W ∈ (t.put W hadmits).select p :=
    mem_select.mpr ⟨(mem_put hadmits).mpr (.inl rfl), hp⟩
  rcases hrows : (t.put W hadmits).select p with _ | ⟨x, _ | ⟨y, rest⟩⟩ <;> rw [hrows] at hone hmem
  · cases hmem
  · rw [List.mem_singleton.mp hmem]
  · simp at hone

theorem located_of_boundWith {row : Row} (hrow : t.boundWith a device.token = [row])
    (hread : row.Readable) : t.located device a = .ok [row] := by
  have hrows : Row.readAll [row] = .ok [row] := Row.readAll_of_readable (by simpa using hread)
  rw [located, hrow, hrows]
  rfl

theorem located_of_keyedBy {row : Row} (hnone : t.boundTo a = [])
    (hfits : fitsStore device.appId = true)
    (hrow : t.keyedBy device.appId device.token = [row]) (hread : row.Readable) :
    t.located device a = .ok [row] := by
  have hnone' : t.boundWith a device.token = [] := by
    rw [boundWith, select_activation_token, hnone]
    rfl
  have hrows : Row.readAll [row] = .ok [row] := Row.readAll_of_readable (by simpa using hread)
  rw [located, hnone', hnone, hfits, hrow]
  exact hrows

/-- The row that a request wrote is found again, and alone, whatever it was before. -/
theorem located_put {W : Row} (hreports : oracle.ReportsAsked a) (hanswer : oracle a = .ok answer)
    (hlocated : t.located device a = .ok chosen.toList)
    (hW : W = t.enrolledRow (chosen.elim device.appId Row.appId) device now chosen answer)
    (hadmits : t.forbids W = false) : (t.put W hadmits).located device a = .ok [W] := by
  have hread : W.Readable := hW ▸ readable_enrolledRow
  have htoken : W.token = device.token := hW ▸ token_enrolledRow
  have hid : ∀ row, chosen = some row → row.id = W.id := by
    rintro row rfl
    rw [hW, id_enrolledRow]
    rfl
  have hact : W.activationId = chosen.bind Row.activationId ∨ W.activationId = some a := by
    rw [hW]
    exact activationId_enrolledRow_of_reports t _ device now chosen hreports hanswer
  have hbound : W.activationId = some a → (∀ x ∈ t.boundWith a device.token, x.id = W.id) →
      (t.put W hadmits).located device a = .ok [W] := fun hWa hplaced =>
    located_of_boundWith (select_put hadmits (by simp [hWa, htoken]) hplaced) hread
  rcases bound_or_unbound_of_located hlocated with
    ⟨row, hrow, -, hrowa, halone⟩ | ⟨hnone, hfits, hkey⟩
  · obtain rfl := Option.toList_eq_singleton_iff.mp hrow
    refine hbound (hact.elim (·.trans hrowa) id) fun x hx => ?_
    rw [halone x hx, hid row rfl]
  · have hunbound := boundTo_eq_nil_iff.mp hnone
    by_cases hWa : W.activationId = some a
    · refine hbound hWa fun x hx => ?_
      obtain ⟨hmem, hxa, -⟩ := mem_boundWith.mp hx
      exact absurd hxa (hunbound x hmem)
    -- unbound still, it is found under the application and the token, where it was or was missing
    · have happ : W.appId = device.appId := by
        rw [hW, appId_enrolledRow]
        cases chosen with
        | none => rfl
        | some row => exact (mem_keyedBy.mp (hkey ▸ Option.mem_toList.mpr rfl)).2.1
      have hstays : (t.put W hadmits).boundTo a = [] := by
        refine boundTo_eq_nil_iff.mpr fun x hx => ?_
        rcases (mem_put hadmits).mp hx with rfl | ⟨hx, -⟩
        · exact hWa
        · exact hunbound x hx
      refine located_of_keyedBy hstays hfits (select_put hadmits (by simp [happ, htoken]) ?_) hread
      intro x hx
      have hx : x ∈ t.keyedBy device.appId device.token := hx
      rw [← hkey] at hx
      exact hid x (Option.mem_toList.mp hx)

/-- A row that was answered is answered again by the same registration. -/
theorem answered_read_answered (row : Row) (answer : Option ActivationReport) (id? : Option Int) :
    (row.answered answer).read.answered answer =
      { { row.read with id := id? }.answered answer with id := some row.id } := by
  rw [Registration.answered, Registration.answered, Row.answered]
  cases ActivationReport.binding? answer <;> rfl

/-- An enrolment of the row that an enrolment wrote saves the same registration. -/
theorem answered_current_again {W : Row} (t' : Table)
    (hW : W = t.enrolledRow appId device now chosen answer) :
    (t'.current appId device now (some W)).answered answer =
      { (t.current appId device now chosen).answered answer with id := some W.id } := by
  have hcurrent : t'.current appId device now (some W) = W.read := by
    change { (W.heard appId device now).read with id := some W.id } = W.read
    rw [hW, heard_enrolledRow]
    rfl
  have hid : W.id = ((t.startRow device now chosen).heard appId device now).id := by
    rw [hW, enrolledRow, Row.id_answered]
  rw [hcurrent, hid, hW]
  exact answered_read_answered _ answer _

/-- An enrolment that was carried out, carried out again for the row that it wrote. -/
theorem enrolled_again {W : Row} (hanswer : oracle a = .ok answer)
    (hW : W = t.enrolledRow appId device now chosen answer)
    (h : t.enrolled oracle now appId device chosen a = .ok (saved, t'))
    (hid : saved.id = some W.id) :
    t'.enrolled oracle now appId device (some W) a = .ok (saved, t') := by
  rw [enrolled, hanswer] at h ⊢
  change t.saved _ = _ at h
  change t'.saved _ = _
  have hsame : (t'.current appId device now (some W)).answered answer = saved := by
    obtain ⟨row, -, -, hsaved⟩ := saved_eq_ok_iff.mp h
    rw [hsaved] at hid
    rw [answered_current_again t' hW, hsaved, ← hid]
  rw [hsame]
  exact saved_again h

/-- A request for one activation that was carried out changes nothing at the same time. -/
theorem reconciled_again (hreports : oracle.ReportsAsked a)
    (h : t.reconciled oracle now device a = .ok (saved, t'))
    (hfits : ∀ row ∈ t'.rows, fitsStore row.id = true) :
    (∃ row ∈ t'.rows, saved.id = some row.id) ∧
      t'.reconciled oracle now device a = .ok (saved, t') := by
  obtain ⟨chosen, hlocated, henrolled⟩ := enrolled_of_reconciled h
  obtain ⟨answer, hanswer, -, hid, hadmits, ht'⟩ := enrolled_eq_ok henrolled
  obtain ⟨W, hW⟩ : ∃ W, W = t.enrolledRow (chosen.elim device.appId Row.appId) device now chosen
    answer := ⟨_, rfl⟩
  have hfound : t'.located device a = .ok [W] := by
    subst hW ht'
    exact located_put hreports hanswer hlocated rfl hadmits
  have hmem : W ∈ t'.rows := mem_of_located hfound (List.mem_singleton.mpr rfl)
  have happ : W.appId = chosen.elim device.appId Row.appId := by rw [hW, appId_enrolledRow]
  rw [← hW] at hid
  rw [← happ] at henrolled hW
  refine ⟨⟨W, hmem, hid⟩, ?_⟩
  rw [reconciled, hfound]
  change t'.enrolledInRange oracle now W.appId device (some W) a = _
  rw [enrolledInRange_eq (by rintro _ ⟨⟩; exact hfits W hmem)]
  exact enrolled_again hanswer hW henrolled hid

end Table

namespace Enrolment

open Work

/-! ### Requests -/

/-- A request that is not in order fails with what is wrong with it. -/
theorem runUnit_register_unchecked (t : Table) (oracle : Oracle) (now : Int)
    {request : SingleRequest} {e : AppError} (h : request.checked = .error e) :
    (register oracle now request).runUnit t .none =
      (.error (.app e), (Session.begin t .none).rolledBack) := by
  rw [register, h]
  rfl

/-- What a second, identical request does. If the first one was carried out, the second one comes
to the same registration and leaves the same table, but for the time of that one row; if the first
one failed, so does the second one, and the table is as it was. -/
theorem register_twice (t : Table) {oracle : Oracle} (now later : Int) {request : SingleRequest}
    (hreports : ∀ a, request.activationId = some a → oracle.ReportsAsked a) :
    let once := (register oracle now request).runUnit t .none
    let twice := (register oracle later request).runUnit once.2.committed .none
    (∀ row ∈ once.2.committed.rows, fitsStore row.id = true) →
      (∀ saved, once.1 = .ok saved →
        ∃ id, saved.id = some id ∧ (∃ row ∈ once.2.committed.rows, row.id = id) ∧
          twice.1 = .ok (saved.asOf later) ∧
          twice.2.committed = once.2.committed.asOf id later) ∧
      ∀ e, once.1 = .error e →
        twice.1 = .error e ∧ once.2.committed = t ∧ twice.2.committed = t := by
  intro once twice hfits
  rcases hchecked : request.checked with e | ⟨device, a⟩
  · have honce : once = _ := runUnit_register_unchecked t oracle now hchecked
    have hcommitted : once.2.committed = t := by rw [honce]; rfl
    have htwice : twice = _ := runUnit_register_unchecked once.2.committed oracle later hchecked
    rw [honce, htwice]
    exact ⟨nofun, fun e h => ⟨h, rfl, hcommitted⟩⟩
  · obtain ⟨-, htext⟩ := SingleRequest.checked_eq_ok_iff.mp hchecked
    have hreports' := hreports a (Validation.requireText_eq_ok_iff.mp htext).1
    have hfirst := settles_register t oracle now hchecked
    have hsecond := settles_register once.2.committed oracle later hchecked
    rw [Table.reconciled_asOf _ oracle now later] at hsecond
    rcases hresult : t.reconciled oracle now device a with e | ⟨saved, t'⟩ <;>
      rw [hresult] at hfirst
    · obtain ⟨honce, hcommitted⟩ := hfirst.runUnit_of_error
      have ht : once.2.committed = t := hcommitted
      have hagain : once.2.committed.reconciled oracle now device a = .error e := ht.symm ▸ hresult
      rw [hagain] at hsecond
      obtain ⟨htwice, hcommitted'⟩ := Settles.runUnit_of_error hsecond
      refine ⟨fun saved h => ?_, fun e' h => ?_⟩
      · cases honce.symm.trans h
      · cases honce.symm.trans h
        exact ⟨htwice, ht, hcommitted'.trans ht⟩
    · obtain ⟨honce, hcommitted⟩ := hfirst.runUnit_of_ok
      have ht' : t' = once.2.committed := hcommitted.symm
      rw [ht'] at hresult
      obtain ⟨⟨row, hrow, hid⟩, hagain⟩ := Table.reconciled_again hreports' hresult hfits
      rw [hagain] at hsecond
      obtain ⟨htwice, hcommitted'⟩ := Settles.runUnit_of_ok hsecond
      refine ⟨fun saved' h => ?_, fun e h => ?_⟩
      · cases honce.symm.trans h
        rw [hid] at hcommitted'
        exact ⟨row.id, hid, ⟨row, hrow, rfl⟩, htwice, hcommitted'⟩
      · cases honce.symm.trans h

end Enrolment

/-! ### A rotated token -/

/-- A table without its index in which the activation `z` has two rows, and `a` one row with an old
token. -/
def Table.rotated : Table where
  rows := [⟨1, 1, "Z", "ios", some "z", none, true, 0⟩, ⟨2, 1, "Z", "ios", some "z", none, true, 0⟩,
    ⟨3, 1, "S", "ios", some "a", none, false, 0⟩]
  indexed := false
  ordered := by decide
  unique := by decide

/-- The first request brings the new token to the row of `a`, the second one finds it there. -/
theorem register_twice_rotated :
    let request : SingleRequest := ⟨some 1, some "T", some "ios", some "a"⟩
    let once := (Enrolment.register .allActive 5 request).runUnit .rotated .none
    let twice := (Enrolment.register .allActive 6 request).runUnit once.2.committed .none
    (∀ a, request.activationId = some a → Oracle.allActive.ReportsAsked a) ∧
      (∀ row ∈ once.2.committed.rows, fitsStore row.id = true) ∧
      (∃ saved, once.1 = .ok saved ∧ saved.id = some 3 ∧ twice.1 = .ok (saved.asOf 6)) ∧
      twice.2.committed.rows = [⟨1, 1, "Z", "ios", some "z", none, true, 0⟩,
        ⟨2, 1, "Z", "ios", some "z", none, true, 0⟩,
        ⟨3, 1, "T", "ios", some "a", none, true, 6⟩] := by
  intro request once twice
  have hreports : ∀ a, request.activationId = some a → Oracle.allActive.ReportsAsked a :=
    fun a _ => Oracle.reportsAsked_allActive a
  have hrows : once.2.committed.rows = [⟨1, 1, "Z", "ios", some "z", none, true, 0⟩,
      ⟨2, 1, "Z", "ios", some "z", none, true, 0⟩,
      ⟨3, 1, "T", "ios", some "a", none, true, 5⟩] := by decide +kernel
  have hfits : ∀ row ∈ once.2.committed.rows, fitsStore row.id = true := by
    rw [hrows]
    decide
  obtain ⟨saved, honce, hnumber⟩ : ∃ saved, once.1 = .ok saved ∧ saved.id = some 3 := by
    have hsome : once.1.toOption.bind Registration.id = some 3 := by decide +kernel
    obtain ⟨saved, hsaved, hnumber⟩ := Option.bind_eq_some_iff.mp hsome
    rcases hrun : once.1 with e | saved' <;> rw [hrun] at hsaved <;> cases hsaved
    exact ⟨saved, rfl, hnumber⟩
  obtain ⟨hdone, -⟩ := Enrolment.register_twice .rotated 5 6 hreports hfits
  obtain ⟨id, hid, -, htwice, hcommitted⟩ := hdone saved honce
  obtain rfl : 3 = id := Option.some.inj (hnumber.symm.trans hid)
  refine ⟨hreports, hfits, ⟨saved, honce, hnumber, htwice⟩, ?_⟩
  refine (congrArg Table.rows hcommitted).trans ?_
  change once.2.committed.rows.map (Row.asOfIf 3 6) = _
  rw [hrows]
  rfl

end PushRegistry
