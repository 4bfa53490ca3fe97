import PushRegistry.Proofs.Enrolment.BatchRun
import PushRegistry.Proofs.Enrolment.Turns
import PushRegistry.Proofs.Enrolment.Upkeep

/-!
# Removing what was registered

A device that was registered for an activation is removed with the application and the token that
it was registered with. The activation then has a single row, which carries the token, so no row of
it is left just if that row belongs to the application.

After a batch it does: the turn of the activation moves its row to the device and leaves no other,
the row is claimed from then on, and the index keeps later turns from binding a second one. A single
request leaves a row in its application, and so a row that belonged to another application stays.

## Main definitions

* `Table.SoleRow`: an activation has a single row, which carries the token of a device.
* `Enrolment.Removes`: a removal has removed the rows of a device and has counted them.
* `Table.Awaits`, `Table.Owned`: tables in the course of a batch before and after the turn of an
  activation.

## Main results

* `Enrolment.removes_runUnit`: what a removal does.
* `Table.Healthy.soleRow_reconciled`: the row of the activation after a single request.
* `Table.Awaits.owned`, `Table.Owned.reconciledInBatch`, `Enrolment.owned_enrolAll`: the same after
  its turn, later turns and the batch.
* `Enrolment.remove_undoes_register`: removal after a single request and after a batch.
-/

namespace PushRegistry

/-! ### Removal -/

namespace Table

/-- Whether an activation has a single row, and that row carries the token of a device. -/
structure SoleRow (t : Table) (device : Device) (activationId : String) (row : Row) : Prop where
  mem : row ∈ t.rows
  token : row.token = device.token
  bound : row.activationId = some activationId
  only : ∀ x ∈ t.rows, x.activationId = some activationId → x = row

/-- A device has rows if the row of one of its activations belongs to its application. -/
theorem SoleRow.one_le_length {t : Table} {device : Device} {a : String} {row : Row}
    (h : t.SoleRow device a row) (happ : row.appId = device.appId) :
    1 ≤ (t.keyedBy device.appId device.token).length :=
  List.length_pos_of_mem (mem_keyedBy.mpr ⟨h.mem, happ, h.token⟩)

end Table

namespace Enrolment

open Work

/-- Whether a removal has removed the rows of a device from a table, and no other rows, and has given
their count. -/
structure Removes (device : Device) (t : Table) (run : Except Failure Nat × Session) : Prop where
  answer : run.1 = .ok (t.keyedBy device.appId device.token).length
  rows : run.2.committed.rows =
    t.rows.filter fun row => !(row.appId == device.appId && row.token == device.token)

variable {t : Table} {device : Device} {a : String} {row : Row}
  {run : Except Failure Nat × Session}

theorem Removes.mem_iff {x : Row} (h : Removes device t run) :
    x ∈ run.2.committed.rows ↔ x ∈ t.rows ∧ ¬ (x.appId = device.appId ∧ x.token = device.token) := by
  rw [h.rows, List.mem_filter, Bool.not_eq_true', ← Bool.not_eq_true, Bool.and_eq_true, beq_iff_eq,
    beq_iff_eq]

/-- A removal leaves no row of an activation just if the row of the activation belongs to the
application. -/
theorem Removes.unbound_iff (h : Removes device t run) (hrow : t.SoleRow device a row) :
    (∀ x ∈ run.2.committed.rows, x.activationId ≠ some a) ↔ row.appId = device.appId := by
  constructor
  · intro hunbound
    by_cases happ : row.appId = device.appId
    · exact happ
    · exact absurd hrow.bound (hunbound row (h.mem_iff.mpr ⟨hrow.mem, fun hx => happ hx.1⟩))
  · intro happ x hx hxa
    obtain ⟨hmem, hother⟩ := h.mem_iff.mp hx
    obtain rfl := hrow.only x hmem hxa
    exact hother ⟨happ, hrow.token⟩

/-- Without faults a removal removes the rows of its device, if the table can be read and all numbers
have a form in the store. -/
theorem removes_runUnit {appId : Option Int} {token platform : Option String}
    (hdevice : Validation.requireDevice appId token platform = .ok device)
    (hread : ∀ row ∈ t.rows, row.Readable) (hfits : t.Fits device.appId []) :
    Removes device t ((remove appId token).runUnit t .none) := by
  obtain ⟨happId, htoken, -⟩ := Validation.requireDevice_eq_ok_iff.mp hdevice
  have hsettles : (removeToken device.appId device.token).Settles t
      (.ok (t.removed device.appId device.token)) :=
    (settles_removeToken hread device.appId device.token).resolve_right fun h => h.1 hfits
  have hwork : (remove appId token).Settles t (.ok (t.removed device.appId device.token)) := by
    rw [remove, happId, htoken]
    exact (comesTo_pure device.appId).bind_settles ((comesTo_pure device.token).bind_settles hsettles)
  rcases hwork.runUnit_cases .none with ⟨n, hanswer, hr⟩ | ⟨e, -, -, hr | ⟨hplan, -⟩⟩
  · have hremoved := Except.ok.inj hr
    have hcount := congrArg Prod.fst hremoved
    have hrows := congrArg (fun x => x.2.rows) hremoved
    exact ⟨by rw [hanswer, ← Table.count_removed, hcount], by rw [← Table.rows_removed, ← hrows]⟩
  · cases hr
  · exact absurd rfl hplan

end Enrolment

namespace Table

variable {t t' : Table} {oracle : Oracle} {now : Int} {device : Device} {claimed : List Int}
  {a b : String} {saved : Registration}

/-! ### After a single request -/

/-- After a request for an activation that can be bound to, the activation has a single row. It
belongs to the application of the device unless the activation had a row of another one. -/
theorem Healthy.soleRow_reconciled (ht : t.Healthy) (hreports : oracle.ReportsAsked a)
    (hadmits : oracle.admits a = true)
    (h : t.reconciled oracle now device a = .ok (saved, t')) :
    ∃ row, t'.SoleRow device a row ∧
      (row.appId = device.appId ↔
        ∀ x ∈ t.rows, x.activationId = some a → x.appId = device.appId) := by
  have ht' := ht.reconciled hreports h
  obtain ⟨chosen, answer, hlocated, hanswer, -, hfree, rfl⟩ := reconciled_eq_ok h
  have hwritten := (mem_put hfree).mpr (.inl rfl)
  have hbound := activationId_enrolledRow_of_admits t (chosen.elim device.appId Row.appId) device now
    chosen hanswer hreports hadmits
  refine ⟨_, ⟨hwritten, token_enrolledRow, hbound,
    fun x hx hxa => ht'.single x hx _ hwritten a hxa hbound⟩, ?_⟩
  rw [appId_enrolledRow]
  have hnone : t.boundTo a = [] → ∀ x ∈ t.rows, x.activationId = some a → x.appId = device.appId :=
    fun hnil x hx hxa => absurd hxa (boundTo_eq_nil_iff.mp hnil x hx)
  have hown : ∀ row ∈ t.rows, row.activationId = some a →
      (row.appId = device.appId ↔
        ∀ x ∈ t.rows, x.activationId = some a → x.appId = device.appId) := by
    refine fun row hrow hrowa => ⟨fun happ x hx hxa => ?_, fun hall => hall row hrow hrowa⟩
    rw [ht.single x hx row hrow a hxa hrowa, happ]
  cases chosen with
  | none =>
    rcases located_eq_ok hlocated with ⟨_, ⟨⟩, -⟩ | ⟨_, ⟨⟩, -⟩ | ⟨hnil, -, -⟩
    exact iff_of_true rfl (hnone hnil)
  | some row =>
    rcases located_eq_ok hlocated with ⟨_, ⟨⟩, hrow⟩ | ⟨_, ⟨⟩, -, hrow⟩ | ⟨hnil, -, hrow⟩
    · obtain ⟨hmem, hrowa, -⟩ := mem_boundWith.mp (hrow ▸ List.mem_singleton.mpr rfl)
      exact hown row hmem hrowa
    · obtain ⟨hmem, hrowa⟩ := mem_boundTo.mp (hrow ▸ List.mem_singleton.mpr rfl)
      exact hown row hmem hrowa
    · obtain ⟨-, happ, -⟩ := mem_keyedBy.mp (hrow ▸ Option.mem_toList.mpr rfl)
      exact iff_of_true happ (hnone hnil)

/-! ### The turns of a batch -/

/-- A table in the course of a batch before the turn of an activation. Of the rows that are not
claimed the activation has one at most. -/
structure Awaits (t : Table) (device : Device) (activationId : String) (claimed : List Int) :
    Prop where
  indexed : t.indexed = true
  readable : ∀ row ∈ t.rows, row.Readable
  claims : t.Claims device claimed
  single : ∀ x ∈ t.rows, ∀ y ∈ t.rows, x.id ∉ claimed → y.id ∉ claimed →
    x.activationId = some activationId → y.activationId = some activationId → x = y

/-- A table in the course of a batch after the turn of an activation. The single row of the
activation is claimed and belongs to the device. -/
structure Owned (t : Table) (device : Device) (activationId : String) (claimed : List Int) :
    Prop where
  indexed : t.indexed = true
  readable : ∀ row ∈ t.rows, row.Readable
  owner : ∃ row, t.SoleRow device activationId row ∧ row.id ∈ claimed ∧ row.appId = device.appId

theorem Healthy.awaits (ht : t.Healthy) (device : Device) (a : String) : t.Awaits device a [] where
  indexed := ht.indexed
  readable := ht.readable
  claims := claims_nil
  single x hx y hy _ _ := ht.single x hx y hy a

/-- The turn of any activation leaves those waiting that were not the one. -/
theorem Awaits.reconciledInBatch (ht : t.Awaits device a claimed)
    (h : t.reconciledInBatch oracle now device claimed b = .ok (saved, t')) :
    t'.Awaits device a (saved.id.toList ++ claimed) where
  indexed := (indexed_reconciledInBatch h).trans ht.indexed
  readable := readable_reconciledInBatch ht.readable h
  claims := ht.claims.reconciledInBatch h
  single x hx y hy hxfree hyfree := by
    have hold : ∀ z ∈ t'.rows, z.id ∉ saved.id.toList ++ claimed → z ∈ t.rows ∧ z.id ∉ claimed := by
      intro z hz hfree
      rcases mem_reconciledInBatch h hz with ⟨hold, -⟩ | ⟨hid, -⟩
      · exact ⟨hold, fun hclaimed => hfree (List.mem_append_right _ hclaimed)⟩
      · exact absurd (List.mem_append_left _ (Option.mem_toList.mpr hid)) hfree
    obtain ⟨hx, hxfree⟩ := hold x hx hxfree
    obtain ⟨hy, hyfree⟩ := hold y hy hyfree
    exact ht.single x hx y hy hxfree hyfree

/-- An activation that gets its row in a turn has had no claimed row: that one would carry the token
of the new row. -/
theorem Awaits.unclaimed (ht : t.Awaits device a claimed) {written : Row}
    (h : t.reconciledInBatch oracle now device claimed a = .ok (saved, t'))
    (hid : saved.id = some written.id) (hmem : written ∈ t'.rows)
    (htoken : written.token = device.token) (hbound : written.activationId = some a) :
    ∀ x ∈ t.rows, x.activationId = some a → x.id ∉ claimed := by
  intro x hx hxa hclaimed
  obtain ⟨row, hrow, hclaiming⟩ := claiming_of_reconciledInBatch h
  obtain ⟨hne, hkept⟩ := hclaiming.kept x hx hclaimed
  have hxtoken : x.token = written.token := (ht.claims x hx hclaimed).2.trans htoken.symm
  have hsame : x = written := eq_of_binding_eq ((indexed_reconciledInBatch h).trans ht.indexed)
    hkept hmem hxa hbound hxtoken
  exact hne (hsame ▸ Option.some.inj (hid.symm.trans hrow))

/-- In its turn an activation that can be bound to gets its row, and no row of it is left beside that
one. -/
theorem Awaits.owned (ht : t.Awaits device a claimed) (hreports : oracle.ReportsAsked a)
    (hadmits : oracle.admits a = true)
    (h : t.reconciledInBatch oracle now device claimed a = .ok (saved, t')) :
    t'.Owned device a (saved.id.toList ++ claimed) := by
  have hindexed := (indexed_reconciledInBatch h).trans ht.indexed
  have hreadable := readable_reconciledInBatch ht.readable h
  obtain ⟨rows, t₁, answer, hrows, hcleared, hanswer, hid, hfree, rfl⟩ := reconciledInBatch_eq_ok h
  have hmem := (mem_put hfree).mpr (.inl rfl)
  have hbound := activationId_enrolledRow_of_admits t₁ device.appId device now
    (Row.unclaimed? claimed rows) hanswer hreports hadmits
  have hnew := ht.unclaimed h hid hmem token_enrolledRow hbound
  refine ⟨hindexed, hreadable, _, ⟨hmem, token_enrolledRow, hbound, fun x hx hxa => ?_⟩,
    List.mem_append_left _ (Option.mem_toList.mpr hid), appId_enrolledRow⟩
  rcases (mem_put hfree).mp hx with heq | ⟨hleft, hne⟩
  · exact heq
  have hold := ((mem_cleared hcleared fun row hrow => mem_of_located hrows hrow).mp hleft).1
  -- A row of the activation that was found is taken over, and it is the only one.
  have htaken : ∀ row, rows = [row] → row ∈ t.rows → row.activationId ≠ some a := by
    rintro row rfl hrow hrowa
    have hrownew := hnew row hrow hrowa
    rw [ht.single x hold row hrow (hnew x hold hxa) hrownew hxa hrowa, id_enrolledRow,
      Row.unclaimed?, if_neg hrownew] at hne
    exact hne rfl
  rcases located_eq_ok hrows with ⟨row, hone, hrow⟩ | ⟨row, hone, -, hrow⟩ | ⟨hnil, -, -⟩
  · obtain ⟨hrowmem, hrowa, -⟩ := mem_boundWith.mp (hrow ▸ List.mem_singleton.mpr rfl)
    exact absurd hrowa (htaken row hone hrowmem)
  · obtain ⟨hrowmem, hrowa⟩ := mem_boundTo.mp (hrow ▸ List.mem_singleton.mpr rfl)
    exact absurd hrowa (htaken row hone hrowmem)
  · exact absurd hxa (boundTo_eq_nil_iff.mp hnil x hold)

/-- After its turn the activation keeps its row, and the index keeps others from getting a second
one. -/
theorem Owned.reconciledInBatch (ht : t.Owned device a claimed)
    (h : t.reconciledInBatch oracle now device claimed b = .ok (saved, t')) :
    t'.Owned device a (saved.id.toList ++ claimed) := by
  have hindexed := (indexed_reconciledInBatch h).trans ht.indexed
  obtain ⟨row, hrow, hclaimed, happ⟩ := ht.owner
  obtain ⟨written, hid, hclaiming⟩ := claiming_of_reconciledInBatch h
  obtain ⟨-, hkept⟩ := hclaiming.kept row hrow.mem hclaimed
  refine ⟨hindexed, readable_reconciledInBatch ht.readable h, row,
    ⟨hkept, hrow.token, hrow.bound, fun x hx hxa => ?_⟩, List.mem_append_right _ hclaimed, happ⟩
  rcases mem_reconciledInBatch h hx with ⟨hold, -⟩ | ⟨-, hheard⟩
  · exact hrow.only x hold hxa
  · have hxtoken : x.token = row.token := (congrArg Row.token hheard.symm).trans hrow.token.symm
    exact eq_of_binding_eq hindexed hx hkept hxa hrow.bound hxtoken

end Table

namespace Enrolment

open Work

variable {t : Table} {oracle : Oracle} {now : Int} {device : Device} {claimed : List Int}
  {a b : String} {ids : List String}

/-- An activation that is registered has done what the table says. -/
theorem reconciledInBatch_of_succeeded {s s₁ : Session} {o : Outcome} (hs : s.Settled)
    (hrun : attemptInBatch oracle now device claimed b s = (.ok o, s₁)) (ho : o.succeeded = true) :
    s₁.Settled ∧ ∃ saved : Registration, o = ⟨b, .ok saved.id⟩ ∧
      s.committed.reconciledInBatch oracle now device claimed b = .ok (saved, s₁.committed) := by
  have hattempt := attempt_of_settles hs
    (settles_reconciledInBatch s.committed oracle now device claimed b)
  rw [hrun] at hattempt
  cases hattempt with
  | registered hresult hsettled _ => exact ⟨hsettled, _, rfl, hresult⟩
  | failed => cases ho

/-- A batch of which all activations are registered leaves a single row, which belongs to the
device, for each of them that can be bound to. -/
theorem owned_enrolAll {s s' : Session} {os : List Outcome} (hs : s.Settled)
    (hreports : oracle.ReportsAsked a) (hadmits : oracle.admits a = true)
    (ht : a ∈ ids ∧ s.committed.Awaits device a claimed ∨ s.committed.Owned device a claimed)
    (hrun : enrolAll oracle now device claimed ids s = (.ok os, s'))
    (hall : ∀ o ∈ os, o.succeeded = true) : ∃ claimed', s'.committed.Owned device a claimed' := by
  induction ids generalizing claimed s os with
  | nil =>
    cases hrun
    rcases ht with ⟨hmem, -⟩ | howned
    · cases hmem
    · exact ⟨claimed, howned⟩
  | cons b rest ih =>
    obtain ⟨o, s₁, os₁, hfirst, hrest, rfl⟩ := enrolAll_cons_eq_ok_iff.mp hrun
    obtain ⟨ho, hos⟩ := List.forall_mem_cons.mp hall
    obtain ⟨hs₁, saved, rfl, hresult⟩ := reconciledInBatch_of_succeeded hs hfirst ho
    refine ih hs₁ ?_ hrest hos
    rcases ht with ⟨hmem, hawaits⟩ | howned
    · rcases List.mem_cons.mp hmem with rfl | hmem
      · exact .inr (hawaits.owned hreports hadmits hresult)
      · exact .inl ⟨hmem, hawaits.reconciledInBatch hresult⟩
    · exact .inr (howned.reconciledInBatch hresult)

/-- On a healthy table, let a device be registered for an activation that can be bound to, by a
single request or by a batch, whatever calls of the store fail meanwhile. If all numbers have a form
in the store, removing the device with the application and the token of the request removes the rows
of the device and no others, and gives their count. After a batch there are such rows, and no row of
the activation is left; after a single request this is so just if the activation has had no row of
another application. -/
theorem remove_undoes_register (oracle : Oracle) (now : Int) (plan : FaultPlan)
    {single : SingleRequest} {batch : BatchRequest} (hsingle : single.checked = .ok (device, a))
    (hbatch : batch.checked = .ok (device, ids)) (ht : t.Healthy)
    (hreports : oracle.ReportsAsked a) (hadmits : oracle.admits a = true) (hmem : a ∈ ids) :
    let registered := (register oracle now single).runUnit t plan
    let enrolled := (registerBatch oracle now true batch).runUnit t plan
    (∀ saved, registered.1 = .ok saved → registered.2.committed.Fits device.appId [] →
      let removal := (remove single.appId single.token).runUnit registered.2.committed .none
      let own := ∀ x ∈ t.rows, x.activationId = some a → x.appId = device.appId
      Removes device registered.2.committed removal ∧
        ((∀ x ∈ removal.2.committed.rows, x.activationId ≠ some a) ↔ own) ∧
        (own → 1 ≤ (registered.2.committed.keyedBy device.appId device.token).length)) ∧
      ∀ os, enrolled.1 = .ok os → enrolled.2.committed.Fits device.appId [] →
        let removal := (remove batch.appId batch.token).runUnit enrolled.2.committed .none
        Removes device enrolled.2.committed removal ∧
          (∀ x ∈ removal.2.committed.rows, x.activationId ≠ some a) ∧
          1 ≤ (enrolled.2.committed.keyedBy device.appId device.token).length := by
  intro registered enrolled
  constructor
  · intro saved hsaved hfits removal own
    rcases (settles_register t oracle now hsingle).runUnit_cases plan with
      ⟨saved', -, hresult⟩ | ⟨e, herror, -⟩
    · have hremoves : Removes device registered.2.committed removal :=
        removes_runUnit (SingleRequest.checked_eq_ok_iff.mp hsingle).1
          (ht.reconciled hreports hresult).readable hfits
      obtain ⟨row, hrow, hown⟩ := ht.soleRow_reconciled hreports hadmits hresult
      exact ⟨hremoves, (hremoves.unbound_iff hrow).trans hown,
        fun h => hrow.one_le_length (hown.mpr h)⟩
    · cases hsaved.symm.trans herror
  · intro os hos hfits removal
    obtain ⟨⟨s', hrun, hcommitted⟩, hall⟩ := enrolAll_of_registerBatch_eq_ok hbatch hos
    obtain ⟨claimed, howned⟩ := owned_enrolAll (Session.settled_begin t plan) hreports hadmits
      (.inl ⟨hmem, ht.awaits device a⟩) hrun hall
    rw [hcommitted] at howned
    obtain ⟨row, hrow, -, happ⟩ := howned.owner
    have hremoves : Removes device enrolled.2.committed removal :=
      removes_runUnit (BatchRequest.checked_eq_ok_iff.mp hbatch).1 howned.readable hfits
    exact ⟨hremoves, (hremoves.unbound_iff hrow).mpr happ, hrow.one_le_length happ⟩

end Enrolment

/-! ### An activation of another application -/

/-- The table with one row, of an activation and of the second application. -/
def Table.abroad : Table where
  rows := [⟨1, 2, "T", "ios", some "a", none, false, 0⟩]
  indexed := true
  ordered := by decide
  unique := by decide

theorem Table.healthy_abroad : Table.abroad.Healthy := healthy_of_one rfl rfl ⟨.ios, rfl⟩

/-- A request to register the device of the token `T` for `a`. -/
def SingleRequest.homing : SingleRequest := ⟨some 1, some "T", some "ios", some "a"⟩

/-- After a single request the removal finds nothing, and the row of the activation stays. -/
theorem remove_misses_abroad :
    let registered := (Enrolment.register .allActive 5 .homing).runUnit .abroad .none
    let removal := (Enrolment.remove (some 1) (some "T")).runUnit registered.2.committed .none
    Table.abroad.Healthy ∧ Table.abroad.Fits 1 [] ∧ Oracle.allActive.ReportsAsked "a" ∧
      Oracle.allActive.admits "a" = true ∧ registered.1.isOk = true ∧
      removal.1.toOption = some 0 ∧
      removal.2.committed.rows = [⟨1, 2, "T", "ios", some "a", none, true, 5⟩] := by
  refine ⟨Table.healthy_abroad, ⟨by decide, by decide⟩, Oracle.reportsAsked_allActive "a", ?_⟩
  decide +kernel

/-- After a batch the removal takes the row of the activation away. -/
theorem remove_undoes_register_abroad :
    let batch : BatchRequest := ⟨some 1, some "T", some "ios", some [some "b", some "a"]⟩
    let registered := (Enrolment.register .allActive 5 .homing).runUnit .abroad .none
    let enrolled := (Enrolment.registerBatch .allActive 5 true batch).runUnit .abroad .none
    (∃ saved, registered.1 = .ok saved ∧ registered.2.committed.Fits 1 [] ∧
        ∃ x ∈ ((Enrolment.remove (some 1) (some "T")).runUnit registered.2.committed
          .none).2.committed.rows, x.activationId = some "a") ∧
      ∃ os, enrolled.1 = .ok os ∧ enrolled.2.committed.Fits 1 [] ∧
        ((Enrolment.remove (some 1) (some "T")).runUnit enrolled.2.committed .none).1 = .ok 2 ∧
          ∀ x ∈ ((Enrolment.remove (some 1) (some "T")).runUnit enrolled.2.committed
            .none).2.committed.rows, x.activationId ≠ some "a" := by
  intro batch registered enrolled
  have hbatch : batch.checked = .ok (⟨1, "T", .ios⟩, ["b", "a"]) := by rfl
  obtain ⟨hsingle, hall⟩ := Enrolment.remove_undoes_register .allActive 5 .none
    (show SingleRequest.homing.checked = .ok (⟨1, "T", .ios⟩, "a") by rfl) hbatch
    Table.healthy_abroad (Oracle.reportsAsked_allActive "a") (by decide) (by decide)
  have hregistered : registered.1.isOk = true ∧
      ∀ row ∈ registered.2.committed.rows, fitsStore row.id = true := by decide +kernel
  have henrolled : enrolled.1.isOk = true ∧
      ∀ row ∈ enrolled.2.committed.rows, fitsStore row.id = true := by decide +kernel
  constructor
  · cases hsaved : registered.1 with
    | error e =>
      rw [hsaved] at hregistered
      cases hregistered.1
    | ok saved =>
      have hfits : registered.2.committed.Fits 1 [] := ⟨by decide, fun row h _ => hregistered.2 row h⟩
      obtain ⟨-, hunbound, -⟩ := hsingle saved hsaved hfits
      have hforeign : ¬ ∀ x ∈ Table.abroad.rows, x.activationId = some "a" → x.appId = 1 := by
        decide
      obtain ⟨x, hx⟩ := Classical.not_forall.mp ((not_congr hunbound).mpr hforeign)
      obtain ⟨hmem, hbound⟩ := Classical.not_imp.mp hx
      exact ⟨saved, rfl, hfits, x, hmem, Classical.not_not.mp hbound⟩
  · cases hos : enrolled.1 with
    | error e =>
      rw [hos] at henrolled
      cases henrolled.1
    | ok os =>
      have hfits : enrolled.2.committed.Fits 1 [] := ⟨by decide, fun row h _ => henrolled.2 row h⟩
      obtain ⟨hremoves, hunbound, -⟩ := hall os hos hfits
      have hcount : (enrolled.2.committed.keyedBy 1 "T").length = 2 := by decide +kernel
      exact ⟨os, rfl, hfits, hcount ▸ hremoves.answer, hunbound⟩

end PushRegistry
