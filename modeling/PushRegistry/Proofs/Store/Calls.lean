import PushRegistry.Proofs.Store.Results
import PushRegistry.Proofs.Store.Rows

/-!
# What the calls of the store come to

Each call of the store has one result on a table: the registrations found, the registration saved
with the table it was written to, the table without the rows removed. A lookup in a table of
readable rows never fails; saving fails on rows without a form in the table and where the index
forbids the row.

## Main definitions

* `Table.saved`: a registration saved in a table.

## Main results

* `Work.comesTo_findWhere`: a lookup gives the registrations of the rows selected.
* `Work.comesTo_save`: saving is `Table.saved`.
* `Work.comesTo_deleteAll`: removal erases the rows of the registrations.
* `Table.saved_eq_ok_iff`: when a registration is saved, and what is written.
-/

namespace PushRegistry

/-! ### Saved registrations -/

/-- A registration has a row if its user and its application have a form in the table and its
platform is known. -/
theorem Row.ofRegistration_eq_ok_iff {id : Int} {r : Registration} {row : Row} :
    Row.ofRegistration id r = .ok row ↔
      ∃ userId platform, columnText r.userId = .ok userId ∧ fitsStore r.appId = true ∧
        r.platform = some platform ∧
        row = ⟨id, r.appId, r.token, platform.name, r.activationId, userId, r.isActive,
          r.timestamp⟩ := by
  rw [Row.ofRegistration]
  cases columnText r.userId with
  | error e => simp [bind, Except.bind]
  | ok userId =>
    by_cases hfits : fitsStore r.appId = true
    · cases r.platform <;> simp [bind, Except.bind, pure, Except.pure, hfits, eq_comm]
    · simp [bind, Except.bind, hfits]

theorem Row.id_of_ofRegistration {id : Int} {r : Registration} {row : Row}
    (h : Row.ofRegistration id r = .ok row) : row.id = id := by
  obtain ⟨_, _, -, -, -, rfl⟩ := Row.ofRegistration_eq_ok_iff.mp h
  rfl

/-- A registration saved in a table: with its number, and the table in which its row stands under
that number, or else under the next one. -/
def Table.saved (t : Table) (r : Registration) : Except Failure (Registration × Table) :=
  (do
    let row ← Row.ofRegistration (r.id.getD t.nextId) r
    let t' ← t.store row
    return ({ r with id := some row.id }, t')).mapError (Failure.reported (Work.saveError r))

/-- A registration is saved if it has a row that the index admits. -/
theorem Table.saved_eq_ok_iff {t t' : Table} {r r' : Registration} :
    t.saved r = .ok (r', t') ↔
      ∃ row, Row.ofRegistration (r.id.getD t.nextId) r = .ok row ∧
        (∃ h : t.forbids row = false, t' = t.put row h) ∧ r' = { r with id := some row.id } := by
  rw [Table.saved, mapError_eq_ok_iff]
  constructor
  · intro h
    obtain ⟨row, hrow, h⟩ := bind_eq_ok_iff.mp h
    obtain ⟨_, hstore, ⟨⟩⟩ := bind_eq_ok_iff.mp h
    exact ⟨row, hrow, Table.store_eq_ok_iff.mp hstore, rfl⟩
  · rintro ⟨row, hrow, hstore, rfl⟩
    exact bind_eq_ok_iff.mpr
      ⟨row, hrow, bind_eq_ok_iff.mpr ⟨t', Table.store_eq_ok_iff.mpr hstore, rfl⟩⟩

/-- Whether a failure is a fault of the store or a defect. -/
def Failure.IsLocal (e : Failure) : Prop := (∃ fault, e = .store fault) ∨ ∃ d, e = .defect d

theorem isLocal_of_columnText {user : Json} {e : Failure} (h : columnText user = .error e) :
    e.IsLocal := by
  cases user with
  | null | bool b | float x => cases h
  | int n =>
    rw [columnText] at h
    split at h <;> cases h
    exact .inr ⟨_, rfl⟩
  | string s =>
    cases s <;> cases h
    exact .inr ⟨_, rfl⟩
  | list items | object fields =>
    cases h
    exact .inl ⟨_, rfl⟩

theorem Row.isLocal_of_ofRegistration {id : Int} {r : Registration} {e : Failure}
    (h : Row.ofRegistration id r = .error e) : e.IsLocal := by
  rcases bind_eq_error_iff.mp h with hcolumn | ⟨userId, -, h⟩
  · exact isLocal_of_columnText hcolumn
  · split at h
    · split at h <;> cases h
      exact .inl ⟨_, rfl⟩
    · cases h
      exact .inr ⟨_, rfl⟩

theorem accidental_saveError (r : Registration) (fault : StoreFault) :
    (Failure.app (Work.saveError r fault)).Accidental := by
  cases fault
  case integrity => exact .binding r.activationId
  all_goals exact .save r.id

/-- A registration that is not saved fails as a call of the store does, or by a defect. -/
theorem Table.saved_eq_error {t : Table} {r : Registration} {e : Failure}
    (h : t.saved r = .error e) : e.Accidental ∨ ∃ d, e = .defect d := by
  have hreported : ∀ e' : Failure, e'.IsLocal → e = e'.reported (Work.saveError r) →
      e.Accidental ∨ ∃ d, e = .defect d := by
    rintro e' (⟨fault, rfl⟩ | ⟨d, rfl⟩) rfl
    · exact .inl (accidental_saveError r fault)
    · exact .inr ⟨d, rfl⟩
  obtain ⟨e', he', rfl⟩ := mapError_eq_error_iff.mp h
  rcases bind_eq_error_iff.mp he' with hrow | ⟨row, -, h⟩
  · exact hreported e' (Row.isLocal_of_ofRegistration hrow) rfl
  · by_cases hadmits : t.forbids row = false
    · rw [Table.store_eq_ok hadmits] at h
      cases h
    · rw [Table.store_eq_error (by simpa using hadmits)] at h
      cases h
      exact hreported (.store .integrity) (.inl ⟨_, rfl⟩) rfl

/-- The row of a change has the number that the change is for. -/
theorem Change.id_of_write {t : Table} {change : Change} {x : Row × Table}
    (h : change.write t = .ok x) : x.1.id = change.rowId t := by
  obtain ⟨row, hrow, h⟩ := bind_eq_ok_iff.mp h
  obtain ⟨t', -, ⟨⟩⟩ := bind_eq_ok_iff.mp h
  exact Row.id_of_ofRegistration hrow

theorem Table.saved_eq_write (t : Table) (r : Registration) (change : Change)
    (hrow : change.rowId t = r.id.getD t.nextId) (hr : change.registration = r) :
    t.saved r =
      ((change.write t).map fun x => ({ r with id := some x.1.id }, x.2)).mapError
        (Failure.reported (Work.saveError r)) := by
  rw [Table.saved, Change.write, hrow, hr]
  cases Row.ofRegistration (r.id.getD t.nextId) r with
  | error e => rfl
  | ok row =>
    simp only [bind, Except.bind]
    cases t.store row <;> rfl

namespace Work

variable {t : Table}

/-! ### Lookup -/

/-- A lookup gives the registrations of the rows selected. -/
theorem comesTo_findWhere (ht : ∀ row ∈ t.rows, row.Readable) (p : Row → Bool) :
    (findWhere true p).ComesTo t (.ok ((t.select p).map Row.read, t)) := by
  have hread : ∀ s : Session, s.Tidy → s.working = t →
      (s.working.select p).mapM Row.toRegistration = .ok ((t.select p).map Row.read) := by
    rintro s - rfl
    exact Row.mapM_toRegistration fun row hrow => ht row (Table.mem_select.mp hrow).1
  exact ((comesTo_prepare .find).reporting fun _ => .lookup).bind_ok (comesTo_read hread)

/-- A lookup with a number out of range fails. -/
theorem comesTo_findWhere_outOfRange (p : Row → Bool) :
    (findWhere false p).ComesTo t (.error (.defect .integerRange)) :=
  ((comesTo_prepare .find).reporting fun _ => .lookup).bind_ok (comesTo_fail _)

/-! ### Saving -/

theorem comesTo_isPending (id : Int) : (isPending id).ComesTo t (.ok (false, t)) :=
  comesTo_read (r := .ok false) fun s hs _ => by rw [hs.pending]; rfl

/-- A row is looked for under its number if the number has a form in the table. -/
theorem comesTo_hasRow (id : Int) :
    (hasRow id).ComesTo t
      (if fitsStore id then .ok ((t.find? id).isSome, t) else .error (.defect .integerRange)) := by
  refine (comesTo_attempt .get).bind_ok ((comesTo_isPending id).bind_ok ?_)
  rw [if_neg Bool.false_ne_true]
  refine comesTo_requireUsable.bind_ok (comesTo_writePending.bind_ok ?_)
  split
  · exact comesTo_read (r := .ok (t.find? id).isSome) fun s _ ht => by rw [ht]
  · exact comesTo_fail _

/-- A change that is written at once goes to the table as it is. -/
theorem flush_of_tidy {s : Session} (hs : s.Tidy) (change : Change) :
    flush change s =
      let pending := { s with pending := [change] }
      match s.fault? .flush with
      | some fault => (.error (.store fault), pending.countCall .flush)
      | none =>
        match change.write s.working with
        | .ok (row, t) =>
          (.ok (some row), { pending.countCall .flush with working := t, pending := [] })
        | .error failure => (.error failure, (pending.countCall .flush).spoil) := by
  have hfault : ({ s with pending := [change] } : Session).fault? .flush = s.fault? .flush := rfl
  simp only [flush, bind_apply, update, hs.pending, Change.add_nil, attempt, hfault]
  cases s.fault? .flush with
  | some fault => rfl
  | none =>
    simp only [requireUsable, Session.countCall, hs.usable, Bool.false_eq_true, if_false,
      writePending, Change.inOrder_singleton, Change.writeAll]
    rcases change.write s.working with e | ⟨row, t⟩ <;> rfl

/-- Writing a change is what it comes to when nothing else is pending. -/
theorem comesTo_flush (change : Change) :
    (flush change).ComesTo t ((change.write t).map fun x => (some x.1, x.2)) := by
  constructor
  case within =>
    intro s hs ht
    rw [flush_of_tidy hs, ht]
    cases s.fault? .flush with
    | some fault => exact .of_eq rfl rfl rfl rfl rfl
    | none => cases change.write t <;> exact .of_eq rfl rfl rfl rfl rfl
  case ok =>
    intro s a s' hs ht h
    rw [flush_of_tidy hs, ht] at h
    cases hfault : s.fault? .flush <;> rw [hfault] at h
    · cases hwrite : change.write t <;> rw [hwrite] at h <;> cases h
      exact ⟨⟨rfl, hs.usable⟩, rfl⟩
    · cases h
  case error =>
    intro s e s' hs ht h
    rw [flush_of_tidy hs, ht] at h
    cases hfault : s.fault? .flush with
    | none =>
      rw [hfault] at h
      cases hwrite : change.write t <;> rw [hwrite] at h <;> cases h
      exact .inl rfl
    | some fault =>
      rw [hfault] at h
      cases h
      exact .inr ⟨Session.plan_ne_none_of_fault hfault, .store fault⟩

/-- Saving comes to the registration saved in the table, provided that a registration with a number
has its row there. -/
theorem comesTo_save {r : Registration}
    (h : ∀ id, r.id = some id → fitsStore id = true ∧ ∃ row ∈ t.rows, row.id = id) :
    (save r).ComesTo t (t.saved r) := by
  rw [save]
  cases hid : r.id with
  | none =>
    have hwrite := (comesTo_flush (t := t) (.insert r)).reporting (accidental_saveError r)
    have hid' : ∀ (row : Option Row) (t' : Table),
        (pure { r with id := row.map Row.id } : Work Registration).ComesTo t'
          (.ok ({ r with id := row.map Row.id }, t')) := fun row t' => comesTo_pure _
    have hsaved := hwrite.bind fun row t' _ => hid' row t'
    have hresult := Table.saved_eq_write t r (.insert r) (by rw [hid]; rfl) rfl
    rw [hresult]
    cases hchange : (Change.insert r).write t <;> rw [hchange] at hsaved <;> exact hsaved
  | some id =>
    obtain ⟨hfits, hrow⟩ := h id hid
    have hhas := comesTo_hasRow (t := t) id
    rw [if_pos hfits, Table.isSome_find?_iff.mpr hrow] at hhas
    refine (hhas.reporting fun _ => .lookup).bind_ok ?_
    rw [if_pos rfl]
    have hwrite := (comesTo_flush (t := t) (.update id r)).reporting (accidental_saveError r)
    have hr : ∀ t', (pure r : Work Registration).ComesTo t' (.ok (r, t')) :=
      fun t' => comesTo_pure r
    have hsaved := hwrite.bind fun _ t' _ => hr t'
    have hresult := Table.saved_eq_write t r (.update id r) (by rw [hid]; rfl) rfl
    rw [hresult]
    cases hchange : (Change.update id r).write t with
    | error e =>
      rw [hchange] at hsaved
      exact hsaved
    | ok x =>
      have hx : some x.1.id = r.id := by rw [Change.id_of_write hchange, hid]; rfl
      rw [hchange] at hsaved
      change Work.ComesTo _ t (.ok ({ r with id := some x.1.id }, x.2))
      rw [hx]
      exact hsaved

/-- A registration that was read from a row is saved with another state. -/
theorem comesTo_save_read {row : Row} (hrow : row ∈ t.rows) (hfits : fitsStore row.id = true)
    (isActive : Bool) :
    (save { row.read with isActive }).ComesTo t (t.saved { row.read with isActive }) :=
  comesTo_save fun id hid => by
    cases hid
    exact ⟨hfits, row, hrow, rfl⟩

/-- Saving under a number out of range fails. -/
theorem comesTo_save_outOfRange {r : Registration} {id : Int} (hid : r.id = some id)
    (h : fitsStore id = false) : (save r).ComesTo t (.error (.defect .integerRange)) := by
  have hhas := comesTo_hasRow (t := t) id
  rw [if_neg (by simp [h])] at hhas
  rw [save, hid]
  exact (hhas.reporting fun _ => .lookup).bind_error _

/-! ### Removal -/

/-- Removal erases the rows of registrations whose numbers have a form in the table. -/
theorem comesTo_deleteAll {rows : List Row} (hrows : rows ≠ [])
    (hfits : ∀ row ∈ rows, fitsStore row.id = true) :
    (deleteAll (rows.map Row.read)).ComesTo t
      (.ok (t.rows.length - (t.erase (rows.map Row.id)).rows.length,
        t.erase (rows.map Row.id))) := by
  have hids : (rows.map Row.id).isEmpty = false := by simpa using hrows
  have hall : (rows.map Row.id).all fitsStore = true := by simpa using hfits
  simp only [deleteAll, Row.filterMap_id_read, hids, hall, Bool.false_eq_true, if_false, if_true]
  refine ((comesTo_prepare .delete).reporting fun _ => .deletion).bind_ok ?_
  constructor
  case within =>
    intro s _ _
    exact .of_eq rfl rfl rfl rfl rfl
  case ok =>
    rintro s a s' hs rfl h
    cases h
    exact ⟨⟨hs.pending, hs.usable⟩, rfl⟩
  case error =>
    rintro s e s' _ _ h
    cases h

/-- Removal fails if a number is out of range. -/
theorem comesTo_deleteAll_outOfRange {rows : List Row}
    (h : ∃ row ∈ rows, fitsStore row.id = false) :
    (deleteAll (rows.map Row.read)).ComesTo t (.error (.defect .integerRange)) := by
  obtain ⟨row, hrow, hout⟩ := h
  have hids : (rows.map Row.id).isEmpty = false := by simpa using List.ne_nil_of_mem hrow
  have hall : (rows.map Row.id).all fitsStore = false := by
    simpa using ⟨row, hrow, hout⟩
  simp only [deleteAll, Row.filterMap_id_read, hids, hall, Bool.false_eq_true, if_false]
  exact ((comesTo_prepare .delete).reporting fun _ => .deletion).bind_ok (comesTo_fail _)

end Work

end PushRegistry
