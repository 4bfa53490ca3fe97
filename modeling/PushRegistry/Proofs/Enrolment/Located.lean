import PushRegistry.Enrolment.Lookup
import PushRegistry.Proofs.Store.Calls
import PushRegistry.Proofs.Store.Healthy
import PushRegistry.Validation

/-!
# Looking up a device in any table

A lookup has one result on every table, whether the table is in order or not. It reads all rows
that it finds under a key before it looks at their count, so a row that cannot be read is
complained about before several rows are.

## Main definitions

* `Row.readAll`: rows of which all can be read.
* `Table.located`: the rows under the first key that finds any, or why there are none.

## Main results

* `Work.comesTo_findWhere_readAll`, `Enrolment.comesTo_lookup_located`: what a lookup comes to.
* `Table.located_eq_ok`: under which key the rows were found.
* `Table.bound_or_unbound_of_located`: whether what was found is bound to the activation.
* `Table.located_of_readable`, `Table.located_eq_error`: what a lookup does where all rows can be
  read, and why it fails there.
-/

namespace PushRegistry

/-! ### Rows that are read -/

namespace Row

variable {rows rows' : List Row}

/-- Rows of which all can be read. -/
def readAll (rows : List Row) : Except Failure (List Row) :=
  (rows.mapM toRegistration).map fun _ => rows

theorem readAll_of_readable (h : ∀ row ∈ rows, row.Readable) : readAll rows = .ok rows := by
  rw [readAll, mapM_toRegistration h]
  rfl

theorem eq_of_readAll (h : readAll rows = .ok rows') : rows' = rows := by
  obtain ⟨rs, -, rfl⟩ := map_eq_ok_iff.mp h
  rfl

/-- Rows are read without loss. -/
theorem map_readAll (rows : List Row) :
    (readAll rows).map (List.map read) = rows.mapM toRegistration := by
  rw [readAll]
  cases hrows : rows.mapM toRegistration with
  | error e => rfl
  | ok rs => exact congrArg Except.ok (eq_map_read_of_mapM hrows).symm

end Row

/-- A lookup reads the rows selected. -/
theorem Work.comesTo_findWhere_readAll (t : Table) (p : Row → Bool) :
    (findWhere true p).ComesTo t
      ((Row.readAll (t.select p)).map fun rows => (rows.map Row.read, t)) := by
  have hread : (read fun s => (s.working.select p).mapM Row.toRegistration).ComesTo t
      (((t.select p).mapM Row.toRegistration).map fun rs => (rs, t)) :=
    comesTo_read fun s _ ht => by rw [ht]
  have hfind : (findWhere true p).ComesTo t
      (((t.select p).mapM Row.toRegistration).map fun rs => (rs, t)) :=
    ((comesTo_prepare .find).reporting fun _ => .lookup).bind_ok hread
  rw [← Row.map_readAll] at hfind
  cases hrows : Row.readAll (t.select p) <;> rw [hrows] at hfind <;> exact hfind

/-! ### Rows that are found -/

namespace Table

variable {t : Table} {device : Device} {a : String} {rows : List Row} {e : Failure}

/-- The rows of an activation and a token. -/
def boundWith (t : Table) (activationId token : String) : List Row :=
  t.select fun row => row.activationId == some activationId && row.token == token

theorem mem_boundWith {x : Row} {token : String} :
    x ∈ t.boundWith a token ↔ x ∈ t.rows ∧ x.activationId = some a ∧ x.token = token := by
  rw [boundWith, mem_select, Bool.and_eq_true, beq_iff_eq, beq_iff_eq]

/-- The rows under the first key that finds any. Under the keys of the activation there is one row
at most. -/
def located (t : Table) (device : Device) (activationId : String) : Except Failure (List Row) := do
  match ← Row.readAll (t.boundWith activationId device.token) with
  | [] =>
    match ← Row.readAll (t.boundTo activationId) with
    | [] =>
      if fitsStore device.appId then Row.readAll (t.keyedBy device.appId device.token)
      else .error (.defect .integerRange)
    | [row] => return [row]
    | rows => .error (.app (.duplicateActivation activationId rows.length))
  | [row] => return [row]
  | rows => .error (.app (.duplicateBinding activationId rows.length))

/-- The key under which rows were found. -/
theorem located_eq_ok (h : t.located device a = .ok rows) :
    (∃ row, rows = [row] ∧ t.boundWith a device.token = [row]) ∨
      (∃ row, rows = [row] ∧ t.boundWith a device.token = [] ∧ t.boundTo a = [row]) ∨
      t.boundTo a = [] ∧ fitsStore device.appId = true ∧
        rows = t.keyedBy device.appId device.token := by
  rw [located] at h
  obtain ⟨found, hfirst, h⟩ := bind_eq_ok_iff.mp h
  obtain rfl := Row.eq_of_readAll hfirst
  rcases hone : t.boundWith a device.token with _ | ⟨row, _ | ⟨y, rest⟩⟩ <;> rw [hone] at h
  · obtain ⟨found, hsecond, h⟩ := bind_eq_ok_iff.mp h
    obtain rfl := Row.eq_of_readAll hsecond
    rcases htwo : t.boundTo a with _ | ⟨row, _ | ⟨y, rest⟩⟩ <;> rw [htwo] at h
    · cases hfits : fitsStore device.appId with
      | true =>
        rw [hfits] at h
        exact .inr (.inr ⟨rfl, rfl, Row.eq_of_readAll h⟩)
      | false =>
        rw [hfits] at h
        cases h
    · cases h
      exact .inr (.inl ⟨row, rfl, rfl, rfl⟩)
    · cases h
  · cases h
    exact .inl ⟨row, rfl, rfl⟩
  · cases h

/-- Where all rows can be read, a lookup depends on the rows under the three keys alone. -/
theorem located_of_readable (hread : ∀ row ∈ t.rows, row.Readable)
    (hfits : fitsStore device.appId = true) :
    t.located device a =
      match t.boundWith a device.token, t.boundTo a with
      | [], [] => .ok (t.keyedBy device.appId device.token)
      | [], [row] => .ok [row]
      | [], rows => .error (.app (.duplicateActivation a rows.length))
      | [row], _ => .ok [row]
      | rows, _ => .error (.app (.duplicateBinding a rows.length)) := by
  have hall : ∀ p, Row.readAll (t.select p) = .ok (t.select p) := fun p =>
    Row.readAll_of_readable fun row hrow => hread row (mem_select.mp hrow).1
  have hone : Row.readAll (t.boundWith a device.token) = .ok (t.boundWith a device.token) := hall _
  have htwo : Row.readAll (t.boundTo a) = .ok (t.boundTo a) := hall _
  have hthree : Row.readAll (t.keyedBy device.appId device.token) =
      .ok (t.keyedBy device.appId device.token) := hall _
  rw [located, hone, htwo, hthree, hfits]
  rcases t.boundWith a device.token with _ | ⟨row, _ | ⟨y, rest⟩⟩
  · rcases t.boundTo a with _ | ⟨row, _ | ⟨y, rest⟩⟩ <;> rfl
  · rfl
  · rfl

/-- Where all rows can be read and the store can hold the application, a lookup fails only because
the activation has several rows. -/
theorem located_eq_error (hread : ∀ row ∈ t.rows, row.Readable)
    (hfits : fitsStore device.appId = true) (h : t.located device a = .error e) :
    ∃ n, e = .app (.duplicateBinding a n) ∨ e = .app (.duplicateActivation a n) := by
  rw [located_of_readable hread hfits] at h
  split at h <;> cases h
  · exact ⟨_, .inr rfl⟩
  · exact ⟨_, .inl rfl⟩

/-- Rows that were found are rows of the table. -/
theorem mem_of_located {x : Row} (h : t.located device a = .ok rows) (hx : x ∈ rows) :
    x ∈ t.rows := by
  rcases located_eq_ok h with ⟨row, rfl, hrow⟩ | ⟨row, rfl, -, hrow⟩ | ⟨-, -, rfl⟩
  · exact (mem_boundWith.mp (hrow ▸ hx)).1
  · exact (mem_boundTo.mp (hrow ▸ hx)).1
  · exact (mem_keyedBy.mp hx).1

/-- A row of the activation is found alone, and no other row has its token; if there is none, the
rows of the application and the token are found. -/
theorem bound_or_unbound_of_located (h : t.located device a = .ok rows) :
    (∃ row, rows = [row] ∧ row ∈ t.rows ∧ row.activationId = some a ∧
      ∀ x ∈ t.boundWith a device.token, x = row) ∨
      t.boundTo a = [] ∧ fitsStore device.appId = true ∧
        rows = t.keyedBy device.appId device.token := by
  rcases located_eq_ok h with ⟨row, hone, hrow⟩ | ⟨row, hone, hnone, hrow⟩ | hunbound
  · obtain ⟨hmem, hrowa, -⟩ := mem_boundWith.mp (hrow ▸ List.mem_singleton_self row)
    exact .inl ⟨row, hone, hmem, hrowa, by rw [hrow]; exact fun x => List.mem_singleton.mp⟩
  · obtain ⟨hmem, hrowa⟩ := mem_boundTo.mp (hrow ▸ List.mem_singleton_self row)
    exact .inl ⟨row, hone, hmem, hrowa, by rw [hnone]; nofun⟩
  · exact .inr hunbound

end Table

namespace Enrolment

open Work

/-- Work that complains about the count of some registrations complains about that of their rows. -/
theorem comesTo_fail_length {α : Type} {t : Table} (error : Nat → Failure) (rows : List Row) :
    (fail (error (rows.map Row.read).length) : Work α).ComesTo t (.error (error rows.length)) := by
  rw [List.length_map]
  exact comesTo_fail _

/-- A lookup comes to the rows that `Table.located` says. -/
theorem comesTo_lookup_located (t : Table) (device : Device) (a : String) :
    (lookup device.appId a device.token).ComesTo t
      ((t.located device a).map fun rows => (rows.map Row.read, t)) := by
  have hfirst : (findByActivationAndToken a device.token).ComesTo t
      ((Row.readAll (t.boundWith a device.token)).map fun rows => (rows.map Row.read, t)) :=
    comesTo_findWhere_readAll t _
  have hsecond : (findByActivation a).ComesTo t
      ((Row.readAll (t.boundTo a)).map fun rows => (rows.map Row.read, t)) :=
    comesTo_findWhere_readAll t _
  have hthird : (findByAppAndToken device.appId device.token).ComesTo t
      ((if fitsStore device.appId then Row.readAll (t.keyedBy device.appId device.token)
        else .error (.defect .integerRange)).map fun rows => (rows.map Row.read, t)) := by
    rw [findByAppAndToken]
    cases fitsStore device.appId with
    | true => exact comesTo_findWhere_readAll t _
    | false => exact comesTo_findWhere_outOfRange _
  rw [Table.located]
  rcases hone : Row.readAll (t.boundWith a device.token) with e | _ | ⟨row, _ | ⟨y, rest⟩⟩ <;>
    rw [hone] at hfirst
  · exact hfirst.bind_error _
  · refine hfirst.bind_ok ?_
    rcases htwo : Row.readAll (t.boundTo a) with e | _ | ⟨row, _ | ⟨y, rest⟩⟩ <;>
      rw [htwo] at hsecond
    · exact hsecond.bind_error _
    · exact hsecond.bind_ok hthird
    · exact hsecond.bind_ok (comesTo_pure _)
    · exact hsecond.bind_ok
        (comesTo_fail_length (fun n => .app (.duplicateActivation a n)) (row :: y :: rest))
  · exact hfirst.bind_ok (comesTo_pure _)
  · exact hfirst.bind_ok
      (comesTo_fail_length (fun n => .app (.duplicateBinding a n)) (row :: y :: rest))

end Enrolment

end PushRegistry
