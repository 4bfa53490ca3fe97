import PushRegistry.Enrolment.Batch
import PushRegistry.Enrolment.Single
import PushRegistry.Proofs.Enrolment.Located

/-!
# Which registration a device gets

A single request takes the only row that was found, a new registration if there is none, and
refuses to choose among several. A batch does not take a claimed row, and it removes several rows
except those that are claimed.

In a healthy table a device is looked up among few rows, the candidates: the row of its activation
if there is one, and the rows of its application and token otherwise.

## Main definitions

* `Row.only`, `Row.unclaimed?`, `Table.cleared`: what is made of the rows that were found.
* `Table.locatedInBatch`: the rows that were found together with the table that is left.
* `Table.candidates`: the rows among which a device is looked up in a healthy table.
* `Table.chosenInBatch`, `Table.vacated`: the row that a batch takes over, and the table after
  those that make place were removed.
* `Table.Fits`: tables whose numbers have a form in the store, as far as a batch refers to them.

## Main results

* `Enrolment.comesTo_chooseSingle`, `Enrolment.comesTo_chooseInBatch`: what is chosen in any table.
* `Table.Healthy.located_cases`: in a healthy table a lookup gives the candidates.
* `Table.cleared_cases`: rows make place unless one of them is out of range.
-/

namespace PushRegistry

/-! ### Rows that were found -/

namespace Row

/-- The only row of those that were found, if there is any. -/
def only (appId : Int) : List Row → Except Failure (Option Row)
  | [] => .ok none
  | [row] => .ok (some row)
  | rows => .error (.app (.ambiguousToken appId rows.length))

/-- The only row of those that were found, unless it is claimed. -/
def unclaimed? (claimed : List Int) : List Row → Option Row
  | [row] => if row.id ∈ claimed then none else some row
  | _ => none

theorem eq_toList_of_only {appId : Int} {rows : List Row} {chosen : Option Row}
    (h : only appId rows = .ok chosen) : rows = chosen.toList := by
  match rows with
  | [] =>
    cases h
    rfl
  | [row] =>
    cases h
    rfl
  | _ :: _ :: _ => cases h

theorem eq_singleton_of_unclaimed? {claimed : List Int} {rows : List Row} {row : Row}
    (h : unclaimed? claimed rows = some row) : rows = [row] ∧ row.id ∉ claimed := by
  match rows with
  | [] => cases h
  | [x] =>
    rw [unclaimed?] at h
    split at h
    · cases h
    · next hclaimed =>
      cases h
      exact ⟨rfl, hclaimed⟩
  | _ :: _ :: _ => cases h

end Row

/-- A table after several rows that were found have made place, except those that are claimed. -/
def Table.cleared (t : Table) (claimed : List Int) : List Row → Except Failure Table
  | [_] => .ok t
  | rows =>
    let stale := rows.filter fun row => row.id ∉ claimed
    if stale.all fun row => fitsStore row.id then .ok (t.erase (stale.map Row.id))
    else .error (.defect .integerRange)

/-- The rows that are found for an activation of a batch, and the table after they have made
place. -/
def Table.locatedInBatch (t : Table) (device : Device) (claimed : List Int)
    (activationId : String) : Except Failure (List Row × Table) := do
  let rows ← t.located device activationId
  let t' ← t.cleared claimed rows
  return (rows, t')

theorem Table.cleared_of_ne {t : Table} {claimed : List Int} {rows : List Row}
    (h : ∀ row, rows ≠ [row]) :
    t.cleared claimed rows =
      if (rows.filter fun row => row.id ∉ claimed).all fun row => fitsStore row.id then
        .ok (t.erase ((rows.filter fun row => row.id ∉ claimed).map Row.id))
      else .error (.defect .integerRange) := by
  rw [cleared.eq_def]
  split
  · next row => exact absurd rfl (h row)
  · rfl

namespace Table

variable {t t' : Table} {claimed : List Int} {rows : List Row} {x : Row}

/-- The only row that was found is left, and several rows are erased as far as they are not
claimed. -/
theorem cleared_eq_ok (h : t.cleared claimed rows = .ok t') :
    (∃ row, rows = [row]) ∧ t' = t ∨
      rows.length ≠ 1 ∧ t' = t.erase ((rows.filter fun row => row.id ∉ claimed).map Row.id) := by
  by_cases hsole : ∃ row, rows = [row]
  · obtain ⟨row, rfl⟩ := hsole
    cases h
    exact .inl ⟨⟨row, rfl⟩, rfl⟩
  · rw [cleared_of_ne fun row hrow => hsole ⟨row, hrow⟩] at h
    split at h <;> cases h
    exact .inr ⟨fun hone => hsole (List.length_eq_one_iff.mp hone), rfl⟩

theorem indexed_cleared (h : t.cleared claimed rows = .ok t') : t'.indexed = t.indexed := by
  rcases cleared_eq_ok h with ⟨-, rfl⟩ | ⟨-, rfl⟩ <;> rfl

/-- Of the rows that were found, if they are several, the claimed ones are left. -/
theorem mem_cleared (h : t.cleared claimed rows = .ok t') (hrows : ∀ row ∈ rows, row ∈ t.rows) :
    x ∈ t'.rows ↔ x ∈ t.rows ∧ (x ∈ rows → rows.length ≠ 1 → x.id ∈ claimed) := by
  rcases cleared_eq_ok h with ⟨⟨row, rfl⟩, rfl⟩ | ⟨hlength, rfl⟩
  · simp
  · rw [mem_erase, List.mem_map]
    refine and_congr_right fun hx => ⟨fun hleft hmem _ => ?_, ?_⟩
    · by_cases hclaimed : x.id ∈ claimed
      · exact hclaimed
      · exact absurd ⟨x, List.mem_filter.mpr ⟨hmem, by simpa using hclaimed⟩, rfl⟩ hleft
    · rintro hclaimed ⟨y, hy, hyid⟩
      obtain ⟨hmem, hfree⟩ := List.mem_filter.mp hy
      obtain rfl := eq_of_id_eq (hrows y hmem) hx hyid
      exact of_decide_eq_true hfree (hclaimed hmem hlength)

end Table

namespace Enrolment

open Work

variable {claimed : List Int}

/-- The registration that stands for a row, or a new one. -/
def startFrom (device : Device) (now : Int) : Option Row → Registration
  | some row => row.read
  | none => .create device.appId device.token now

/-- A single request takes the only row that was found or a new registration. -/
theorem comesTo_chooseSingle (t : Table) (device : Device) (a : String) (now : Int) :
    (chooseSingle device a now).ComesTo t
      ((t.located device a >>= Row.only device.appId).map fun chosen =>
        (startFrom device now chosen, t)) := by
  have hlookup := comesTo_lookup_located t device a
  rcases hrows : t.located device a with e | _ | ⟨row, _ | ⟨y, rest⟩⟩ <;> rw [hrows] at hlookup
  · exact hlookup.bind_error _
  · exact hlookup.bind_ok (comesTo_pure _)
  · exact hlookup.bind_ok (comesTo_pure _)
  · exact hlookup.bind_ok
      (comesTo_fail_length (fun n => .app (.ambiguousToken device.appId n)) (row :: y :: rest))

theorem isClaimed_read (row : Row) : isClaimed claimed row.read = decide (row.id ∈ claimed) := by
  simp [isClaimed, Row.read]

theorem filter_not_isClaimed (rows : List Row) :
    ((rows.map Row.read).filter fun r => !isClaimed claimed r) =
      (rows.filter fun row => row.id ∉ claimed).map Row.read := by
  rw [List.filter_map]
  congr 2
  funext row
  simp [isClaimed_read]

/-- Several rows make place for a new registration, unless one of them is out of range. -/
theorem comesTo_cleared (t : Table) (claimed : List Int) (device : Device) (a : String)
    (now : Int) {rows : List Row} (hrows : ∀ row, rows ≠ [row]) :
    let stale := (rows.map Row.read).filter fun r => !isClaimed claimed r
    let new := Registration.create device.appId device.token now
    let work : Work Registration :=
      if !stale.isEmpty then do
        let removed ← deleteAll stale
        record (.ambiguousRemoved removed device.appId a)
        return new
      else return new
    work.ComesTo t ((t.cleared claimed rows).map fun t' => (new, t')) := by
  intro stale new work
  let staleRows := rows.filter fun row => row.id ∉ claimed
  have hstale : stale = staleRows.map Row.read := filter_not_isClaimed rows
  rw [Table.cleared_of_ne hrows]
  by_cases hempty : staleRows = []
  · have hwork : work = pure new := if_neg (by rw [hstale, hempty]; simp)
    rw [hwork, show rows.filter _ = [] from hempty, if_pos (by rfl), List.map_nil, Table.erase_nil]
    exact comesTo_pure new
  · have hwork : work = (do
        let removed ← deleteAll stale
        record (.ambiguousRemoved removed device.appId a)
        return new) := if_pos (by rw [hstale]; simpa using hempty)
    rw [hwork, hstale]
    by_cases hfits : ∀ row ∈ staleRows, fitsStore row.id = true
    · rw [if_pos (List.all_eq_true.mpr hfits)]
      exact (comesTo_deleteAll hempty hfits).bind_ok
        ((comesTo_record (by simp [LogEntry.severity])).bind_ok (comesTo_pure new))
    · rw [if_neg (by rwa [List.all_eq_true])]
      simp only [Classical.not_forall, Bool.not_eq_true] at hfits
      obtain ⟨row, hrow, hout⟩ := hfits
      exact (comesTo_deleteAll_outOfRange ⟨row, hrow, hout⟩).bind_error _

/-- A batch takes the only row that was found and is not claimed, or a new registration, after
several rows have made place. -/
theorem comesTo_chooseInBatch (t : Table) (device : Device) (a : String) (now : Int)
    (claimed : List Int) :
    (chooseInBatch device a now claimed).ComesTo t
      ((t.locatedInBatch device claimed a).map fun x =>
        (startFrom device now (Row.unclaimed? claimed x.1), x.2)) := by
  have hlookup := comesTo_lookup_located t device a
  rw [Table.locatedInBatch]
  rcases hrows : t.located device a with e | _ | ⟨row, _ | ⟨y, rest⟩⟩ <;> rw [hrows] at hlookup
  · exact hlookup.bind_error _
  · refine hlookup.bind_ok ?_
    change (pure (Registration.create device.appId device.token now) : Work Registration).ComesTo t
      (.ok (Registration.create device.appId device.token now, t.erase []))
    rw [Table.erase_nil]
    exact comesTo_pure _
  · have hchoice :
        (if isClaimed claimed row.read then Registration.create device.appId device.token now
          else row.read) = startFrom device now (Row.unclaimed? claimed [row]) := by
      rw [isClaimed_read, Row.unclaimed?]
      by_cases hclaimed : row.id ∈ claimed <;> simp [hclaimed, startFrom]
    change (chooseInBatch device a now claimed).ComesTo t
      (.ok (startFrom device now (Row.unclaimed? claimed [row]), t))
    rw [← hchoice]
    exact hlookup.bind_ok (comesTo_pure _)
  · have hmany : ∀ x, row :: y :: rest ≠ [x] := by simp
    have hwork : (chooseInBatch device a now claimed).ComesTo t _ :=
      hlookup.bind_ok (comesTo_cleared t claimed device a now hmany)
    change (chooseInBatch device a now claimed).ComesTo t
      ((t.cleared claimed (row :: y :: rest) >>= fun t' => .ok (row :: y :: rest, t')).map fun x =>
        (startFrom device now (Row.unclaimed? claimed x.1), x.2))
    cases ht' : t.cleared claimed (row :: y :: rest) <;> rw [ht'] at hwork <;> exact hwork

end Enrolment

/-! ### Candidates -/

namespace Table

/-- The rows among which a device is looked up for an activation. -/
def candidates (t : Table) (device : Device) (activationId : String) : List Row :=
  match t.boundTo activationId with
  | [] => t.keyedBy device.appId device.token
  | rows => rows

/-- The row that an activation of a batch takes over, if it does not get a new one. -/
def chosenInBatch (t : Table) (device : Device) (claimed : List Int) (activationId : String) :
    Option Row :=
  match t.candidates device activationId with
  | [row] => if row.id ∈ claimed then none else some row
  | _ => none

/-- The table after several candidates have made place for an activation of a batch. -/
def vacated (t : Table) (device : Device) (claimed : List Int) (activationId : String) : Table :=
  match t.candidates device activationId with
  | [_] => t
  | rows => t.erase ((rows.filter fun row => row.id ∉ claimed).map Row.id)

/-- Whether an application and the numbers of all rows that are not claimed have a form in the
store. -/
structure Fits (t : Table) (appId : Int) (claimed : List Int) : Prop where
  app : fitsStore appId = true
  ids : ∀ row ∈ t.rows, row.id ∉ claimed → fitsStore row.id = true

variable {t : Table} {device : Device} {claimed : List Int} {a : String} {row x : Row}

theorem candidates_of_bound (h : t.boundTo a = [row]) : t.candidates device a = [row] := by
  rw [candidates, h]

theorem candidates_of_unbound (h : t.boundTo a = []) :
    t.candidates device a = t.keyedBy device.appId device.token := by
  rw [candidates, h]

theorem mem_of_mem_candidates (h : x ∈ t.candidates device a) : x ∈ t.rows := by
  rw [candidates] at h
  split at h
  · exact (mem_keyedBy.mp h).1
  · exact (mem_boundTo.mp h).1

theorem mem_of_chosenInBatch (h : t.chosenInBatch device claimed a = some row) :
    t.candidates device a = [row] ∧ row ∈ t.rows ∧ row.id ∉ claimed := by
  rw [chosenInBatch] at h
  split at h
  · next r hrows =>
    split at h
    · cases h
    · next hclaimed =>
      cases h
      exact ⟨hrows, mem_of_mem_candidates (by rw [hrows]; exact List.mem_singleton.mpr rfl),
        hclaimed⟩
  · cases h

theorem chosenInBatch_of_singleton (h : t.candidates device a = [row]) :
    t.chosenInBatch device claimed a = if row.id ∈ claimed then none else some row := by
  rw [chosenInBatch, h]

theorem chosenInBatch_of_ne (h : ∀ row, t.candidates device a ≠ [row]) :
    t.chosenInBatch device claimed a = none := by
  rw [chosenInBatch]
  split
  · next row hrows => exact absurd hrows (h row)
  · rfl

theorem vacated_of_singleton (h : t.candidates device a = [row]) :
    t.vacated device claimed a = t := by
  rw [vacated, h]

theorem vacated_of_ne (h : ∀ row, t.candidates device a ≠ [row]) :
    t.vacated device claimed a =
      t.erase (((t.candidates device a).filter fun row => row.id ∉ claimed).map Row.id) := by
  rw [vacated]
  split
  · next row hrows => exact absurd hrows (h row)
  · rfl

/-- Rows make place only if they are candidates that are not claimed. -/
theorem mem_vacated : x ∈ (t.vacated device claimed a).rows ↔
    x ∈ t.rows ∧ (x ∈ t.candidates device a → (t.candidates device a).length ≠ 1 →
      x.id ∈ claimed) := by
  rw [vacated]
  split
  · next r hrows => simp [hrows]
  · next hne =>
    have hlength : (t.candidates device a).length ≠ 1 := fun h => by
      obtain ⟨r, hr⟩ := List.length_eq_one_iff.mp h
      exact hne r hr
    rw [mem_erase]
    refine and_congr_right fun hx => ?_
    simp only [List.mem_map, List.mem_filter, decide_not, Bool.not_eq_true',
      decide_eq_false_iff_not, not_exists, not_and, and_imp]
    constructor
    · intro h hmem _
      by_cases hclaimed : x.id ∈ claimed
      · exact hclaimed
      · exact absurd rfl (h x hmem hclaimed)
    · intro h y hy hclaimed hid
      obtain rfl := eq_of_id_eq (mem_of_mem_candidates hy) hx hid
      exact hclaimed (h hy hlength)

@[simp] theorem indexed_vacated : (t.vacated device claimed a).indexed = t.indexed := by
  rw [vacated]
  split <;> rfl

/-! ### Healthy tables -/

theorem boundWith_eq_filter (token : String) :
    t.boundWith a token = (t.boundTo a).filter fun row => row.token == token :=
  select_activation_token token

/-- In a healthy table a lookup gives the candidates, unless it needs an application that is out of
range. -/
theorem Healthy.located_cases (ht : t.Healthy) (device : Device) (a : String) :
    t.located device a = .ok (t.candidates device a) ∨
      fitsStore device.appId = false ∧ t.located device a = .error (.defect .integerRange) := by
  have hread : ∀ p, Row.readAll (t.select p) = .ok (t.select p) := fun p =>
    Row.readAll_of_readable fun x hx => ht.readable x (mem_select.mp hx).1
  have hone : Row.readAll (t.boundWith a device.token) = .ok (t.boundWith a device.token) := hread _
  have htwo : Row.readAll (t.boundTo a) = .ok (t.boundTo a) := hread _
  have hthree : Row.readAll (t.keyedBy device.appId device.token) =
      .ok (t.keyedBy device.appId device.token) := hread _
  rw [located, hone, htwo, hthree, boundWith_eq_filter]
  rcases ht.boundTo_cases a with hnil | ⟨row, -, -, hrow⟩
  · rw [candidates_of_unbound hnil, hnil]
    cases hfits : fitsStore device.appId
    · exact .inr ⟨rfl, rfl⟩
    · exact .inl rfl
  · rw [candidates_of_bound hrow, hrow]
    left
    by_cases htoken : row.token = device.token
    · rw [List.filter_cons_of_pos (by simpa using htoken)]
      rfl
    · rw [List.filter_cons_of_neg (by simpa using htoken)]
      rfl

theorem chosenInBatch_eq (t : Table) (device : Device) (claimed : List Int) (a : String) :
    t.chosenInBatch device claimed a = Row.unclaimed? claimed (t.candidates device a) := by
  rw [chosenInBatch, Row.unclaimed?.eq_def]

/-- The candidates make place, unless the number of one of them is out of range. -/
theorem cleared_cases (t : Table) (device : Device) (claimed : List Int) (a : String) :
    t.cleared claimed (t.candidates device a) = .ok (t.vacated device claimed a) ∨
      ¬ t.Fits device.appId claimed ∧
        t.cleared claimed (t.candidates device a) = .error (.defect .integerRange) := by
  by_cases hsole : ∃ row, t.candidates device a = [row]
  · obtain ⟨row, hrow⟩ := hsole
    rw [vacated_of_singleton hrow, hrow]
    exact .inl rfl
  · have hne : ∀ row, t.candidates device a ≠ [row] := fun row hrow => hsole ⟨row, hrow⟩
    rw [vacated_of_ne hne, cleared_of_ne hne]
    split
    · exact .inl rfl
    · next hall =>
      refine .inr ⟨fun hfits => hall (List.all_eq_true.mpr fun x hx => ?_), rfl⟩
      obtain ⟨hmem, hclaimed⟩ := List.mem_filter.mp hx
      exact hfits.ids x (mem_of_mem_candidates hmem) (by simpa using hclaimed)

end Table

end PushRegistry
