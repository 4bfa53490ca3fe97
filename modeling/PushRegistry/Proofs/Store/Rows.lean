import PushRegistry.Store.Table

/-!
# Rows of a table

What the operations of a table do to its rows, as sets and as lists up to order. A row has one
number, so it is determined by it; the next number is greater than all numbers in the table, so a
row under it replaces nothing.

A row whose platform has a name stands for the registration `Row.read`, and a registration whose
fields have a form in the table becomes a row again without loss.

## Main definitions

* `Row.Readable`, `Row.Storable`: rows whose platform has a name, and those whose numbers also have
  a form in the store.
* `Row.read`: the registration that a readable row stands for.

## Main results

* `Row.mapM_toRegistration`: readable rows are read without failure.
* `Table.mem_put`, `Table.mem_erase`: the rows after an operation.
* `Table.eq_of_binding_eq`: the index keeps bound rows of a token apart.
* `Table.forbids_eq_false_iff`: when the index admits a row.
-/

namespace PushRegistry

/-! ### Rows and registrations -/

namespace Row

/-- Whether the platform of a row has a name. -/
def Readable (row : Row) : Prop := ∃ p : Platform, row.platform = p.name

/-- Whether a row can stand in the store: its numbers have a form there, and its platform has a
name. -/
structure Storable (row : Row) : Prop where
  id : fitsStore row.id = true
  app : fitsStore row.appId = true
  readable : row.Readable

/-- The registration that a row stands for, without a platform if it has no name. -/
def read (row : Row) : Registration :=
  ⟨some row.id, row.appId, row.token, Platform.ofName? row.platform, row.activationId,
    row.userId.elim .null Json.text, row.isActive, row.timestamp⟩

theorem toRegistration_eq_ok {row : Row} (h : row.Readable) :
    row.toRegistration = .ok row.read := by
  obtain ⟨p, hp⟩ := h
  rw [toRegistration, read, hp, Platform.ofName?_name]

/-- Readable rows are read without failure. -/
theorem mapM_toRegistration {rows : List Row} (h : ∀ row ∈ rows, row.Readable) :
    rows.mapM toRegistration = .ok (rows.map read) := by
  induction rows with
  | nil => rfl
  | cons row rows ih =>
    obtain ⟨hrow, hrows⟩ := List.forall_mem_cons.mp h
    rw [List.mapM_cons, toRegistration_eq_ok hrow, ih hrows]
    rfl

theorem eq_read_of_toRegistration {row : Row} {r : Registration}
    (h : row.toRegistration = .ok r) : r = row.read := by
  rw [toRegistration] at h
  cases hplatform : Platform.ofName? row.platform with
  | none =>
    rw [hplatform] at h
    cases h
  | some platform =>
    rw [hplatform] at h
    rw [read, hplatform]
    exact (Except.ok.inj h).symm

/-- Rows that can be read give their registrations. -/
theorem eq_map_read_of_mapM {rows : List Row} {rs : List Registration}
    (h : rows.mapM toRegistration = .ok rs) : rs = rows.map read := by
  induction rows generalizing rs with
  | nil =>
    cases h
    rfl
  | cons row rows ih =>
    rw [List.mapM_cons] at h
    obtain ⟨r, hrow, h⟩ := bind_eq_ok_iff.mp h
    obtain ⟨rs', hrows, ⟨⟩⟩ := bind_eq_ok_iff.mp h
    rw [List.map_cons, ← ih hrows, eq_read_of_toRegistration hrow]

@[simp] theorem id_read (row : Row) : row.read.id = some row.id := rfl

theorem filterMap_id_read (rows : List Row) :
    (rows.map read).filterMap Registration.id = rows.map Row.id := by
  rw [List.filterMap_map]
  exact List.filterMap_eq_map.symm ▸ rfl

/-- Two rows clash when they have different numbers but agree in an activation and the token. -/
theorem clashes_eq_true_iff {a b : Row} :
    a.clashes b = true ↔
      a.id ≠ b.id ∧ (∃ x, a.activationId = some x ∧ b.activationId = some x) ∧
        a.token = b.token := by
  simp only [clashes, Bool.and_eq_true, bne_iff_ne, beq_iff_eq, ne_eq]
  constructor
  · rintro ⟨⟨⟨hid, hsome⟩, hact⟩, htok⟩
    obtain ⟨x, hx⟩ := Option.isSome_iff_exists.mp hsome
    exact ⟨hid, ⟨x, hx, hact ▸ hx⟩, htok⟩
  · rintro ⟨hid, ⟨x, ha, hb⟩, htok⟩
    exact ⟨⟨⟨hid, by rw [ha]; rfl⟩, by rw [ha, hb]⟩, htok⟩

end Row

/-! ### Rows in order -/

/-- A row put among rows takes the place of the one with its number. -/
theorem putRow_eq_map {row : Row} {rows : List Row} (h : Row.Ordered rows)
    (hid : ∃ x ∈ rows, x.id = row.id) :
    putRow row rows = rows.map fun x => if x.id = row.id then row else x := by
  induction rows with
  | nil =>
    obtain ⟨x, hx, -⟩ := hid
    cases hx
  | cons r rs ih =>
    obtain ⟨hr, hrs⟩ := List.pairwise_cons.mp h
    obtain ⟨x, hx, hxid⟩ := hid
    have hle : r.id ≤ row.id := by
      rcases List.mem_cons.mp hx with rfl | hx
      · omega
      · have := hr x hx
        omega
    rw [putRow, if_neg (by omega), List.map_cons]
    by_cases heq : row.id = r.id
    · have hkeep : (rs.map fun x => if x.id = row.id then row else x) = rs := by
        refine (List.map_congr_left fun y hy => if_neg ?_).trans (List.map_id rs)
        have := hr y hy
        omega
      rw [if_pos heq, if_pos heq.symm, hkeep]
    · rw [if_neg heq, if_neg (Ne.symm heq)]
      refine congrArg (r :: ·) (ih hrs ⟨x, ?_, hxid⟩)
      rcases List.mem_cons.mp hx with rfl | hx
      · exact absurd hxid.symm heq
      · exact hx

namespace Table

variable {t : Table} {x y row : Row}

theorem nodup_rows (t : Table) : t.rows.Nodup :=
  t.ordered.imp fun hlt heq => by
    rw [heq] at hlt
    omega

/-- A row is determined by its number. -/
theorem eq_of_id_eq (hx : x ∈ t.rows) (hy : y ∈ t.rows) (h : x.id = y.id) : x = y := by
  have hlt : t.rows.Pairwise fun a b => a.id = b.id → a = b :=
    t.ordered.imp fun hab heq => by omega
  have hgt : t.rows.Pairwise (flip fun a b : Row => a.id = b.id → a = b) :=
    t.ordered.imp fun hab heq => by omega
  exact List.Pairwise.forall_of_forall_of_flip (fun _ _ _ => rfl) hlt hgt hx hy h

/-- While the index is present, a bound row is determined by its activation and its token. -/
theorem eq_of_binding_eq {a : String} (hindexed : t.indexed = true) (hx : x ∈ t.rows)
    (hy : y ∈ t.rows) (hxa : x.activationId = some a) (hya : y.activationId = some a)
    (htoken : x.token = y.token) : x = y := by
  by_cases hid : x.id = y.id
  · exact eq_of_id_eq hx hy hid
  · have hclash : x.clashes y = true :=
      Row.clashes_eq_true_iff.mpr ⟨hid, ⟨a, hxa, hya⟩, htoken⟩
    cases (t.unique hindexed x hx y hy).symm.trans hclash

theorem lt_nextId (hx : x ∈ t.rows) : x.id < t.nextId := by
  rw [nextId]
  split
  · next h => simp [List.getLast?_eq_none_iff.mp h] at hx
  · next last h =>
    obtain ⟨before, hrows⟩ := List.getLast?_eq_some_iff.mp h
    have hord : Row.Ordered (before ++ [last]) := hrows ▸ t.ordered
    rw [hrows, List.mem_append, List.mem_singleton] at hx
    rcases hx with hx | rfl
    · have := (List.pairwise_append.mp hord).2.2 x hx last (List.mem_singleton.mpr rfl)
      omega
    · omega

theorem isSome_find?_iff {id : Int} : (t.find? id).isSome = true ↔ ∃ row ∈ t.rows, row.id = id := by
  rw [find?, List.find?_isSome]
  simp only [beq_iff_eq]

theorem mem_select {p : Row → Bool} : x ∈ t.select p ↔ x ∈ t.rows ∧ p x = true := List.mem_filter

/-! ### Rows after an operation -/

theorem mem_put (h : t.forbids row = false) :
    x ∈ (t.put row h).rows ↔ x = row ∨ x ∈ t.rows ∧ x.id ≠ row.id :=
  mem_putRow t.ordered

@[simp] theorem indexed_put (h : t.forbids row = false) : (t.put row h).indexed = t.indexed := rfl

@[simp] theorem mem_erase {ids : List Int} : x ∈ (t.erase ids).rows ↔ x ∈ t.rows ∧ x.id ∉ ids := by
  simp [erase]

@[simp] theorem indexed_erase {ids : List Int} : (t.erase ids).indexed = t.indexed := rfl

@[simp] theorem erase_nil : t.erase [] = t :=
  Table.ext (List.filter_eq_self.mpr (by simp)) rfl

/-- The index admits a row that clashes with no row. -/
theorem forbids_eq_false_iff (hindexed : t.indexed = true) :
    t.forbids row = false ↔ ∀ x ∈ t.rows, row.clashes x = false := by
  rw [forbids, hindexed, Bool.true_and, List.any_eq_false]
  simp only [Bool.not_eq_true]

theorem forbids_eq_true_iff (hindexed : t.indexed = true) :
    t.forbids row = true ↔ ∃ x ∈ t.rows, row.clashes x = true := by
  rw [forbids, hindexed, Bool.true_and, List.any_eq_true]

theorem store_eq_ok (h : t.forbids row = false) : t.store row = .ok (t.put row h) := dif_pos h

theorem store_eq_error (h : t.forbids row = true) : t.store row = .error (.store .integrity) :=
  dif_neg (by simp [h])

theorem store_eq_ok_iff {t' : Table} :
    t.store row = .ok t' ↔ ∃ h : t.forbids row = false, t' = t.put row h := by
  constructor
  · intro hstore
    by_cases h : t.forbids row = false
    · rw [store_eq_ok h] at hstore
      exact ⟨h, (Except.ok.inj hstore).symm⟩
    · rw [store_eq_error (by simpa using h)] at hstore
      cases hstore
  · rintro ⟨h, rfl⟩
    exact store_eq_ok h

end Table

end PushRegistry
