import PushRegistry.Store.Row

/-!
# The table of registrations

The table holds its rows in the order of their numbers, which are all different. While its index
is present, no two rows clash: no two of them agree in activation and token.

## Main definitions

* `Table`: tables.
* `Table.nextId`: the number of the next row.
* `Table.store`: a row put into a table unless the index forbids it.
* `Table.erase`: rows removed.

## Main results

* `mem_putRow`: the rows after one has been put among them.
-/

namespace PushRegistry

/-! ### Rows in order -/

/-- Rows in the order of their numbers. -/
def Row.Ordered (rows : List Row) : Prop := rows.Pairwise fun a b => a.id < b.id

instance (rows : List Row) : Decidable (Row.Ordered rows) :=
  inferInstanceAs (Decidable (rows.Pairwise fun a b => a.id < b.id))

/-- Puts a row in its place among rows in the order of their numbers, instead of the one with its
number if there is one. -/
def putRow (row : Row) : List Row → List Row
  | [] => [row]
  | r :: rs =>
    if row.id < r.id then row :: r :: rs
    else if row.id = r.id then row :: rs
    else r :: putRow row rs

theorem mem_putRow {row x : Row} {rows : List Row} (h : Row.Ordered rows) :
    x ∈ putRow row rows ↔ x = row ∨ x ∈ rows ∧ x.id ≠ row.id := by
  induction rows with
  | nil => simp [putRow]
  | cons r rs ih =>
    obtain ⟨hr, hrs⟩ := List.pairwise_cons.mp h
    rw [putRow]
    split
    · next hlt =>
      rw [List.mem_cons]
      refine or_congr_right ⟨fun hx => ⟨hx, ?_⟩, And.left⟩
      rcases List.mem_cons.mp hx with rfl | hx
      · omega
      · have := hr x hx
        omega
    · split
      · next hid =>
        rw [List.mem_cons, List.mem_cons]
        refine or_congr_right ⟨fun hx => ⟨.inr hx, ?_⟩, fun hx => ?_⟩
        · have := hr x hx
          omega
        · rcases hx with ⟨rfl | hx, hne⟩
          · exact absurd hid.symm hne
          · exact hx
      · next hid =>
        rw [List.mem_cons, ih hrs, List.mem_cons]
        constructor
        · rintro (rfl | rfl | ⟨hx, hne⟩)
          · exact .inr ⟨.inl rfl, fun h => hid h.symm⟩
          · exact .inl rfl
          · exact .inr ⟨.inr hx, hne⟩
        · rintro (rfl | ⟨rfl | hx, hne⟩)
          · exact .inr (.inl rfl)
          · exact .inl rfl
          · exact .inr (.inr ⟨hx, hne⟩)

theorem ordered_putRow {row : Row} {rows : List Row} (h : Row.Ordered rows) :
    Row.Ordered (putRow row rows) := by
  induction rows with
  | nil => exact List.pairwise_singleton _ row
  | cons r rs ih =>
    obtain ⟨hr, hrs⟩ := List.pairwise_cons.mp h
    rw [putRow]
    split
    · next hlt =>
      refine List.pairwise_cons.mpr ⟨fun x hx => ?_, h⟩
      rcases List.mem_cons.mp hx with rfl | hx
      · exact hlt
      · exact Int.lt_trans hlt (hr x hx)
    · split
      · next hid => exact List.pairwise_cons.mpr ⟨fun x hx => hid ▸ hr x hx, hrs⟩
      · next hlt hid =>
        refine List.pairwise_cons.mpr ⟨fun x hx => ?_, ih hrs⟩
        rcases (mem_putRow hrs).mp hx with rfl | ⟨hx, _⟩
        · omega
        · exact hr x hx

/-! ### Tables -/

/-- The rows of registrations, and whether the index is present. -/
structure Table where
  rows : List Row
  indexed : Bool
  ordered : Row.Ordered rows
  unique : indexed = true → ∀ a ∈ rows, ∀ b ∈ rows, a.clashes b = false

instance : DecidableEq Table := fun s t =>
  if h : s.rows = t.rows ∧ s.indexed = t.indexed then
    isTrue (by cases s; cases t; obtain ⟨rfl, rfl⟩ := h; rfl)
  else isFalse (by rintro rfl; exact h ⟨rfl, rfl⟩)

namespace Table

@[ext]
theorem ext {s t : Table} (hrows : s.rows = t.rows) (hindexed : s.indexed = t.indexed) :
    s = t := by
  cases s; cases t; cases hrows; cases hindexed; rfl

/-- The table without rows. -/
def empty : Table := ⟨[], true, List.Pairwise.nil, by simp⟩

/-- The number of the next row: one more than the last and greatest one, or one. -/
def nextId (t : Table) : Int :=
  match t.rows.getLast? with
  | none => 1
  | some row => row.id + 1

/-- The rows with a property. -/
def select (t : Table) (p : Row → Bool) : List Row := t.rows.filter p

/-- The row with a number. -/
def find? (t : Table) (id : Int) : Option Row := t.rows.find? (·.id == id)

/-- Whether the index of a table forbids a row. -/
def forbids (t : Table) (row : Row) : Bool := t.indexed && t.rows.any row.clashes

theorem clashes_eq_false {t : Table} {row x : Row} (hrow : t.forbids row = false)
    (hindexed : t.indexed = true) (hx : x ∈ t.rows) : row.clashes x = false := by
  have hany : t.rows.any row.clashes = false := by simpa [forbids, hindexed] using hrow
  simpa using List.any_eq_false.mp hany x hx

/-- A table with a row that its index does not forbid, instead of the one with its number if there
is one. -/
def put (t : Table) (row : Row) (h : t.forbids row = false) : Table where
  rows := putRow row t.rows
  indexed := t.indexed
  ordered := ordered_putRow t.ordered
  unique hindexed a ha b hb := by
    rcases (mem_putRow t.ordered).mp ha with rfl | ⟨hat, _⟩ <;>
      rcases (mem_putRow t.ordered).mp hb with rfl | ⟨hbt, _⟩
    · exact Row.clashes_self _
    · exact clashes_eq_false h hindexed hbt
    · rw [Row.clashes_comm]
      exact clashes_eq_false h hindexed hat
    · exact t.unique hindexed a hat b hbt

/-- A table with a row, instead of the one with its number if there is one, unless the index
forbids it. -/
def store (t : Table) (row : Row) : Except Failure Table :=
  if h : t.forbids row = false then .ok (t.put row h) else .error (.store .integrity)

/-- A table without the rows of some numbers. -/
def erase (t : Table) (ids : List Int) : Table where
  rows := t.rows.filter fun row => !ids.contains row.id
  indexed := t.indexed
  ordered := t.ordered.sublist List.filter_sublist
  unique hindexed a ha b hb :=
    t.unique hindexed a (List.mem_filter.mp ha).1 b (List.mem_filter.mp hb).1

/-- A table without its index. -/
def dropIndex (t : Table) : Table := ⟨t.rows, false, t.ordered, by simp⟩

end Table

end PushRegistry
