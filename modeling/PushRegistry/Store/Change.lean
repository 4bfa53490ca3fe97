import PushRegistry.Store.Table

/-!
# Changes of the table

A registration to be saved is a change, which is kept until it is written. Several changes are
written in one order, whatever the order in which they came: replacements of rows by the numbers
of the rows, then new rows as they came.

## Main definitions

* `Change`: a registration to be written.
* `Change.add`: a change kept with others.
* `Change.write`, `Change.writeAll`: changes written to a table.
-/

namespace PushRegistry

/-- A registration to be written, as a new row or instead of the row with a number. -/
inductive Change where
  | insert (r : Registration)
  | update (id : Int) (r : Registration)
  deriving DecidableEq, Repr

namespace Change

/-- The number of the row that a change replaces. -/
def target? : Change → Option Int
  | insert _ => none
  | update id _ => some id

/-- Changes with one more, which takes the place of another one for its row. -/
def add (c : Change) (changes : List Change) : List Change :=
  match c.target? with
  | some id => changes.filter (·.target? != some id) ++ [c]
  | none => changes ++ [c]

/-- Changes in the order in which they are written. -/
def inOrder (changes : List Change) : List Change :=
  let known := changes.filter (·.target?.isSome)
  let new := changes.filter (·.target?.isNone)
  known.mergeSort (fun a b => a.target?.getD 0 ≤ b.target?.getD 0) ++ new

/-- The number of the row that a change writes to a table. -/
def rowId (t : Table) : Change → Int
  | insert _ => t.nextId
  | update id _ => id

/-- The registration that a change writes. -/
def registration : Change → Registration
  | insert r => r
  | update _ r => r

/-- A table with a change written, and the row that was written. -/
def write (t : Table) (c : Change) : Except Failure (Row × Table) := do
  let row ← Row.ofRegistration (c.rowId t) c.registration
  let t ← t.store row
  return (row, t)

/-- A table with changes written one after the other, and the rows that were written. -/
def writeAll (t : Table) : List Change → Except Failure (List Row × Table)
  | [] => .ok ([], t)
  | c :: r => do
    let (row, t) ← c.write t
    let (rows, t) ← writeAll t r
    return (row :: rows, t)

@[simp] theorem inOrder_nil : inOrder [] = [] := by simp [inOrder]

@[simp] theorem inOrder_singleton (c : Change) : inOrder [c] = [c] := by
  cases c <;> simp [inOrder, target?]

@[simp] theorem add_nil (c : Change) : c.add [] = [c] := by
  cases c <;> rfl

end Change

end PushRegistry
