import PushRegistry.Migration.History
import PushRegistry.Store.Table

/-!
# Databases under migration

A database to which revisions are applied and from which they are taken back. Rows that are put
into a table have to keep the rules of its layout: columns that may not be null are checked in
order, then the number of the row, then the unique indexes.

## Main definitions

* `StoredTable`, `Database`: what a database holds.
* `Database.upgrade?`, `Database.downgrade?`: bringing a database to a target.
* `Database.insert`: a row put into the table of registrations.
-/

namespace PushRegistry

/-- A row by the names of its columns. -/
abbrev Cells : Type := List (String × Json)

/-- A table of a database. -/
structure StoredTable where
  name : String
  columns : List Column
  indexes : List Index
  rows : List Cells
  deriving DecidableEq, Repr

/-- A database: its tables, and how many revisions have been applied to it. -/
structure Database where
  tables : List StoredTable
  place : Nat
  deriving DecidableEq, Repr

/-- What is wrong with a statement. -/
inductive DatabaseFault where
  | notNull (table column : String)
  | notUnique (table : String) (columns : List String)
  | noTable (table : String)
  | noColumn (table column : String)
  | mismatch
  deriving DecidableEq, Repr

namespace DatabaseFault

/-- The kind of a fault. -/
def kind : DatabaseFault → StoreFault
  | notNull .. => .integrity
  | notUnique .. => .integrity
  | noTable _ => .operational
  | noColumn .. => .operational
  | mismatch => .integrity

/-- The message for a fault. -/
def message : DatabaseFault → String
  | notNull table column => "NOT NULL constraint failed: " ++ table ++ "." ++ column
  | notUnique table columns =>
    "UNIQUE constraint failed: " ++ ", ".intercalate (columns.map (table ++ "." ++ ·))
  | noTable table => "no such table: " ++ table
  | noColumn table column => "table " ++ table ++ " has no column named " ++ column
  | mismatch => "datatype mismatch"

end DatabaseFault

namespace Database

/-- The database without tables. -/
def empty : Database := ⟨[], 0⟩

/-! ### Revisions -/

/-- A database after a change of the layout. -/
def apply (db : Database) : Operation → Database
  | .createTable name columns => { db with tables := db.tables ++ [⟨name, columns, [], []⟩] }
  | .dropTable name => { db with tables := db.tables.filter (·.name != name) }
  | .createIndex table index =>
    { db with tables := db.tables.map fun t =>
        if t.name = table then { t with indexes := t.indexes ++ [index] } else t }
  | .dropIndex name =>
    { db with tables := db.tables.map fun t =>
        { t with indexes := t.indexes.filter (·.name != name) } }

/-- A database with the revisions up to a place applied. -/
def raise (db : Database) (place : Nat) : Database :=
  let steps := (History.revisions.take place).drop db.place
  { (steps.flatMap Revision.upgrade).foldl apply db with place := place }

/-- A database with the revisions down to a place taken back. -/
def lower (db : Database) (place : Nat) : Database :=
  let steps := ((History.revisions.take db.place).drop place).reverse
  { (steps.flatMap Revision.downgrade).foldl apply db with place := place }

/-- A database brought up to a target. -/
def upgrade? (db : Database) (target : Target) : Option Database :=
  (target.above? db.place).map db.raise

/-- A database brought down to a target. -/
def downgrade? (db : Database) (target : Target) : Option Database :=
  (target.below? db.place).map db.lower

/-- The identifier of the last revision that was applied, if any was. -/
def version (db : Database) : List String :=
  ((History.revisions.take db.place).getLast?.map Revision.id).toList

/-! ### Rows -/

/-- A table by its name. -/
def table? (db : Database) (name : String) : Option StoredTable :=
  db.tables.find? (·.name = name)

/-- The value of a column; null if the row has none. -/
def cell (row : Cells) (column : String) : Json := (row.lookup column).getD .null

/-- The value that the text of a default stands for. -/
def defaultValue (s : String) : Json := if s = "false" then .int 0 else .text s

/-- A value as a column keeps it: a column of texts keeps numbers as texts, and truth values are
numbers everywhere. -/
def stored (type : ColumnType) (value : Json) : Json :=
  match type, value with
  | .text _, value =>
    match columnText value with
    | .ok s => s.elim .null Json.text
    | .error _ => value
  | _, .bool b => .int (if b then 1 else 0)
  | _, value => value

/-- The row that some values are put into a table as; a value that is left out is the default. -/
def complete (t : StoredTable) (values : Cells) : Cells :=
  t.columns.map fun column =>
    (column.name,
      match values.lookup column.name with
      | some value => stored column.type value
      | none => column.default.elim .null defaultValue)

/-- The numbers of the rows of a table. -/
def numbers (t : StoredTable) : List Int :=
  t.rows.filterMap fun row =>
    match cell row "id" with
    | .int n => some n
    | _ => none

/-- The number of the next row of a table. -/
def nextNumber (t : StoredTable) : Int :=
  match numbers t with
  | [] => 1
  | n :: ns => ns.foldl max n + 1

/-- The number of a new row: the one that it gives or the next one. -/
def rowNumber (t : StoredTable) (row : Cells) : Except DatabaseFault Int :=
  match cell row "id" with
  | .null => .ok (nextNumber t)
  | .int n => .ok n
  | _ => .error .mismatch

/-- Whether a row has the values of another one in the columns of an index. Null is like no
value. -/
def agrees (index : Index) (a b : Cells) : Bool :=
  index.columns.all fun column => cell a column != .null && cell a column == cell b column

/-- A table with a row, and the number of the row. -/
def insertInto (t : StoredTable) (values : Cells) : Except DatabaseFault (Int × StoredTable) := do
  match values.find? fun (name, _) => !t.columns.any (·.name = name) with
  | some (name, _) => throw (.noColumn t.name name)
  | none =>
    let row := complete t values
    let missing := t.columns.find? fun c => !c.nullable && !c.primaryKey && cell row c.name == .null
    match missing with
    | some c => throw (.notNull t.name c.name)
    | none =>
      let n ← rowNumber t row
      if (numbers t).contains n then throw (.notUnique t.name ["id"])
      else
        match t.indexes.find? fun index => index.unique && t.rows.any (agrees index row) with
        | some index => throw (.notUnique t.name index.columns)
        | none =>
          let row := ("id", .int n) :: row.filter (·.1 != "id")
          return (n, { t with rows := t.rows ++ [row] })

/-- A database with a row in the table of registrations, and the number of the row. -/
def insert (db : Database) (values : Cells) : Except DatabaseFault (Int × Database) := do
  match db.table? Layout.table with
  | none => throw (.noTable Layout.table)
  | some t =>
    let (n, t) ← insertInto t values
    return (n, { db with tables := db.tables.map fun u => if u.name = t.name then t else u })

/-- The columns that are shown of the registrations. -/
def shownColumns : List String :=
  ["id", "activation_id", "user_id", "app_id", "platform", "push_token", "is_active"]

/-- The registrations in the order of their numbers, as lists of values. -/
def shownRows (db : Database) : Except DatabaseFault (List (List Json)) :=
  match db.table? Layout.table with
  | none => .error (.noTable Layout.table)
  | some t =>
    let number (row : Cells) : Int :=
      match cell row "id" with
      | .int n => n
      | _ => 0
    let rows := t.rows.mergeSort fun a b => number a ≤ number b
    .ok (rows.map fun row => shownColumns.map (cell row))

end Database

end PushRegistry
