import PushRegistry.Migration.History

/-!
# Migration scripts

The statements that bring a database from one place of the history to another, as text. Where the
database system can take back changes of the layout, they stand in a transaction.

## Main definitions

* `Script.operationText`: the statement for a change of the layout.
* `Script.upgrade`, `Script.downgrade`: the scripts between two places.
* `Script.ofRange?`: the script for a range of revisions.
-/

namespace PushRegistry

/-- The system of a database with an address. -/
def Dialect.ofUrl (url : String) : Dialect :=
  if "sqlite".toList.isPrefixOf url.toList then .sqlite else .postgresql

namespace Script

/-- A statement and the blank line behind it. -/
def statement (s : String) : String := s ++ ";\n\n"

/-- The type of a column where a table is made; the number of a row counts by itself. -/
def typeText (dialect : Dialect) (column : Column) : String :=
  match dialect, column.type with
  | .postgresql, .rowNumber => "BIGSERIAL"
  | dialect, type => type.name dialect

/-- A column where a table is made. -/
def columnText (dialect : Dialect) (column : Column) : String :=
  column.name ++ " " ++ typeText dialect column ++
    column.default.elim "" (" DEFAULT " ++ ·) ++ if column.nullable then "" else " NOT NULL"

/-- The statement that makes a table out of lines. -/
def tableText (name : String) (lines : List String) : String :=
  "CREATE TABLE " ++ name ++ " (\n" ++ ", \n".intercalate (lines.map ("    " ++ ·)) ++ "\n)"

/-- Names in parentheses. -/
def nameList (names : List String) : String := "(" ++ ", ".intercalate names ++ ")"

/-- The statement for a change of the layout. -/
def operationText (dialect : Dialect) : Operation → String
  | .createTable name columns =>
    let keys := (columns.filter Column.primaryKey).map Column.name
    tableText name (columns.map (columnText dialect) ++ ["PRIMARY KEY " ++ nameList keys])
  | .dropTable name => "DROP TABLE " ++ name
  | .createIndex table index =>
    "CREATE " ++ (if index.unique then "UNIQUE " else "") ++ "INDEX " ++ index.name ++ " ON " ++
      table ++ " " ++ nameList index.columns
  | .dropIndex name => "DROP INDEX " ++ name

/-- The table that holds the place of a database in the history. -/
def versionTable : String := "alembic_version"

/-- The statement that makes the table of the place. -/
def versionTableText : String :=
  tableText versionTable
    ["version_num VARCHAR(32) NOT NULL", "CONSTRAINT alembic_version_pkc PRIMARY KEY (version_num)"]

/-- A text between the marks of the database language. -/
def literal (s : String) : String := "'" ++ s ++ "'"

/-- The column of the place, as a condition names it. -/
def versionColumn : String := versionTable ++ ".version_num"

/-- The statement that moves the place from one revision to another; none is before the first. -/
def moveText (dialect : Dialect) (source target : Option String) : String :=
  match source, target with
  | none, some id =>
    let returned :=
      match dialect with
      | .sqlite => "version_num"
      | .postgresql => versionColumn
    "INSERT INTO " ++ versionTable ++ " (version_num) VALUES (" ++ literal id ++ ") RETURNING " ++
      returned
  | some id, none =>
    "DELETE FROM " ++ versionTable ++ " WHERE " ++ versionColumn ++ " = " ++ literal id
  | some a, some b =>
    "UPDATE " ++ versionTable ++ " SET version_num=" ++ literal b ++ " WHERE " ++ versionColumn ++
      " = " ++ literal a
  | none, none => ""

/-- The identifier of the revision before a place. -/
def revisionBefore (place : Nat) : Option String :=
  match place with
  | 0 => none
  | n + 1 => History.revisions[n]?.map Revision.id

/-- The statements of one revision between two places. -/
def revisionText (dialect : Dialect) (word : String) (source target : Nat)
    (operations : List Operation) : String :=
  let a := revisionBefore source
  let b := revisionBefore target
  "-- Running " ++ word ++ " " ++ a.getD "" ++ " -> " ++ b.getD "" ++ "\n\n" ++
    String.join (operations.map fun op => statement (operationText dialect op)) ++
    statement (moveText dialect a b)

/-- A script in a transaction if the system needs one. -/
def enclose (dialect : Dialect) (text : String) : String :=
  match dialect with
  | .sqlite => text
  | .postgresql => statement "BEGIN" ++ text ++ statement "COMMIT"

/-- The script that applies the revisions from one place to another. -/
def upgrade (dialect : Dialect) (source target : Nat) : String :=
  let steps := (List.range target).drop source
  let texts := steps.map fun i =>
    (if i = 0 then statement versionTableText else "") ++
      revisionText dialect "upgrade" i (i + 1)
        (History.revisions[i]?.elim [] Revision.upgrade)
  enclose dialect (String.join texts)

/-- The script that takes back the revisions from one place to another. -/
def downgrade (dialect : Dialect) (source target : Nat) : String :=
  let steps := ((List.range source).drop target).reverse
  let texts := steps.map fun i =>
    revisionText dialect "downgrade" (i + 1) i (History.revisions[i]?.elim [] Revision.downgrade)
  enclose dialect (String.join texts)

/-- What is before and behind a colon; without one there is nothing before it. -/
def cutRange (s : String) : Option String × String :=
  let cs := s.toList
  match cs.dropWhile (· != ':') with
  | [] => (none, s)
  | _ :: r => (some (String.ofList (cs.takeWhile (· != ':'))), String.ofList r)

/-- The place where a range begins. -/
def start? (s : String) : Option Nat :=
  match Target.ofText s with
  | .base => some 0
  | .head => some History.revisions.length
  | .step _ => none
  | .revision start => if start.isEmpty then some 0 else History.place? start

/-- The script for a range of revisions. Going up, a range without a beginning begins at the
base; going down, the beginning has to be given. -/
def ofRange? (dialect : Dialect) (up : Bool) (range : String) : Option String :=
  let (first, last) := cutRange range
  let target := Target.ofText last
  if up then do
    let source ← start? (first.getD "base")
    return upgrade dialect source (← target.above? source)
  else do
    let source ← start? (← first)
    return downgrade dialect source (← target.below? source)

end Script

end PushRegistry
