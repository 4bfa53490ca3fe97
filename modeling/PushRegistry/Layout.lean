import PushRegistry.Number.Numeral

/-!
# The layout of the table

The columns and the indexes of the table of registrations, and how two database systems name the
types of the columns.

## Main definitions

* `Dialect`: the database systems.
* `ColumnType`, `Column`, `Index`: what the layout consists of.
* `Layout.columns`, `Layout.indexes`: the layout of the table of registrations.
-/

namespace PushRegistry

/-- The database systems. -/
inductive Dialect where
  | sqlite
  | postgresql
  deriving DecidableEq, Repr

/-- The types of columns. -/
inductive ColumnType where
  | rowNumber
  | integer
  | text (length : Nat)
  | moment
  | flag
  deriving DecidableEq, Repr

/-- A column of a table. -/
structure Column where
  name : String
  type : ColumnType
  nullable : Bool
  primaryKey : Bool
  /-- The value of rows that leave the column out. -/
  default : Option String
  deriving DecidableEq, Repr

/-- An index of a table. -/
structure Index where
  name : String
  columns : List String
  unique : Bool
  deriving DecidableEq, Repr

/-- The name of a type in a database system. -/
def ColumnType.name (dialect : Dialect) : ColumnType → String
  | rowNumber =>
    match dialect with
    | .sqlite => "INTEGER"
    | .postgresql => "BIGINT"
  | integer => "BIGINT"
  | text length => "VARCHAR(" ++ String.ofList (Numeral.digitsOf length) ++ ")"
  | moment =>
    match dialect with
    | .sqlite => "DATETIME"
    | .postgresql => "TIMESTAMP WITH TIME ZONE"
  | flag => "BOOLEAN"

namespace Layout

/-- The name of the table. -/
def table : String := "push_device_registration"

/-- A column with a name and a type that has to have a value. -/
def required (name : String) (type : ColumnType) : Column := ⟨name, type, false, false, none⟩

/-- The columns in order. Rows that leave out whether they are active are not. -/
def columns : List Column :=
  [⟨"id", .rowNumber, false, true, none⟩,
    ⟨"activation_id", .text 37, true, false, none⟩,
    ⟨"user_id", .text 255, true, false, none⟩,
    required "app_id" .integer,
    required "platform" (.text 30),
    required "push_token" (.text 255),
    required "timestamp_last_registered" .moment,
    ⟨"is_active", .flag, false, false, some "false"⟩]

/-- The index that keeps activation and token unique. -/
def uniqueIndex : Index :=
  ⟨"uq_push_device_registration_activation_token", ["activation_id", "push_token"], true⟩

/-- The index for lookups by activation. -/
def activationIndex : Index :=
  ⟨"ix_push_device_registration_activation", ["activation_id"], false⟩

/-- The index for lookups by application and token. -/
def tokenIndex : Index :=
  ⟨"ix_push_device_registration_app_token", ["app_id", "push_token"], false⟩

/-- The indexes in the order in which they are made. -/
def indexes : List Index := [uniqueIndex, activationIndex, tokenIndex]

/-- Some indexes in the order of their names. -/
def byName (indexes : List Index) : List Index := indexes.mergeSort fun a b => a.name ≤ b.name

end Layout

end PushRegistry
