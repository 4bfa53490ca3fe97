import PushRegistry.Layout
import PushRegistry.Number.Digits

/-!
# The history of the layout

The layout comes about in revisions, each of which can be applied and taken back. A database is at
some place of the history: a number of revisions, from the first on, have been applied to it.

## Main definitions

* `Operation`, `Revision`: what revisions do.
* `History.revisions`: the history.
* `Target`, `Target.ofText`: where a database is to be brought.
* `Target.above?`, `Target.below?`: the place that a target is, when going up or down.
-/

namespace PushRegistry

/-- A change of the layout. -/
inductive Operation where
  | createTable (name : String) (columns : List Column)
  | dropTable (name : String)
  | createIndex (table : String) (index : Index)
  | dropIndex (name : String)
  deriving DecidableEq, Repr

/-- A revision of the layout: how it is applied and how it is taken back. -/
structure Revision where
  id : String
  upgrade : List Operation
  downgrade : List Operation
  deriving DecidableEq, Repr

namespace History

/-- The table of registrations with its indexes. -/
def registrations : Revision :=
  { id := "4f2a9c71d0e3"
    upgrade := .createTable Layout.table Layout.columns ::
      Layout.indexes.map (.createIndex Layout.table)
    downgrade := (Layout.indexes.reverse.map fun index => .dropIndex index.name) ++
      [.dropTable Layout.table] }

/-- The revisions from the first on. -/
def revisions : List Revision := [registrations]

/-- The place behind the only revision whose identifier begins with a text. -/
def place? (start : String) : Option Nat :=
  let matching := (List.range revisions.length).filter fun i =>
    revisions[i]?.any fun r => start.toList.isPrefixOf r.id.toList
  match matching with
  | [i] => some (i + 1)
  | _ => none

end History

/-- Where a database is to be brought. -/
inductive Target where
  | head
  | base
  | step (n : Int)
  | revision (start : String)
  deriving DecidableEq, Repr

namespace Target

/-- The target that a text names. -/
def ofText (s : String) : Target :=
  if s = "head" ∨ s = "heads" then head
  else if s = "base" then base
  else
    match s.toList with
    | '+' :: r => if !r.isEmpty && r.all Char.isDigit then step (Digits.value r) else revision s
    | '-' :: r => if !r.isEmpty && r.all Char.isDigit then step (-Digits.value r) else revision s
    | _ => revision s

/-- The place that a target is for a database at a place, when revisions are applied; none if it
is not above. A database that is past the target stays. -/
def above? (place : Nat) : Target → Option Nat
  | head => some History.revisions.length
  | base => some place
  | step n =>
    if 0 < n ∧ place + n ≤ History.revisions.length then some (place + n).toNat else none
  | revision start => (History.place? start).map (max place)

/-- The place that a target is for a database at a place, when revisions are taken back; none if
it is not below. -/
def below? (place : Nat) : Target → Option Nat
  | head => if History.revisions.length = place then some place else none
  | base => some 0
  | step n => if n < 0 ∧ 0 ≤ place + n then some (place + n).toNat else none
  | revision start => (History.place? start).bind fun n => if n ≤ place then some n else none

end Target

end PushRegistry
