import PushRegistry.Text.Quoted

/-!
# Platforms

The services that deliver messages to devices. A registration names the platform of its device.

## Main definitions

* `Platform`, `Platform.name`: the platforms and their names.
* `Platform.ofName?`: the platform with a name.
-/

namespace PushRegistry

/-- A service that delivers messages to devices. -/
inductive Platform where
  | ios
  | android
  | huawei
  deriving DecidableEq, Repr

namespace Platform

/-- The platforms in the order in which messages list them. -/
def all : List Platform := [ios, android, huawei]

/-- The name of a platform. -/
def name : Platform → String
  | ios => "ios"
  | android => "android"
  | huawei => "huawei"

/-- The platform with exactly this name. -/
def ofName? (s : String) : Option Platform := all.find? (·.name = s)

/-- The complaint about a text that names no platform. -/
def unknownMessage (s : String) : String := Text.quoted s ++ " is not a valid Platform"

@[simp] theorem ofName?_name (p : Platform) : ofName? p.name = some p := by
  cases p <;> decide

theorem ofName?_eq_some_iff {s : String} {p : Platform} : ofName? s = some p ↔ s = p.name := by
  constructor
  · intro h
    have := List.find?_some h
    simpa using (of_decide_eq_true this).symm
  · rintro rfl
    exact ofName?_name p

end Platform

end PushRegistry
