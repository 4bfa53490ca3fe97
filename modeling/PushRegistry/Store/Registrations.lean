import PushRegistry.Store.Work

/-!
# The store of registrations

The calls by which registrations are looked up, saved and removed. A lookup gives registrations in
the order of their numbers.

## Main definitions

* `Work.findWhere`: the registrations whose rows have a property.
* `Work.findByActivationAndToken`, `Work.findByActivation`, `Work.findByAppAndToken`: the lookups.
* `Work.save`: a registration written, new or under its number.
* `Work.deleteAll`: registrations removed.
-/

namespace PushRegistry.Work

/-! ### Lookup -/

/-- The registrations of the rows with a property; `inRange` says that everything that the lookup
compares with has a form in the table. -/
def findWhere (inRange : Bool) (p : Row → Bool) : Work (List Registration) := do
  reporting (fun _ => .lookupFailed) (prepare .find)
  if inRange then read fun s => (s.working.select p).mapM Row.toRegistration
  else fail (.defect .integerRange)

/-- The registrations of an activation and a token. -/
def findByActivationAndToken (activationId token : String) : Work (List Registration) :=
  findWhere true fun row => row.activationId == some activationId && row.token == token

/-- The registrations of an activation. -/
def findByActivation (activationId : String) : Work (List Registration) :=
  findWhere true fun row => row.activationId == some activationId

/-- The registrations of an application and a token. -/
def findByAppAndToken (appId : Int) (token : String) : Work (List Registration) :=
  findWhere (fitsStore appId) fun row => row.appId == appId && row.token == token

/-! ### Saving -/

/-- Whether a row with a number has a pending change. -/
def isPending (id : Int) : Work Bool :=
  read fun s => .ok (s.pending.any (·.target? == some id))

/-- Whether there is a row with a number. A row with a pending change is known without asking the
store. -/
def hasRow (id : Int) : Work Bool := do
  attempt .get
  if ← isPending id then return true
  else
    requireUsable
    let _ ← writePending
    if fitsStore id then read fun s => .ok (s.working.find? id).isSome
    else fail (.defect .integerRange)

/-- Writes a change after all that is pending; the row that was written last is its row. -/
def flush (change : Change) : Work (Option Row) := do
  update fun s => { s with pending := change.add s.pending }
  attempt .flush
  requireUsable
  let rows ← writePending
  return rows.getLast?

/-- What a client sees of a fault in a write. -/
def saveError (r : Registration) : StoreFault → AppError
  | .integrity => .bindingTaken r.activationId
  | _ => .saveFailed r.id

/-- Saves a registration and gives it back with its number. One with a number takes the place of
the row with that number. -/
def save (r : Registration) : Work Registration := do
  match r.id with
  | some id =>
    if ← reporting (fun _ => .lookupFailed) (hasRow id) then
      let _ ← reporting (saveError r) (flush (.update id r))
      return r
    else fail (.app (.removedConcurrently id))
  | none =>
    let row ← reporting (saveError r) (flush (.insert r))
    return { r with id := row.map Row.id }

/-! ### Removal -/

/-- Removes the rows of some numbers and gives the count of the rows removed. -/
def eraseRows (ids : List Int) : Work Nat := fun s =>
  let t := s.working.erase ids
  (.ok (s.working.rows.length - t.rows.length), { s with working := t })

/-- Removes registrations by their numbers and gives the count of the rows removed. Without a
number there is nothing to remove and the store is not called. -/
def deleteAll (rs : List Registration) : Work Nat := do
  let ids := rs.filterMap Registration.id
  if ids.isEmpty then return 0
  else
    reporting (fun _ => .deletionFailed) (prepare .delete)
    if ids.all fitsStore then eraseRows ids
    else fail (.defect .integerRange)

end PushRegistry.Work
