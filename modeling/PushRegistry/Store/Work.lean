import PushRegistry.Store.Session

/-!
# Work on a session

Work is what runs on a session. It comes to a value or to a failure, and the session goes on from
where it is in both cases, so that calls, questions and records of work that failed are kept.

## Main definitions

* `Work`: what runs on a session, in sequence with `do`.
* `Work.attempt`, `Work.prepare`: the steps that every call of the store begins with.
* `Work.commit`, `Work.rollback`: the ends of a transaction.
* `Work.reporting`, `Work.outcome`: failures turned into errors of the service and into values.
* `Work.runUnit`: work in a transaction of its own.
* `WorkUnit`: a session that may be absent.
-/

namespace PushRegistry

/-- What runs on a session: the value or the failure that it comes to, and the session after it. -/
def Work (α : Type) : Type := Session → Except Failure α × Session

namespace Work

variable {α β : Type}

/-- Work that does nothing and comes to a value. -/
def value (a : α) : Work α := fun s => (.ok a, s)

/-- Work that goes on with the value of other work, unless that fails. -/
def andThen (work : Work α) (next : α → Work β) : Work β := fun s =>
  match work s with
  | (.ok a, s) => next a s
  | (.error failure, s) => (.error failure, s)

instance : Monad Work where
  pure := value
  bind := andThen

@[simp] theorem pure_apply (a : α) (s : Session) : (pure a : Work α) s = (.ok a, s) := rfl

theorem bind_apply (work : Work α) (next : α → Work β) (s : Session) :
    (work >>= next) s =
      match work s with
      | (.ok a, s) => next a s
      | (.error failure, s) => (.error failure, s) := rfl

theorem map_id_apply (work : Work α) : id <$> work = work := by
  funext s
  change andThen work (fun a => value a) s = work s
  unfold andThen
  rcases work s with ⟨_ | _, _⟩ <;> rfl

theorem andThen_assoc {γ : Type} (work : Work α) (f : α → Work β) (g : β → Work γ) :
    andThen (andThen work f) g = andThen work fun a => andThen (f a) g := by
  funext s
  simp only [andThen]
  rcases work s with ⟨_ | _, _⟩ <;> rfl

instance : LawfulMonad Work :=
  LawfulMonad.mk' Work map_id_apply (fun _ _ => rfl) andThen_assoc

/-- Work that fails. -/
def fail (failure : Failure) : Work α := fun s => (.error failure, s)

/-- Work that changes the session. -/
def update (f : Session → Session) : Work Unit := fun s => (.ok (), f s)

/-- Work that comes to a result that depends on the session. -/
def read (f : Session → Except Failure α) : Work α := fun s => (f s, s)

/-- A check of a request as the first step of work. -/
def check (result : Except AppError α) : Work α :=
  match result with
  | .ok a => value a
  | .error error => fail (.app error)

/-! ### Calls of the store -/

/-- Counts a call, which fails if the plan says so. -/
def attempt (kind : CallKind) : Work Unit := fun s =>
  match s.fault? kind with
  | some fault => (.error (.store fault), s.countCall kind)
  | none => (.ok (), s.countCall kind)

/-- Goes on only if no write has failed in the transaction. -/
def requireUsable : Work Unit := fun s =>
  if s.unusable then (.error (.store .rollbackPending), s) else (.ok (), s)

/-- Writes what is pending and gives the rows written. -/
def writePending : Work (List Row) := fun s =>
  match Change.writeAll s.working (Change.inOrder s.pending) with
  | .ok (rows, t) => (.ok rows, { s with working := t, pending := [] })
  | .error failure => (.error failure, s.spoil)

/-- Begins a call of the store: it is counted, the session is usable, and nothing is pending any
more. -/
def prepare (kind : CallKind) : Work Unit := do
  attempt kind
  requireUsable
  let _ ← writePending
  return ()

/-! ### Transactions -/

/-- Makes visible to others what the transaction did. -/
def commit : Work Unit := do
  prepare .commit
  update Session.committedOnce

/-- Takes back what the transaction did. -/
def rollback : Work Unit := update Session.rolledBack

/-- Records an entry. -/
def record (entry : LogEntry) : Work Unit := update fun s => { s with log := s.log ++ [entry] }

/-! ### Failures -/

/-- Work whose failures are turned into values. -/
def outcome (work : Work α) : Work (Except Failure α) := fun s =>
  let (result, s) := work s
  (.ok result, s)

/-- Work in which faults of the store become errors of the service. -/
def reporting (report : StoreFault → AppError) (work : Work α) : Work α := fun s =>
  match work s with
  | (.error (.store fault), s) => (.error (.app (report fault)), s)
  | (result, s) => (result, s)

/-! ### Units -/

/-- Runs work on a table in a transaction of its own: it is rolled back if the work fails, and
what was not committed is given up otherwise. -/
def runUnit (work : Work α) (t : Table) (plan : FaultPlan) : Except Failure α × Session :=
  match work (Session.begin t plan) with
  | (.ok a, s) => (.ok a, s.reset)
  | (.error failure, s) => (.error failure, s.rolledBack)

end Work

/-- A unit of work has a session from when it is entered to when it is left. -/
structure WorkUnit where
  session : Option Session

namespace WorkUnit

/-- A unit of work that has not been entered. -/
def idle : WorkUnit := ⟨none⟩

/-- Runs work on the session; without one there is nothing to do. -/
def run (work : Work Unit) (u : WorkUnit) : Except Failure Unit × WorkUnit :=
  match u.session with
  | none => (.ok (), u)
  | some s =>
    let (result, s) := work s
    (result, ⟨some s⟩)

/-- Commits the transaction. -/
def commit (u : WorkUnit) : Except Failure Unit × WorkUnit := u.run Work.commit

/-- Rolls the transaction back. -/
def rollback (u : WorkUnit) : Except Failure Unit × WorkUnit := u.run Work.rollback

/-- Leaves the unit of work, whose session ends. -/
def leave (_ : WorkUnit) : WorkUnit := idle

end WorkUnit

end PushRegistry
