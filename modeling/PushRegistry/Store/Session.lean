import PushRegistry.Log
import PushRegistry.Store.Change

/-!
# Sessions

A session works on a table in transactions, one at a time. What a transaction does becomes
visible to others when it is committed and is lost when it is rolled back. Changes stay pending
until the next call of the store. A write that fails loses all that the transaction did and makes
the session unusable until it is rolled back.

The calls of the store are counted by kind. A plan says which of them do not get through.

## Main definitions

* `CallKind`, `FaultPlan`: the calls, and which of them fail.
* `Session`: the state of a session.
* `Session.begin`: a session on a table before anything has been done.
* `Session.reset`, `Session.spoil`: a transaction given up, and one whose write has failed.
-/

namespace PushRegistry

/-- The calls of the store that may fail by plan. -/
inductive CallKind where
  | find
  | get
  | flush
  | delete
  | commit
  deriving DecidableEq, Repr

/-- The fault of the call of a kind with an ordinal, counted from one. -/
abbrev FaultPlan : Type := CallKind → Nat → Option StoreFault

/-- The plan by which every call gets through. -/
def FaultPlan.none : FaultPlan := fun _ _ => Option.none

/-- The state of a session. -/
structure Session where
  /-- The table that others see. -/
  committed : Table
  /-- The table with what the transaction has written. -/
  working : Table
  /-- What the transaction has not written yet. -/
  pending : List Change
  /-- Whether a write has failed in the transaction. -/
  unusable : Bool
  /-- Which calls fail. -/
  plan : FaultPlan
  /-- The calls so far. -/
  calls : List CallKind
  /-- The tables that were committed, in order. -/
  published : List Table
  /-- How many transactions have been rolled back. -/
  rollbacks : Nat
  /-- The activations that were asked about, in order. -/
  asked : List String
  /-- What was recorded, in order. -/
  log : List LogEntry

namespace Session

/-- A session on a table before anything has been done. -/
def begin (t : Table) (plan : FaultPlan) : Session :=
  { committed := t, working := t, pending := [], unusable := false, plan, calls := []
    published := [], rollbacks := 0, asked := [], log := [] }

/-- How many transactions have been committed. -/
def commits (s : Session) : Nat := s.published.length

/-- The fault by which the next call of a kind fails, if it does. -/
def fault? (s : Session) (kind : CallKind) : Option StoreFault :=
  s.plan kind (s.calls.count kind + 1)

/-- The session after a call of a kind was counted. -/
def countCall (s : Session) (kind : CallKind) : Session := { s with calls := s.calls ++ [kind] }

/-- The session after a failed write. -/
def spoil (s : Session) : Session :=
  { s with working := s.committed, pending := [], unusable := true }

/-- The session without what its transaction did. -/
def reset (s : Session) : Session :=
  { s with working := s.committed, pending := [], unusable := false }

/-- The session after its transaction was rolled back. -/
def rolledBack (s : Session) : Session := { s.reset with rollbacks := s.rollbacks + 1 }

/-- The session after what its transaction wrote was committed. -/
def committedOnce (s : Session) : Session :=
  { s with committed := s.working, published := s.published ++ [s.working] }

end Session

end PushRegistry
