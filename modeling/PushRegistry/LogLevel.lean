import PushRegistry.Text.Case
import PushRegistry.Text.Quoted

/-!
# Levels of logging

The service logs from a level on, which is set by name. Two names that look like levels are
properties of the log that are none.

## Main definitions

* `LogLevel.numberOf`: the number of a level by its name.
* `LoggingSetup`, `LoggingSetup.configure`: how logging is set up.
* `LogLevel.line`: how an entry is written.
-/

namespace PushRegistry

/-- Why a name cannot be used as a level. -/
inductive LogLevelFault where
  /-- The name stands for a text. -/
  | text (value : String)
  /-- The name stands for something else. -/
  | notLevel
  deriving DecidableEq, Repr

namespace LogLevel

/-- The levels by name. -/
def numbers : List (String × Nat) :=
  [("CRITICAL", 50), ("FATAL", 50), ("ERROR", 40), ("WARNING", 30), ("WARN", 30), ("INFO", 20),
    ("DEBUG", 10), ("NOTSET", 0)]

/-- The level of names that are unknown. -/
def defaultNumber : Nat := 20

/-- The pattern of entries that no other was chosen for. -/
def basicFormat : String := "%(levelname)s:%(name)s:%(message)s"

/-- The number of the level that a text names, in any case. -/
def numberOf (s : String) : Except LogLevelFault Nat :=
  let name := Text.upper s
  if name = "BASIC_FORMAT" then .error (.text basicFormat)
  else if name = "_STYLES" then .error .notLevel
  else .ok ((numbers.lookup name).getD defaultNumber)

/-- An entry as it is written, behind its time. -/
def line (level logger message : String) : String := level ++ " | " ++ logger ++ " | " ++ message

end LogLevel

/-- The complaint about a text that is used as a level. -/
def LogLevelFault.message? : LogLevelFault → Option String
  | text value => some ("Unknown level: " ++ Text.quoted value)
  | notLevel => none

/-- The parts of the surroundings of the service that log from the same level on. -/
inductive Surrounding where
  | server
  | serverErrors
  | serverAccess
  | store
  | client
  deriving DecidableEq, Repr

/-- All parts of the surroundings. -/
def Surrounding.all : List Surrounding := [server, serverErrors, serverAccess, store, client]

/-- How logging is set up: the level of the service and of each part of its surroundings. -/
structure LoggingSetup where
  root : Nat
  surroundings : List (Surrounding × Nat)
  deriving DecidableEq, Repr

namespace LoggingSetup

/-- How many handlers are added when some are there or not. This comes before the level is looked
up. -/
def handlersAdded (hasHandler : Bool) : Nat := if hasHandler then 0 else 1

/-- Logging from the level that a text names. -/
def configure (level : String) : Except LogLevelFault LoggingSetup := do
  let n ← LogLevel.numberOf level
  return ⟨n, Surrounding.all.map fun part => (part, n)⟩

end LoggingSetup

end PushRegistry
