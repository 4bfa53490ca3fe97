import PushRegistry.Error
import PushRegistry.Json.Writer
import PushRegistry.Registration

/-!
# Rows

A registration becomes a row if every field of it has a form in the table: integers have
sixty-four bits, a user is kept as a text, and a platform is required.

## Main definitions

* `Row`: a stored registration.
* `columnText`: a value in a column of texts.
* `Row.ofRegistration`, `Row.toRegistration`: a registration as a row and back.
* `Row.clashes`: which rows may not stand in a table together.
-/

namespace PushRegistry

/-- A stored registration. The name of the platform is not checked by the store. -/
structure Row where
  id : Int
  appId : Int
  token : String
  platform : String
  activationId : Option String
  userId : Option String
  isActive : Bool
  timestamp : Int
  deriving DecidableEq, Repr

/-- Whether an integer has a form in the table. -/
def fitsStore (n : Int) : Bool := -Int.pow 2 63 ≤ n && n < Int.pow 2 63

/-- Floating point numbers are stored with fifteen digits, without a power of ten from `0.0001` up
to fifteen digits before the point, and with a fraction before a power of ten. -/
def columnFormat : Numeral.Format := ⟨-4, 15, true⟩

/-- A floating point number in a column of texts; the value that is no number is not kept. -/
def columnFloat : Binary64 → Option String
  | .nan => none
  | .infinite negative => some (if negative then "-Inf" else "Inf")
  | .finite negative m e =>
    match Binary64.significant? 15 m e with
    | none => some "0.0"
    | some x =>
      let digits := x.render columnFormat
      some (String.ofList (if negative then '-' :: digits else digits))

/-- A value in a column of texts. -/
def columnText : Json → Except Failure (Option String)
  | .null => .ok none
  | .bool b => .ok (some (if b then "1" else "0"))
  | .int n =>
    if fitsStore n then .ok (some (String.ofList (Json.writeInt n)))
    else .error (.defect .integerRange)
  | .float x => .ok (columnFloat x)
  | .string (.text s) => .ok (some s)
  | .string (.broken _) => .error (.defect .brokenText)
  | .list _ => .error (.store .unbindable)
  | .object _ => .error (.store .unbindable)

namespace Row

/-- The row of a registration under a number. -/
def ofRegistration (id : Int) (r : Registration) : Except Failure Row := do
  let userId ← columnText r.userId
  if fitsStore r.appId then
    match r.platform with
    | some platform =>
      return ⟨id, r.appId, r.token, platform.name, r.activationId, userId, r.isActive, r.timestamp⟩
    | none => .error (.store .integrity)
  else .error (.defect .integerRange)

/-- The registration that a row stands for. -/
def toRegistration (row : Row) : Except Failure Registration :=
  match Platform.ofName? row.platform with
  | some platform =>
    .ok ⟨some row.id, row.appId, row.token, some platform, row.activationId,
      row.userId.elim .null Json.text, row.isActive, row.timestamp⟩
  | none => .error (.defect (.unknownPlatform row.platform))

/-- Whether two rows may not stand together in a table with its index: they have different numbers
but the same activation and token. Rows without activation never clash. -/
def clashes (a b : Row) : Bool :=
  a.id != b.id && a.activationId.isSome && a.activationId == b.activationId && a.token == b.token

theorem clashes_comm (a b : Row) : a.clashes b = b.clashes a := by
  rw [Bool.eq_iff_iff]
  simp only [clashes, Bool.and_eq_true, bne_iff_ne, beq_iff_eq]
  constructor
  · rintro ⟨⟨⟨hid, hsome⟩, hact⟩, htok⟩
    exact ⟨⟨⟨hid.symm, hact ▸ hsome⟩, hact.symm⟩, htok.symm⟩
  · rintro ⟨⟨⟨hid, hsome⟩, hact⟩, htok⟩
    exact ⟨⟨⟨hid.symm, hact ▸ hsome⟩, hact.symm⟩, htok.symm⟩

theorem clashes_self (a : Row) : a.clashes a = false := by
  simp [clashes]

end Row

end PushRegistry
