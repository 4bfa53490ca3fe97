/-!
# Decimal digits

Integers written in decimal digits, with single underscores between them to set off groups.

## Main definitions

* `Digits.isRun`: whether a text is such digits.
* `Digits.value`: the number that they stand for.
* `Digits.signed?`: an integer with an optional sign.
-/

namespace PushRegistry.Digits

/-- Whether a text is decimal digits with single underscores between them. -/
def isRun : List Char → Bool
  | [] => false
  | [c] => c.isDigit
  | c :: '_' :: r => c.isDigit && isRun r
  | c :: r => c.isDigit && isRun r

/-- The number that digits stand for; underscores do not count. -/
def value (cs : List Char) : Nat :=
  (cs.filter Char.isDigit).foldl (fun n c => n * 10 + (c.toNat - 0x30)) 0

/-- Whether a text has a minus sign, and what is behind its sign if it has one. -/
def cutSign : List Char → Bool × List Char
  | '-' :: r => (true, r)
  | '+' :: r => (false, r)
  | r => (false, r)

/-- The integer that a text stands for. -/
def signed? (cs : List Char) : Option Int :=
  let (negative, r) := cutSign cs
  if isRun r then some (if negative then -(value r : Int) else value r) else none

end PushRegistry.Digits
