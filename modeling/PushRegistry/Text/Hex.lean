/-!
# Hexadecimal digits

Reading and writing numbers in base sixteen, as escapes in quoted texts and in addresses need it.

## Main definitions

* `Text.hexDigit`, `Text.hexValue?`: one digit, written in lower case and read in either.
* `Text.hex`: a number with a given number of digits.
-/

namespace PushRegistry.Text

/-- The digit for a value below sixteen, in lower case. -/
def hexDigit (n : Nat) : Char :=
  if n < 10 then Char.ofNat (0x30 + n) else Char.ofNat (0x61 + (n - 10))

/-- The value of a digit, which may be in either case. -/
def hexValue? (c : Char) : Option Nat :=
  let n := c.toNat
  if 0x30 ≤ n ∧ n ≤ 0x39 then some (n - 0x30)
  else if 0x61 ≤ n ∧ n ≤ 0x66 then some (n - 0x61 + 10)
  else if 0x41 ≤ n ∧ n ≤ 0x46 then some (n - 0x41 + 10)
  else none

/-- The last `width` digits of a number, the highest first. -/
def hex : (width n : Nat) → List Char
  | 0, _ => []
  | width + 1, n => hex width (n / 16) ++ [hexDigit (n % 16)]

end PushRegistry.Text
