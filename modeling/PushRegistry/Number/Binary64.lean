/-!
# Binary floating point numbers

The numbers of the double format, held exactly: a finite one is a sign, a mantissa below `2 ^ 53`
and a power of two. Reading a decimal rounds its exact value to the nearest such number, a tie to
the even mantissa; all arithmetic is on natural numbers.

## Main definitions

* `Binary64`: the numbers, with the infinities and the value that is no number.
* `roundHalfEven`: the natural number nearest to a quotient.
* `Binary64.ofRatio`, `Binary64.ofDecimal`: the number nearest to a quotient or to a decimal.
* `Binary64.toInt?`: the integer that a number is, if it is one.
-/

namespace PushRegistry

/-- A number of the double format; `finite s m e` is `m * 2 ^ e`, negated if `s`. -/
inductive Binary64 where
  | finite (negative : Bool) (mantissa : Nat) (exponent : Int)
  | infinite (negative : Bool)
  | nan
  deriving DecidableEq, Repr

/-- The natural number nearest to `n / d`; of two equally near ones the even one. -/
def roundHalfEven (n d : Nat) : Nat :=
  let q := n / d
  let r := n % d
  if 2 * r < d then q else if d < 2 * r then q + 1 else q + q % 2

namespace Binary64

/-- The exponent of the numbers nearest to zero. -/
def minExponent : Int := -1074

/-- The exponent of the largest finite numbers. -/
def maxExponent : Int := 971

/-- Zero, with a sign. -/
def zero (negative : Bool) : Binary64 := finite negative 0 minExponent

/-- Numerator and denominator of `num / den / 2 ^ e`. -/
def scaled (num den : Nat) (e : Int) : Nat × Nat :=
  (num * Nat.pow 2 (-e).toNat, den * Nat.pow 2 e.toNat)

/-- The number nearest to `num / den`, with a sign. The exponent is the least one at which the
mantissa stays below `2 ^ 53`. -/
def ofRatio (negative : Bool) (num den : Nat) : Binary64 :=
  if num = 0 then zero negative
  else
    let low : Int := (num.log2 : Int) - den.log2 - 53
    let (n, d) := scaled num den low
    let fit := if n / d < Nat.pow 2 53 then low else low + 1
    let e := max fit minExponent
    let (n, d) := scaled num den e
    let m := roundHalfEven n d
    let (m, e) := if m = Nat.pow 2 53 then (Nat.pow 2 52, e + 1) else (m, e)
    if maxExponent < e then infinite negative else finite negative m e

/-- The number nearest to `digits * 10 ^ exponent`, with a sign. Exponents far outside the range
of the format are decided without computing the power. -/
def ofDecimal (negative : Bool) (digits : Nat) (exponent : Int) : Binary64 :=
  if digits = 0 then zero negative
  else if 400 < exponent then infinite negative
  else if exponent + digits.log2 < -400 then zero negative
  else ofRatio negative (digits * Nat.pow 10 exponent.toNat) (Nat.pow 10 (-exponent).toNat)

/-- The integer that a number is; none for a fraction and for a number that is not finite. -/
def toInt? : Binary64 → Option Int
  | finite negative m e =>
    let d := Nat.pow 2 (-e).toNat
    if m % d = 0 then
      let n : Int := m / d * Int.pow 2 e.toNat
      some (if negative then -n else n)
    else none
  | _ => none

/-- Whether a number is finite. -/
def isFinite : Binary64 → Bool
  | finite .. => true
  | _ => false

/-- Whether a number is zero, of either sign. -/
def isZero : Binary64 → Bool
  | finite _ m _ => m == 0
  | _ => false

end Binary64

end PushRegistry
