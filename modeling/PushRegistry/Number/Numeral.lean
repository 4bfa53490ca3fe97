import PushRegistry.Number.Binary64

/-!
# Decimal numerals of floating point numbers

A number is written either with the fewest digits that read back as the same number, or with a
fixed count of significant digits. The digits come from exact arithmetic; where the point stands,
and when a power of ten is split off, is the matter of a `Numeral.Format`.

## Main definitions

* `Numeral`: decimal digits with the position of the point.
* `Binary64.shortest?`, `Binary64.significant?`: the digits of a number.
* `Numeral.Format`, `Numeral.render`: how digits are written.
-/

namespace PushRegistry

/-- The number `0.d₁d₂…dₙ * 10 ^ point` for the digits `d₁, d₂, …, dₙ`. -/
structure Numeral where
  digits : List Char
  point : Int
  deriving DecidableEq, Repr

namespace Numeral

/-- The decimal digits of a natural number. -/
def digitsOf (n : Nat) : List Char := Nat.toDigits 10 n

/-- The numeral of `n * 10 ^ exponent`, without zeros at its end. -/
def ofScaled (n : Nat) (exponent : Int) : Numeral :=
  let ds := digitsOf n
  ⟨(ds.reverse.dropWhile (· == '0')).reverse, exponent + ds.length⟩

/-- How a numeral is written. -/
structure Format where
  /-- The numeral is written without a power of ten when its point is above this bound … -/
  minPoint : Int
  /-- … and not above this one. -/
  maxPoint : Int
  /-- Whether the digits before a power of ten always have a fraction. -/
  fraction : Bool

/-- A number of at least two digits. -/
def twoDigits (n : Nat) : List Char :=
  if n < 10 then '0' :: digitsOf n else digitsOf n

/-- The digits without a power of ten, always with a fraction. -/
def positional (x : Numeral) : List Char :=
  if x.point ≤ 0 then '0' :: '.' :: (List.replicate (-x.point).toNat '0' ++ x.digits)
  else
    let p := x.point.toNat
    let whole := x.digits.take p ++ List.replicate (p - x.digits.length) '0'
    let rest := x.digits.drop p
    whole ++ '.' :: (if rest.isEmpty then ['0'] else rest)

/-- The digits with a power of ten of at least two digits. -/
def scientific (fraction : Bool) (x : Numeral) : List Char :=
  let e := x.point - 1
  let power := 'e' :: (if e < 0 then '-' else '+') :: twoDigits e.natAbs
  match x.digits with
  | [] => '0' :: power
  | [d] => (if fraction then [d, '.', '0'] else [d]) ++ power
  | d :: ds => d :: '.' :: ds ++ power

/-- A numeral in a format. -/
def render (f : Format) (x : Numeral) : List Char :=
  if x.digits.isEmpty then ['0', '.', '0']
  else if f.minPoint < x.point ∧ x.point ≤ f.maxPoint then x.positional
  else x.scientific f.fraction

end Numeral

namespace Binary64

/-- The exponent of the highest decimal digit of `num / den`, both positive. -/
def decimalExponent (num den : Nat) : Int :=
  if den ≤ num then (Numeral.digitsOf (num / den)).length - 1
  else
    let n := (den + num - 1) / num - 1
    if n = 0 then 0 else -((Numeral.digitsOf n).length : Int)

/-- The finite number `m * 2 ^ e` as a quotient. -/
def ratio (m : Nat) (e : Int) : Nat × Nat :=
  (m * Nat.pow 2 e.toNat, Nat.pow 2 (-e).toNat)

/-- The power `10 ^ p` as a quotient. -/
def tenPower (p : Int) : Nat × Nat := (Nat.pow 10 p.toNat, Nat.pow 10 (-p).toNat)

/-- The nearer of the two multiples of `10 ^ p` around `4 * m * 2 ^ e / 4` that lie within the
numbers that round to `m * 2 ^ e`; these reach `below` and `2` quarters of `2 ^ e` down and up,
ends included if `m` is even. -/
def gridPoint? (m : Nat) (e : Int) (below : Nat) (p : Int) : Option Nat :=
  let (two, half) := ratio 1 (e - 2)
  let (ten, tenth) := tenPower p
  let unit := two * tenth
  let step := half * ten
  let value := 4 * m * unit
  let low := (4 * m - below) * unit
  let high := (4 * m + 2) * unit
  let inside (c : Nat) : Bool :=
    if m % 2 = 0 then low ≤ c * step && c * step ≤ high else low < c * step && c * step < high
  let c := value / step
  let down := inside c && c != 0
  let up := inside (c + 1)
  if down && up then
    let a := value - c * step
    let b := (c + 1) * step - value
    some (if a < b then c else if b < a then c + 1 else c + c % 2)
  else if down then some c
  else if up then some (c + 1)
  else none

/-- The fewest digits that read back as `m * 2 ^ e`, nearest to it among those; none for zero. -/
def shortest? (m : Nat) (e : Int) : Option Numeral :=
  if m = 0 then none
  else
    let (num, den) := ratio m e
    let top := decimalExponent num den
    let below := if m = Nat.pow 2 52 ∧ minExponent < e then 1 else 2
    (List.range 17).findSome? fun (k : Nat) =>
      let p := top - k
      (gridPoint? m e below p).map (Numeral.ofScaled · p)

/-- The digits of `m * 2 ^ e` rounded to a count of significant ones, a half upwards; none for
zero. -/
def significant? (count : Nat) (m : Nat) (e : Int) : Option Numeral :=
  if m = 0 then none
  else
    let (num, den) := ratio m e
    let p := decimalExponent num den - count + 1
    let n := num * Nat.pow 10 (-p).toNat
    let d := den * Nat.pow 10 p.toNat
    some (Numeral.ofScaled ((2 * n + d) / (2 * d)) p)

/-- The numeral with no digits, for zero. -/
def zeroNumeral : Numeral := ⟨[], 0⟩

end Binary64

end PushRegistry
