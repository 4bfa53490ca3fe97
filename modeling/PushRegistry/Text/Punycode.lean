/-!
# Punycode

The characters outside ASCII of a label of a host name are written in ASCII: the label's ASCII
characters come first, then, from the smallest character to the greatest, how far each place is
from the one before, as numerals of variable length in base thirty-six whose digit bounds follow
the sizes seen so far.

## Main definitions

* `Punycode.encode`: the ASCII form of a label.
-/

namespace PushRegistry.Punycode

/-- The digit for a value below thirty-six. -/
def digit (n : Nat) : Char :=
  if n < 26 then Char.ofNat (0x61 + n) else Char.ofNat (0x30 + (n - 26))

/-- The bound of the digit at a place. -/
def bound (place bias : Nat) : Nat :=
  if place ≤ bias then 1 else if bias + 26 ≤ place then 26 else place - bias

theorem bound_pos (place bias : Nat) : 1 ≤ bound place bias := by
  unfold bound
  split
  · omega
  · split <;> omega

/-- The digits of a distance from a place on. -/
def digits (bias place n : Nat) : List Char :=
  let t := bound place bias
  if n < t then [digit n]
  else digit (t + (n - t) % (36 - t)) :: digits bias (place + 36) ((n - t) / (36 - t))
termination_by n
decreasing_by
  have := bound_pos place bias
  have := Nat.div_le_self (n - bound place bias) (36 - bound place bias)
  omega

/-- How often a size is divided by thirty-five until it is at most 455, and what is left. -/
def shrink (size : Nat) : Nat × Nat :=
  if 455 < size then
    let (steps, rest) := shrink (size / 35)
    (steps + 1, rest)
  else (0, size)
termination_by size
decreasing_by exact Nat.div_lt_self (by omega) (by omega)

/-- The bias after a distance; `handled` characters have been written with it. -/
def adapt (distance handled : Nat) (first : Bool) : Nat :=
  let size := if first then distance / 700 else distance / 2
  let (steps, rest) := shrink (size + size / handled)
  36 * steps + 36 * rest / (rest + 38)

/-- The state of writing: what is written, the distance so far, the bias, and how many characters
are handled. -/
structure State where
  written : List Char
  distance : Nat
  bias : Nat
  handled : Nat

/-- Passes a character while the characters with code point `point` are written. -/
def pass (basic point : Nat) (s : State) (c : Char) : State :=
  if c.toNat < point then { s with distance := s.distance + 1 }
  else if c.toNat = point then
    { written := s.written ++ digits s.bias 36 s.distance
      distance := 0
      bias := adapt s.distance (s.handled + 1) (s.handled == basic)
      handled := s.handled + 1 }
  else s

/-- Writes the characters with the given code points, in this order; `low` is the least one that
has not been passed. -/
def writePoints (label : List Char) (basic : Nat) : (low : Nat) → List Nat → State → List Char
  | _, [], s => s.written
  | low, point :: r, s =>
    let s := { s with distance := s.distance + (point - low) * (s.handled + 1) }
    let s := label.foldl (pass basic point) s
    writePoints label basic (point + 1) r { s with distance := s.distance + 1 }

/-- The ASCII form of a label. -/
def encode (label : List Char) : List Char :=
  let basic := label.filter fun c => c.toNat < 0x80
  let others := (label.map Char.toNat).filter fun n => 0x80 ≤ n
  let start := if basic.isEmpty then [] else basic ++ ['-']
  writePoints label basic.length 0x80 (others.eraseDups.mergeSort (· ≤ ·))
    ⟨start, 0, 72, basic.length⟩

end PushRegistry.Punycode
