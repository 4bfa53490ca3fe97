import PushRegistry.Number.Digits
import PushRegistry.Text.Blank
import PushRegistry.Web.Schema

/-!
# The framework of the web service

What the service leaves to the framework that it is built on: what a body without a content type is,
how deep a body may be nested to be read and a value to be shown, and how an integer is written in a
string.

The usual framework takes an integer as JSON writes it. Otherwise it removes blanks around the
digits, zeros in front of them and behind a point, and underscores between them, and looks again.

## Main definitions

* `Framework`: what is left to the framework.
* `Framework.plainInteger`, `Framework.cleaned?`: an integer as JSON writes it, and what a looser
  text is changed to.
* `Framework.standard`: the usual framework.
-/

namespace PushRegistry

/-- What the service leaves to the framework that it is built on. -/
structure Framework where
  /-- Whether a body without a content type is to be JSON. -/
  takesUntyped : Bool
  /-- How many lists and objects may be inside one another in a body that is read. -/
  readRoom : Nat
  /-- How many of them may be inside one another in an error that is shown. -/
  showRoom : Nat
  /-- An error is an object with a list in it. -/
  two_le_showRoom : 2 ≤ showRoom
  /-- How the text of an integer is read. -/
  numerals : Schema.Numerals

namespace Framework

/-! ### Integers in strings -/

/-- The most characters that an integer may have, with its minus sign. -/
def maxNumeralLength : Nat := 4300

/-- An integer as JSON writes it: digits without a zero in front, behind a minus sign or none. That
there are too many of them is noticed before what follows them. -/
def plainInteger (cs : List Char) : Except SchemaFault Int :=
  let negative := cs.head? == some '-'
  let r := if negative then cs.drop 1 else cs
  let digits := r.takeWhile Char.isDigit
  if digits.isEmpty || (digits.head? == some '0' && 1 < digits.length) then .error .noNumeral
  else if maxNumeralLength < (if negative then 1 else 0) + digits.length then .error .oversized
  else if digits.length < r.length then .error .noNumeral
  else .ok (if negative then -(Digits.value digits : Int) else Digits.value digits)

/-- Digits without the zeros in front of them, among which there may be underscores. The last of
these characters remains if nothing or a point is behind it. -/
def withoutZeros : List Char → List Char
  | '0' :: r =>
    let isFiller (c : Char) : Bool := c = '0' || c = '_'
    let last := (r.takeWhile isFiller).getLast?.getD '0'
    match r.dropWhile isFiller with
    | [] => [last]
    | '.' :: t => last :: '.' :: t
    | t => t
  | cs => cs

/-- Digits without a point and the zeros behind it. -/
def withoutFraction (cs : List Char) : List Char :=
  let whole := cs.takeWhile (· != '.')
  let zeros := cs.drop (whole.length + 1)
  if !zeros.isEmpty && zeros.all (· = '0') then whole else cs

/-- Whether a text has an underscore at its end or two underscores next to each other. -/
def hasLooseUnderscore : List Char → Bool
  | [] => false
  | ['_'] => true
  | '_' :: '_' :: _ => true
  | _ :: r => hasLooseUnderscore r

/-- The text of an integer as JSON writes it, from a looser one. -/
def cleaned? (cs : List Char) : Option (List Char) :=
  let (negative, r) := Digits.cutSign (Text.trimWith Text.isNumeralSpace cs)
  if r.head?.any Char.isDigit then
    let digits := withoutFraction (withoutZeros r)
    if hasLooseUnderscore digits then none
    else some ((if negative then ['-'] else []) ++ digits.filter (· != '_'))
  else none

/-- The integer that a text stands for. -/
def integerOf (s : String) : Except SchemaFault Int :=
  match plainInteger s.toList with
  | .error .noNumeral =>
    match cleaned? s.toList with
    | some cs => plainInteger cs
    | none => .error .noNumeral
  | result => result

/-! ### The usual framework -/

/-- The usual framework. A thousand calls may be inside one another, of which a hundred are left to
the callers of the reader and the writer; the exact numbers depend on them. -/
def standard : Framework where
  takesUntyped := false
  readRoom := 900
  showRoom := 900
  two_le_showRoom := by decide
  numerals := integerOf

end Framework

end PushRegistry
