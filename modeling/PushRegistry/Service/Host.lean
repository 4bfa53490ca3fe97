import PushRegistry.Text.Blank
import PushRegistry.Text.Case
import PushRegistry.Text.Hex
import PushRegistry.Text.Percent
import PushRegistry.Text.Punycode

/-!
# Hosts

The host of an address is four numbers with points between them, hexadecimal groups with colons
between them in brackets, or a name. Numbers and groups must be in order; a name is written in
lower case and in ASCII.

## Main definitions

* `Host.isNumeric`, `Host.isValidQuad`: hosts of four numbers.
* `Host.isValidGroups`: hosts of hexadecimal groups.
* `Host.ofText?`: a host as addresses hold it.
-/

namespace PushRegistry.Host

/-- A text cut at every occurrence of a character. -/
def splitAt (mark : Char) : List Char → List (List Char)
  | [] => [[]]
  | c :: r =>
    match splitAt mark r with
    | [] => [[]]
    | part :: parts => if c = mark then [] :: part :: parts else (c :: part) :: parts

/-! ### Four numbers -/

/-- Whether a text is `fields` further fields of digits, each behind some character, after the
rest of a field that `started` or not. -/
def isDigitFields : (fields : Nat) → (started : Bool) → List Char → Bool
  | fields, started, [] => fields == 0 && started
  | fields, started, c :: r =>
    (c.isDigit && isDigitFields fields true r) ||
      (match fields with
        | 0 => false
        | fields + 1 => started && isDigitFields fields false r)

/-- Whether a host is meant as four numbers. -/
def isNumeric (cs : List Char) : Bool := isDigitFields 3 false cs

/-- Whether a text is a number below 256 without a zero in front. -/
def isOctet (cs : List Char) : Bool :=
  !cs.isEmpty && cs.all Char.isDigit && cs.length ≤ 3 &&
    cs.foldl (fun n c => n * 10 + (c.toNat - 0x30)) 0 ≤ 255 && (cs == ['0'] || cs.head? != some '0')

/-- Whether a text is four numbers with points between them. -/
def isValidQuad (cs : List Char) : Bool :=
  let parts := splitAt '.' cs
  parts.length == 4 && parts.all isOctet

/-! ### Hexadecimal groups -/

/-- Whether a text is a group of one to four digits. -/
def isGroup (cs : List Char) : Bool :=
  !cs.isEmpty && cs.length ≤ 4 && cs.all fun c => (Text.hexValue? c).isSome

/-- Groups in which four numbers at the end are counted as the two groups that they are; none if
they are not in order. -/
def joinQuad? (parts : List (List Char)) : Option (List (List Char)) :=
  match parts.getLast? with
  | some last =>
    if '.' ∈ last then
      if isValidQuad last then some (parts.dropLast ++ [['0'], ['0']]) else none
    else some parts
  | none => none

/-- Whether parts between colons are eight groups, of which some are left out at one place at
most. -/
def areGroups (parts : List (List Char)) : Bool :=
  let inner := (parts.drop 1).dropLast
  match inner.findIdx? List.isEmpty with
  | none => parts.length == 8 && parts.all isGroup
  | some i =>
    let before := parts.take (i + 1)
    let after := parts.drop (i + 2)
    let before := if before == [[]] then [] else before
    let after := if after == [[]] then [] else after
    parts.length ≤ 9 && before.all isGroup && after.all isGroup &&
      before.length + after.length ≤ 7

/-- Whether a text is hexadecimal groups with colons between them, perhaps with a zone behind a
percent sign. -/
def isValidGroups (cs : List Char) : Bool :=
  let groups := cs.takeWhile (· != '%')
  let zone := cs.drop groups.length
  let zoneValid := zone.isEmpty || (1 < zone.length && !(zone.drop 1).contains '%')
  let parts := splitAt ':' groups
  zoneValid && 3 ≤ parts.length && (joinQuad? parts).any areGroups

/-! ### Names -/

/-- The characters that stand for themselves in a name. -/
def isNameChar (c : Char) : Bool :=
  c.isAlphanum || "-._~!$&'()*+,;=\"`%|\\\x7b\x7d".toList.contains c

/-- A label of a name in ASCII; none if it has no such form. -/
def label? (cs : List Char) : Option (List Char) :=
  let ascii := cs.all (·.toNat < 0x80)
  let form := if ascii then cs else "xn--".toList ++ Punycode.encode cs
  let plain := cs.all fun c => 0x80 ≤ c.toNat || c.isAlphanum || c = '-'
  let hyphens := cs.head? == some '-' || cs.getLast? == some '-'
  if cs.isEmpty || !plain || hyphens || 63 < form.length then none else some form

/-- Labels with points between them; one that is empty may stand at the end. -/
def joinLabels : List (List Char) → List Char
  | [] => []
  | [l] => l
  | l :: ls => l ++ '.' :: joinLabels ls

/-- A name with characters outside ASCII, written in ASCII. -/
def international? (cs : List Char) : Option (List Char) :=
  let marks : List Char := ['。', '．', '｡']
  let labels := splitAt '.' (cs.map fun c => if marks.contains c then '.' else c)
  let trailing := labels.getLast? == some []
  let labels := if trailing then labels.dropLast else labels
  (labels.mapM label?).map fun ls => joinLabels ls ++ if trailing then ['.'] else []

/-- A host as addresses hold it, without brackets; none if it is not in order. -/
def ofText? (cs : List Char) : Option (List Char) :=
  if cs.isEmpty then some []
  else if isNumeric cs then if isValidQuad cs then some cs else none
  else if cs.head? == some '[' && cs.getLast? == some ']' && 1 < cs.length then
    let inner := (cs.drop 1).dropLast
    if isValidGroups inner then some inner else none
  else
    let low := cs.flatMap Text.lowerOf
    if cs.all (·.toNat < 0x80) then some (Text.percentEncode isNameChar low)
    else international? low

end PushRegistry.Host
