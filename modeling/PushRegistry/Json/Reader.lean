import PushRegistry.Json.Value
import PushRegistry.Text.Encoding
import PushRegistry.Text.Hex

/-!
# Reading JSON

A document is read from the code points that are left of it, so a place in it is the number of
code points from there to its end. Beyond the standard, `NaN` and the infinities are accepted, an
integer may be of any size up to a number of digits, and a name may be repeated. Lists and objects
may be inside one another as long as there is room for them.

## Main definitions

* `Json.Fault`: what is wrong with a document and where.
* `Json.pointsOf`, `Json.ofPoints`: the contents of a string.
* `Json.scanNumber`: the longest numeral at the front of a text.
* `Json.readValue`: a value at the front of a text; the rest is shorter than the text.
* `Json.read`: the value of a whole document.
-/

namespace PushRegistry.Json

/-! ### Faults -/

/-- What is wrong at a place of a document. -/
inductive FaultKind where
  | valueExpected
  | nameExpected
  | colonExpected
  | commaExpected
  | trailingText
  | openString
  | badEscape
  | badUnicodeEscape
  | controlCharacter
  | numeralTooLong
  | tooDeep
  deriving DecidableEq, Repr

/-- A fault, with the number of code points from its place to the end of the document. -/
structure Fault where
  kind : FaultKind
  remaining : Nat
  deriving DecidableEq, Repr

/-- The message for a fault. -/
def FaultKind.message : FaultKind → String
  | valueExpected => "Expecting value"
  | nameExpected => "Expecting property name enclosed in double quotes"
  | colonExpected => "Expecting ':' delimiter"
  | commaExpected => "Expecting ',' delimiter"
  | trailingText => "Extra data"
  | openString => "Unterminated string starting at"
  | badEscape => "Invalid \\escape"
  | badUnicodeEscape => "Invalid \\uXXXX escape"
  | controlCharacter => "Invalid control character at"
  | numeralTooLong => "Exceeds the limit for the number of digits of an integer"
  | tooDeep => "Exceeds the limit for lists and objects inside one another"

/-! ### Marks -/

/-- The code points that structure a document. -/
@[match_pattern] abbrev quoteMark : Nat := 0x22
@[match_pattern] abbrev backslash : Nat := 0x5C
@[match_pattern] abbrev letterU : Nat := 0x75
@[match_pattern] abbrev comma : Nat := 0x2C
@[match_pattern] abbrev colon : Nat := 0x3A
@[match_pattern] abbrev openBracket : Nat := 0x5B
@[match_pattern] abbrev closeBracket : Nat := 0x5D
@[match_pattern] abbrev openBrace : Nat := 0x7B
@[match_pattern] abbrev closeBrace : Nat := 0x7D
@[match_pattern] abbrev plusSign : Nat := 0x2B
@[match_pattern] abbrev minusSign : Nat := 0x2D
@[match_pattern] abbrev point : Nat := 0x2E

/-- Whether a code point is a blank between the parts of a document. -/
def isGap (n : Nat) : Bool := n == 0x20 || n == 0x09 || n == 0x0A || n == 0x0D

/-- A text without the blanks at its front. -/
def skip (cs : List Nat) : List Nat := cs.dropWhile isGap

theorem length_skip_le (cs : List Nat) : (skip cs).length ≤ cs.length :=
  (List.dropWhile_suffix isGap).length_le

/-! ### Strings -/

/-- What a backslash and another code point stand for. -/
def escapeOf? (n : Nat) : Option Nat :=
  [(0x22, 0x22), (0x5C, 0x5C), (0x2F, 0x2F), (0x62, 0x08), (0x66, 0x0C), (0x6E, 0x0A),
    (0x72, 0x0D), (0x74, 0x09)].lookup n

/-- The value of a hexadecimal digit. -/
def digitValue? (n : Nat) : Option Nat := (Text.char? n).bind Text.hexValue?

/-- The number that four hexadecimal digits form. -/
def unit? (a b c d : Nat) : Option Nat := do
  let high := (← digitValue? a) * 16 + (← digitValue? b)
  let low := (← digitValue? c) * 16 + (← digitValue? d)
  return high * 256 + low

/-- The code points of a string that goes on with an escaped unit: the unit is joined with the
next code point if they are a pair of surrogates and the next one is escaped too. -/
def joinEscaped (unit : Nat) (behind points : List Nat) : List Nat :=
  match behind, points with
  | backslash :: letterU :: _, p :: ps =>
    if Text.isHighSurrogate unit && Text.isLowSurrogate p then Text.joinSurrogates unit p :: ps
    else unit :: p :: ps
  | _, ps => unit :: ps

/-- The code points of a string up to its closing mark, and the text behind it; `opened` is the
place of the opening mark. An escape of four digits needs a character behind it. -/
def pointsOf (opened : Nat) : List Nat → Except Fault (List Nat × List Nat)
  | [] => .error ⟨.openString, opened⟩
  | quoteMark :: r => .ok ([], r)
  | backslash :: [] => .error ⟨.openString, opened⟩
  | backslash :: letterU :: a :: b :: c :: d :: r =>
    match unit? a b c d with
    | some n =>
      if r.isEmpty then .error ⟨.badUnicodeEscape, 5⟩
      else (pointsOf opened r).map fun (ps, rest) => (joinEscaped n r ps, rest)
    | none => .error ⟨.badUnicodeEscape, r.length + 5⟩
  | backslash :: e :: r =>
    if e = letterU then .error ⟨.badUnicodeEscape, r.length + 1⟩
    else
      match escapeOf? e with
      | some c => (pointsOf opened r).map fun (ps, rest) => (c :: ps, rest)
      | none => .error ⟨.badEscape, r.length + 2⟩
  | c :: r =>
    if c < 0x20 then .error ⟨.controlCharacter, r.length + 1⟩
    else (pointsOf opened r).map fun (ps, rest) => (c :: ps, rest)

theorem length_lt_of_map {f : List Nat → List Nat} {x : Except Fault (List Nat × List Nat)}
    {ps rest r : List Nat} (ih : ∀ qs, x = .ok (qs, rest) → rest.length < r.length)
    (h : x.map (fun (qs, t) => (f qs, t)) = .ok (ps, rest)) : rest.length < r.length := by
  cases x with
  | error _ => cases h
  | ok p => cases h; exact ih _ rfl

theorem length_pointsOf {opened : Nat} {cs rest ps : List Nat}
    (h : pointsOf opened cs = .ok (ps, rest)) : rest.length < cs.length := by
  fun_induction pointsOf opened cs generalizing ps with
  | case2 r => cases h; simp
  | case5 a b c d r n _ _ ih =>
    have := length_lt_of_map (fun qs hq => ih hq) h
    simp only [List.length_cons]; omega
  | case8 e r _ _ c _ ih =>
    have := length_lt_of_map (fun qs hq => ih hq) h
    simp only [List.length_cons]; omega
  | case11 c r =>
    rename_i ih
    have := length_lt_of_map (fun qs hq => ih hq) h
    simp only [List.length_cons]; omega
  | _ => cases h

/-- The string of some code points. -/
def ofPoints (ps : List Nat) : JsonString :=
  match ps.mapM Text.char? with
  | some cs => .text (String.ofList cs)
  | none => .broken ps

/-! ### Numerals -/

/-- The most digits that an integer may have. -/
def maxIntegerDigits : Nat := 4300

/-- Whether a code point is a decimal digit. -/
def isDigit (n : Nat) : Bool := 0x30 ≤ n && n ≤ 0x39

/-- The natural number of some decimal digits. -/
def natOf (ds : List Nat) : Nat := ds.foldl (fun n d => n * 10 + (d - 0x30)) 0

/-- The digits of a whole number: a zero, or all digits from one that is no zero on. -/
def wholeDigits : List Nat → List Nat
  | [] => []
  | c :: r => if c = 0x30 then [c] else if isDigit c then c :: r.takeWhile isDigit else []

/-- The digits behind a point, if the text goes on with a point and a digit. -/
def fractionDigits : List Nat → List Nat
  | point :: r => r.takeWhile isDigit
  | _ => []

/-- The sign and the digits of a power of ten, if the text goes on with one. -/
def powerText : List Nat → List Nat
  | e :: r =>
    if e = 0x65 ∨ e = 0x45 then
      match r with
      | s :: t =>
        if s = plusSign ∨ s = minusSign then
          let ds := t.takeWhile isDigit
          if ds.isEmpty then [] else s :: ds
        else r.takeWhile isDigit
      | [] => []
    else []
  | [] => []

/-- The power of ten that a sign and digits stand for. -/
def powerOf : List Nat → Int
  | minusSign :: ds => -natOf ds
  | plusSign :: ds => natOf ds
  | ds => natOf ds

/-- The longest numeral at the front of a text: its value, if it is not too long, and how many
characters it has. -/
def scanNumber (cs : List Nat) : Except FaultKind (Json × Nat) :=
  let negative := cs.head? = some minusSign
  let sign := if negative then 1 else 0
  let whole := wholeDigits (cs.drop sign)
  if whole.isEmpty then .error .valueExpected
  else
    let afterWhole := sign + whole.length
    let fraction := fractionDigits (cs.drop afterWhole)
    let afterFraction := if fraction.isEmpty then afterWhole else afterWhole + 1 + fraction.length
    let power := powerText (cs.drop afterFraction)
    if fraction.isEmpty && power.isEmpty then
      if maxIntegerDigits < whole.length then .error .numeralTooLong
      else
        let n : Int := natOf whole
        .ok (.int (if negative then -n else n), afterWhole)
    else
      let x := Binary64.ofDecimal negative (natOf (whole ++ fraction))
        (powerOf power - fraction.length)
      .ok (.float x, if power.isEmpty then afterFraction else afterFraction + 1 + power.length)

/-! ### Values -/

/-- The constants, by their spelling. -/
def constants : List (List Nat × Json) :=
  [("null", null), ("true", bool true), ("false", bool false), ("NaN", float .nan),
    ("Infinity", float (.infinite false)), ("-Infinity", float (.infinite true))].map
  fun (word, value) => (word.toList.map Char.toNat, value)

/-- What is left behind a part at the front of a text. -/
abbrev Shorter (cs : List Nat) : Type := { r : List Nat // r.length < cs.length }

/-- A constant or a numeral at the front of a text. -/
def readPlain (cs : List Nat) : Except Fault (Json × Shorter cs) :=
  match constants.find? (fun (word, _) => word.isPrefixOf cs) with
  | some (word, value) =>
    if h : 0 < word.length ∧ 0 < cs.length then
      .ok (value, ⟨cs.drop word.length, by simp; omega⟩)
    else .error ⟨.valueExpected, cs.length⟩
  | none =>
    match scanNumber cs with
    | .ok (value, n) =>
      if h : 0 < n ∧ 0 < cs.length then .ok (value, ⟨cs.drop n, by simp; omega⟩)
      else .error ⟨.valueExpected, cs.length⟩
    | .error kind => .error ⟨kind, cs.length⟩

/-- A string at the front of a text, behind its opening mark. -/
def readString (cs : List Nat) : Except Fault (JsonString × Shorter cs) :=
  match h : pointsOf (cs.length + 1) cs with
  | .ok (ps, rest) => .ok (ofPoints ps, ⟨rest, length_pointsOf h⟩)
  | .error fault => .error fault

mutual

/-- A value at the front of a text, with room for some lists and objects inside one another. -/
def readValue (room : Nat) (cs : List Nat) : Except Fault (Json × Shorter cs) :=
  match cs with
  | quoteMark :: r => do
    let (s, ⟨rest, h⟩) ← readString r
    return (string s, ⟨rest, by simp only [List.length_cons]; omega⟩)
  | openBracket :: r =>
    match room with
    | 0 => .error ⟨.tooDeep, r.length + 1⟩
    | room + 1 =>
      match hs : skip r with
      | closeBracket :: rest => return (list [], ⟨rest, by
          have := length_skip_le r; simp only [hs, List.length_cons] at this ⊢; omega⟩)
      | _ => do
        let (items, ⟨rest, h⟩) ← readItems room (skip r)
        return (list items, ⟨rest, by
          have := length_skip_le r; simp only [List.length_cons]; omega⟩)
  | openBrace :: r =>
    match room with
    | 0 => .error ⟨.tooDeep, r.length + 1⟩
    | room + 1 =>
      match hs : skip r with
      | closeBrace :: rest => return (object [], ⟨rest, by
          have := length_skip_le r; simp only [hs, List.length_cons] at this ⊢; omega⟩)
      | _ => do
        let (fields, ⟨rest, h⟩) ← readFields room (skip r)
        return (ofFields fields, ⟨rest, by
          have := length_skip_le r; simp only [List.length_cons]; omega⟩)
  | cs => readPlain cs
termination_by (cs.length, 0)
decreasing_by
  all_goals
    have := length_skip_le r
    simp only [List.length_cons]
    exact Prod.Lex.left _ _ (by omega)

/-- The items of a list from one of them to the closing bracket. -/
def readItems (room : Nat) (cs : List Nat) : Except Fault (List Json × Shorter cs) := do
  let (value, ⟨r, h⟩) ← readValue room cs
  have hr := length_skip_le r
  match hs : skip r with
  | closeBracket :: rest =>
    return ([value], ⟨rest, by simp only [hs, List.length_cons] at hr; omega⟩)
  | comma :: t => do
    have ht := length_skip_le t
    let (values, ⟨rest, h'⟩) ← readItems room (skip t)
    return (value :: values, ⟨rest, by simp only [hs, List.length_cons] at hr; omega⟩)
  | t => .error ⟨.commaExpected, t.length⟩
termination_by (cs.length, 1)
decreasing_by
  · exact Prod.Lex.right _ (by omega)
  · simp only [hs, List.length_cons] at hr
    exact Prod.Lex.left _ _ (by omega)

/-- The fields of an object from one of them to the closing bracket. -/
def readFields (room : Nat) (cs : List Nat) :
    Except Fault (List (JsonString × Json) × Shorter cs) :=
  match cs with
  | quoteMark :: r => do
    let (name, ⟨r₁, h₁⟩) ← readString r
    have k₁ := length_skip_le r₁
    match hs₁ : skip r₁ with
    | colon :: r₂ => do
      have k₂ := length_skip_le r₂
      let (value, ⟨r₃, h₃⟩) ← readValue room (skip r₂)
      have k₃ := length_skip_le r₃
      match hs₃ : skip r₃ with
      | closeBrace :: rest => return ([(name, value)], ⟨rest, by
          simp only [hs₁, hs₃, List.length_cons] at *; omega⟩)
      | comma :: r₄ => do
        have k₄ := length_skip_le r₄
        let (fields, ⟨rest, h₄⟩) ← readFields room (skip r₄)
        return ((name, value) :: fields, ⟨rest, by
          simp only [hs₁, hs₃, List.length_cons] at *; omega⟩)
      | t => .error ⟨.commaExpected, t.length⟩
    | t => .error ⟨.colonExpected, t.length⟩
  | cs => .error ⟨.nameExpected, cs.length⟩
termination_by (cs.length, 1)
decreasing_by
  · simp only [hs₁, List.length_cons] at *
    exact Prod.Lex.left _ _ (by omega)
  · simp only [hs₁, hs₃, List.length_cons] at *
    exact Prod.Lex.left _ _ (by omega)

end

/-- The value of a whole document. -/
def read (room : Nat) (cs : List Nat) : Except Fault Json := do
  let (value, ⟨rest, _⟩) ← readValue room (skip cs)
  match skip rest with
  | [] => return value
  | t => .error ⟨.trailingText, t.length⟩

end PushRegistry.Json
