import PushRegistry.Text.CaseTable

/-!
# Letter case

The upper and lower case forms of a text, character by character: a character may become several
(`ß` becomes `SS`), and one without a mapping stays as it is. The capital sigma becomes `σ`
everywhere; whether it ends a word is not asked.

## Main definitions

* `Text.upperOf`, `Text.lowerOf`: the forms of one character.
* `Text.upper`, `Text.lower`: the forms of a text.
-/

namespace PushRegistry.Text

/-- The form of a code point by a table of expansions and a table of runs. -/
def caseForm (expansions : List (Nat × List Nat)) (runs : List CaseRun) (c : Char) : List Char :=
  match expansions.lookup c.toNat with
  | some form => form.map Char.ofNat
  | none =>
    match runs.findSome? (·.image? c.toNat) with
    | some image => [Char.ofNat image]
    | none => [c]

/-- The upper case form of a character. -/
def upperOf (c : Char) : List Char := caseForm upperExpansions upperRuns c

/-- The lower case form of a character. -/
def lowerOf (c : Char) : List Char := caseForm lowerExpansions lowerRuns c

/-- A text in upper case. -/
def upper (s : String) : String := String.ofList (s.toList.flatMap upperOf)

/-- A text in lower case. -/
def lower (s : String) : String := String.ofList (s.toList.flatMap lowerOf)

theorem upperOf_dotless_i : upperOf 'ı' = ['I'] := by decide +kernel

end PushRegistry.Text
