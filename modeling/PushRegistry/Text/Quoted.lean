import PushRegistry.Text.Hex
import PushRegistry.Text.Printable

/-!
# Quoted texts

How a message shows a text that it complains about: between quotation marks, on one line, with
everything that has no glyph written as an escape. Single marks are used unless the text holds a
single and no double mark.

## Main definitions

* `Text.quoteMark`: the mark that a text is put between.
* `Text.escaped`: how one character is written between such marks.
* `Text.quoted`: the text as messages show it.
-/

namespace PushRegistry.Text

/-- The quotation mark for a text: single, or double when it holds a single and no double mark. -/
def quoteMark (cs : List Char) : Char :=
  if '\'' ∈ cs ∧ '"' ∉ cs then '"' else '\''

/-- A character between two marks `mark`: the mark and the backslash follow a backslash, and a
character without a glyph is an escape of two, four or eight digits. -/
def escaped (mark c : Char) : List Char :=
  if c = mark ∨ c = '\\' then ['\\', c]
  else if c = '\t' then ['\\', 't']
  else if c = '\n' then ['\\', 'n']
  else if c = '\r' then ['\\', 'r']
  else if isPrintable c then [c]
  else if c.toNat ≤ 0xFF then '\\' :: 'x' :: hex 2 c.toNat
  else if c.toNat ≤ 0xFFFF then '\\' :: 'u' :: hex 4 c.toNat
  else '\\' :: 'U' :: hex 8 c.toNat

/-- A text between quotation marks. -/
def quoted (s : String) : String :=
  let mark := quoteMark s.toList
  String.ofList (mark :: (s.toList.flatMap (escaped mark) ++ [mark]))

end PushRegistry.Text
