/-!
# Blank characters

Which characters count as blank when a value is checked for content or trimmed, and the trimming
itself. Two classes are in use: `isBlank` decides whether a required text is empty, and
`isNumeralSpace`, which lacks the four information separators, is what may surround a numeral.

## Main definitions

* `Text.isBlank`, `Text.isNumeralSpace`: the two classes.
* `Text.trimWith`, `Text.trim`: a text without the characters of a class at its ends.
* `Text.AllBlank`: a text with no content.
-/

namespace PushRegistry.Text

/-- The blank characters of a numeral's surroundings: the Unicode property of white space. -/
def isNumeralSpace (c : Char) : Bool :=
  let n := c.toNat
  (0x09 ≤ n && n ≤ 0x0D) || n == 0x20 || n == 0x85 || n == 0xA0 || n == 0x1680 ||
    (0x2000 ≤ n && n ≤ 0x200A) || n == 0x2028 || n == 0x2029 || n == 0x202F || n == 0x205F ||
    n == 0x3000

/-- The blank characters of a text: white space and the information separators U+001C to
U+001F. -/
def isBlank (c : Char) : Bool :=
  isNumeralSpace c || (0x1C ≤ c.toNat && c.toNat ≤ 0x1F)

/-- What remains of a list of characters when those of a class are dropped at both ends. -/
def trimWith (p : Char → Bool) (cs : List Char) : List Char :=
  ((cs.dropWhile p).reverse.dropWhile p).reverse

/-- A text without the blank characters at its ends. -/
def trim (s : String) : String :=
  String.ofList (trimWith isBlank s.toList)

/-- A text has no content when every character of it is blank; the empty text has none. -/
def AllBlank (s : String) : Prop :=
  ∀ c ∈ s.toList, isBlank c = true

instance (s : String) : Decidable (AllBlank s) :=
  List.decidableBAll (fun c => isBlank c = true) s.toList

end PushRegistry.Text
