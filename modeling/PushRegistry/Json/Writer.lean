import PushRegistry.Json.Value
import PushRegistry.Number.Numeral
import PushRegistry.Text.Hex

/-!
# Writing JSON

The text of a value without blanks. Characters outside ASCII stand for themselves; the quotation
mark, the backslash and the control characters below U+0020 are escaped.

## Main definitions

* `Json.numeralFormat`: how floating point numbers are written.
* `Json.write`: the text of a value.
-/

namespace PushRegistry.Json

/-- Floating point numbers are written with the fewest digits, without a power of ten from
`0.0001` up to sixteen digits before the point. -/
def numeralFormat : Numeral.Format := ⟨-4, 16, false⟩

/-- A floating point number; the infinities and the value that is no number have names. -/
def writeFloat : Binary64 → List Char
  | .nan => "NaN".toList
  | .infinite negative => (if negative then "-Infinity" else "Infinity").toList
  | .finite negative m e =>
    let digits := ((Binary64.shortest? m e).getD Binary64.zeroNumeral).render numeralFormat
    if negative then '-' :: digits else digits

/-- An integer in decimal digits. -/
def writeInt (n : Int) : List Char :=
  if n < 0 then '-' :: Numeral.digitsOf n.natAbs else Numeral.digitsOf n.natAbs

/-- A character between quotation marks. -/
def writeChar (c : Char) : List Char :=
  if c = '"' then ['\\', '"']
  else if c = '\\' then ['\\', '\\']
  else if c = '\n' then ['\\', 'n']
  else if c = '\r' then ['\\', 'r']
  else if c = '\t' then ['\\', 't']
  else if c = '\x08' then ['\\', 'b']
  else if c = '\x0c' then ['\\', 'f']
  else if c.toNat < 0x20 then '\\' :: 'u' :: Text.hex 4 c.toNat
  else [c]

/-- A code point between quotation marks; a surrogate is an escape. -/
def writePoint (n : Nat) : List Char :=
  if n.isValidChar then writeChar (Char.ofNat n) else '\\' :: 'u' :: Text.hex 4 n

/-- A string with its quotation marks. -/
def writeString : JsonString → List Char
  | .text s => '"' :: (s.toList.flatMap writeChar ++ ['"'])
  | .broken ps => '"' :: (ps.flatMap writePoint ++ ['"'])

mutual

/-- The text of a value. -/
def write : Json → List Char
  | null => "null".toList
  | bool b => (if b then "true" else "false").toList
  | int n => writeInt n
  | float x => writeFloat x
  | string s => writeString s
  | list [] => ['[', ']']
  | list (v :: r) => '[' :: (write v ++ writeItems r)
  | object [] => ['{', '}']
  | object ((k, v) :: r) => '{' :: (writeString k ++ ':' :: (write v ++ writeFields r))

/-- The further items of a list and its end. -/
def writeItems : List Json → List Char
  | [] => [']']
  | v :: r => ',' :: (write v ++ writeItems r)

/-- The further fields of an object and its end. -/
def writeFields : List (JsonString × Json) → List Char
  | [] => ['}']
  | (k, v) :: r => ',' :: (writeString k ++ ':' :: (write v ++ writeFields r))

end

/-- The text of a value as bytes. -/
def toBytes (v : Json) : List UInt8 := (String.ofList (write v)).toUTF8.toList

end PushRegistry.Json
