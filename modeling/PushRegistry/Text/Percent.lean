import PushRegistry.Text.Encoding
import PushRegistry.Text.Hex

/-!
# Percent escapes

In addresses a byte that may not stand for itself is written as a percent sign and two digits.

## Main definitions

* `Text.percentEncode`: a text with escapes; escapes that are there already are kept.
* `Text.percentDecode`: the bytes that a text with escapes stands for.
-/

namespace PushRegistry.Text

/-- The escape of a byte, in upper case. -/
def percentByte (b : UInt8) : List Char :=
  '%' :: (hex 2 b.toNat).map Char.toUpper

/-- The escapes of the bytes of a character. -/
def percentChar (c : Char) : List Char :=
  (toUtf8 (String.ofList [c])).flatMap percentByte

/-- A text in which every character outside a class is escaped. -/
def percentEncode (safe : Char → Bool) : List Char → List Char
  | '%' :: a :: b :: r =>
    if (hexValue? a).isSome && (hexValue? b).isSome then
      '%' :: a :: b :: percentEncode safe r
    else (if safe '%' then ['%'] else percentChar '%') ++ percentEncode safe (a :: b :: r)
  | c :: r => (if safe c then [c] else percentChar c) ++ percentEncode safe r
  | [] => []

/-- The bytes that a text with escapes stands for. A percent sign without two digits stands for
itself. -/
def percentDecode : List Char → List UInt8
  | '%' :: a :: b :: r =>
    match hexValue? a, hexValue? b with
    | some high, some low => UInt8.ofNat (high * 16 + low) :: percentDecode r
    | _, _ => toUtf8 "%" ++ percentDecode (a :: b :: r)
  | c :: r => toUtf8 (String.ofList [c]) ++ percentDecode r
  | [] => []

end PushRegistry.Text
