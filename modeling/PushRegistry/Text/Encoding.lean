/-!
# Encodings of transmitted text

A JSON document arrives as bytes in UTF-8, UTF-16 or UTF-32, in either byte order and with or
without a byte order mark. The encoding is told from the mark or, as the first characters of a
document are ASCII, from where its first zero bytes stand. A surrogate without its partner is let
through as a code point; all else that is not well formed is refused.

## Main definitions

* `Text.Encoding`, `Text.Encoding.detect`: the encodings, and which one some bytes are in.
* `Text.Encoding.points?`: the code points of some bytes in an encoding.
* `Text.points?`: both together.
* `Text.utf8?`, `Text.toUtf8`: plain UTF-8, in which no surrogate is let through.
-/

namespace PushRegistry.Text

/-- An encoding of text as bytes, with the byte order where units have several bytes. -/
inductive Encoding where
  | utf8
  | utf16 (bigEndian : Bool)
  | utf32 (bigEndian : Bool)
  deriving DecidableEq, Repr

namespace Encoding

/-- The encoding of some bytes, and the bytes without their byte order mark. -/
def detect : List UInt8 → Encoding × List UInt8
  | 0x00 :: 0x00 :: 0xFE :: 0xFF :: r => (utf32 true, r)
  | 0xFF :: 0xFE :: 0x00 :: 0x00 :: r => (utf32 false, r)
  | 0xFE :: 0xFF :: r => (utf16 true, r)
  | 0xFF :: 0xFE :: r => (utf16 false, r)
  | 0xEF :: 0xBB :: 0xBF :: r => (utf8, r)
  | bs@(a :: b :: c :: d :: _) =>
    if a = 0 then (if b = 0 then utf32 true else utf16 true, bs)
    else if b = 0 then (if c = 0 ∧ d = 0 then utf32 false else utf16 false, bs)
    else (utf8, bs)
  | [a, b] => (if a = 0 then utf16 true else if b = 0 then utf16 false else utf8, [a, b])
  | bs => (utf8, bs)

/-- The number that two bytes form. -/
def unit16 (bigEndian : Bool) (a b : UInt8) : Nat :=
  if bigEndian then a.toNat * 0x100 + b.toNat else b.toNat * 0x100 + a.toNat

/-- The units of two bytes each; none if a byte is left over. -/
def units16? (bigEndian : Bool) : List UInt8 → Option (List Nat)
  | [] => some []
  | a :: b :: r => (units16? bigEndian r).map (unit16 bigEndian a b :: ·)
  | [_] => none

/-- The units of four bytes each; none if bytes are left over. -/
def units32? (bigEndian : Bool) : List UInt8 → Option (List Nat)
  | [] => some []
  | a :: b :: c :: d :: r =>
    let high := unit16 bigEndian a b
    let low := unit16 bigEndian c d
    let u := if bigEndian then high * 0x10000 + low else low * 0x10000 + high
    (units32? bigEndian r).map (u :: ·)
  | _ => none

end Encoding

/-- The character with a code point; none for a surrogate or a number past the last one. -/
def char? (n : Nat) : Option Char :=
  if n.isValidChar then some (Char.ofNat n) else none

/-- Whether a code point is the first of a pair of surrogates. -/
def isHighSurrogate (n : Nat) : Bool := 0xD800 ≤ n && n ≤ 0xDBFF

/-- Whether a code point is the second of a pair of surrogates. -/
def isLowSurrogate (n : Nat) : Bool := 0xDC00 ≤ n && n ≤ 0xDFFF

/-- The code point that a pair of surrogates stands for. -/
def joinSurrogates (high low : Nat) : Nat :=
  0x10000 + (high - 0xD800) * 0x400 + (low - 0xDC00)

/-- The code points of UTF-16 units. -/
def ofUnits16 : List Nat → List Nat
  | u :: v :: r =>
    if isHighSurrogate u && isLowSurrogate v then joinSurrogates u v :: ofUnits16 r
    else u :: ofUnits16 (v :: r)
  | us => us

/-- A character of which only the first bytes have been seen: the bytes still owed, the number
that the bytes so far form, and the least and the greatest byte that may come next. -/
structure PartialChar where
  owed : Nat
  value : Nat
  low : UInt8
  high : UInt8
  deriving DecidableEq, Repr

/-- What the first byte of a character of several bytes leaves open. The bounds on the second
byte rule out forms longer than needed and code points past the last one. -/
def leadByte? (b : UInt8) : Option PartialChar :=
  if 0xC2 ≤ b ∧ b ≤ 0xDF then some ⟨1, b.toNat % 0x20, 0x80, 0xBF⟩
  else if b = 0xE0 then some ⟨2, 0, 0xA0, 0xBF⟩
  else if 0xE1 ≤ b ∧ b ≤ 0xEF then some ⟨2, b.toNat % 0x10, 0x80, 0xBF⟩
  else if b = 0xF0 then some ⟨3, 0, 0x90, 0xBF⟩
  else if 0xF1 ≤ b ∧ b ≤ 0xF3 then some ⟨3, b.toNat % 0x8, 0x80, 0xBF⟩
  else if b = 0xF4 then some ⟨3, 4, 0x80, 0x8F⟩
  else none

/-- The code points of bytes in UTF-8, surrogates included, within or between characters. -/
def ofUtf8? : Option PartialChar → List UInt8 → Option (List Nat)
  | none, [] => some []
  | some _, [] => none
  | none, b :: r =>
    if b < 0x80 then (ofUtf8? none r).map (b.toNat :: ·)
    else (leadByte? b).bind fun p => ofUtf8? (some p) r
  | some p, b :: r =>
    if p.low ≤ b ∧ b ≤ p.high then
      let value := p.value * 0x40 + b.toNat % 0x40
      if p.owed = 1 then (ofUtf8? none r).map (value :: ·)
      else ofUtf8? (some ⟨p.owed - 1, value, 0x80, 0xBF⟩) r
    else none

/-- The code points of bytes in an encoding. -/
def Encoding.points? : Encoding → List UInt8 → Option (List Nat)
  | utf8, bytes => ofUtf8? none bytes
  | utf16 bigEndian, bytes => (units16? bigEndian bytes).map ofUnits16
  | utf32 bigEndian, bytes =>
    (units32? bigEndian bytes).bind fun us => if us.all (· < 0x110000) then some us else none

/-- The code points of a transmitted document; none if its bytes are not well formed in the
encoding that they announce. -/
def points? (bytes : List UInt8) : Option (List Nat) :=
  let (encoding, rest) := Encoding.detect bytes
  encoding.points? rest

/-- The text of bytes that are well-formed UTF-8. -/
def utf8? (bytes : List UInt8) : Option String :=
  String.fromUTF8? ⟨bytes.toArray⟩

/-- The bytes of a text in UTF-8. -/
def toUtf8 (s : String) : List UInt8 :=
  s.toUTF8.toList

end PushRegistry.Text
