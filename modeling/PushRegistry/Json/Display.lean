import PushRegistry.Json.Writer
import PushRegistry.Text.Quoted

/-!
# Values shown as texts

How a value appears where a text is expected: a string as it is, anything else by its spelling,
in which strings are quoted, `None`, `True` and `False` are the constants, and lists and objects
stand in brackets with blanks after commas and colons.

## Main definitions

* `Json.spelling`: a value as part of another one.
* `Json.display`: a value as a text of its own.
-/

namespace PushRegistry.Json

/-- A floating point number as a text of its own. -/
def displayFloat : Binary64 → List Char
  | .nan => "nan".toList
  | .infinite negative => (if negative then "-inf" else "inf").toList
  | x => writeFloat x

/-- A string with quotation marks; a surrogate without its partner is an escape. -/
def quotedString : JsonString → List Char
  | .text s => (Text.quoted s).toList
  | .broken ps =>
    let mark := if 0x27 ∈ ps ∧ 0x22 ∉ ps then '"' else '\''
    let point (n : Nat) : List Char :=
      if n.isValidChar then Text.escaped mark (Char.ofNat n) else '\\' :: 'u' :: Text.hex 4 n
    mark :: (ps.flatMap point ++ [mark])

mutual

/-- A value as part of another one. -/
def spelling : Json → List Char
  | null => "None".toList
  | bool b => (if b then "True" else "False").toList
  | int n => writeInt n
  | float x => displayFloat x
  | string s => quotedString s
  | list [] => ['[', ']']
  | list (v :: r) => '[' :: (spelling v ++ spellItems r)
  | object [] => ['{', '}']
  | object ((k, v) :: r) => '{' :: (quotedString k ++ ':' :: ' ' :: (spelling v ++ spellFields r))

/-- The further items of a list and its end. -/
def spellItems : List Json → List Char
  | [] => [']']
  | v :: r => ',' :: ' ' :: (spelling v ++ spellItems r)

/-- The further fields of an object and its end. -/
def spellFields : List (JsonString × Json) → List Char
  | [] => ['}']
  | (k, v) :: r =>
    ',' :: ' ' :: (quotedString k ++ ':' :: ' ' :: (spelling v ++ spellFields r))

end

/-- A value as a text of its own; in a string without text, U+FFFD stands for each surrogate
without its partner. -/
def display : Json → List Char
  | string (.text s) => s.toList
  | string (.broken ps) =>
    ps.map fun n => if n.isValidChar then Char.ofNat n else Char.ofNat 0xFFFD
  | v => spelling v

end PushRegistry.Json
