import PushRegistry.Web.Order

/-!
# The forms of requests

What a request carries is read from a JSON value. A field has two spellings, of which the one with
inner capitals wins; a field that is missing or null has no value, and unknown fields do not
matter. All fields that do not fit are reported, in the order of the form.

A field for an integer also takes a string. How integers are written in strings is left open here.

## Main definitions

* `SchemaFault`, `SchemaError`: what does not fit and where.
* `Checked`: a value, or everything that does not fit.
* `Schema.text`, `Schema.texts`, `Schema.integer`: the kinds of fields.
* `Schema.single`, `Schema.batch`, `Schema.refresh`, `Schema.removal`: the forms.
* `Schema.enveloped`: a form inside the field of its request.
-/

namespace PushRegistry

/-! ### What does not fit -/

/-- How a value does not fit. -/
inductive SchemaFault where
  | missing
  | notObject
  | notText
  | brokenText
  | notList
  | notInteger
  | noNumeral
  | oversized
  | fraction
  | notFinite
  deriving DecidableEq, Repr

namespace SchemaFault

/-- The word by which clients tell the faults apart. -/
def code : SchemaFault → String
  | missing => "missing"
  | notObject => "model_attributes_type"
  | notText => "string_type"
  | brokenText => "string_unicode"
  | notList => "list_type"
  | notInteger => "int_type"
  | noNumeral => "int_parsing"
  | oversized => "int_parsing_size"
  | fraction => "int_from_float"
  | notFinite => "finite_number"

/-- The message for a fault. -/
def message : SchemaFault → String
  | missing => "Field required"
  | notObject => "Input should be a valid dictionary or object to extract fields from"
  | notText => "Input should be a valid string"
  | brokenText =>
    "Input should be a valid string, unable to parse raw data as a unicode string"
  | notList => "Input should be a valid list"
  | notInteger => "Input should be a valid integer"
  | noNumeral => "Input should be a valid integer, unable to parse string as an integer"
  | oversized => "Unable to parse input string as an integer, exceeded maximum size"
  | fraction => "Input should be a valid integer, got a number with a fractional part"
  | notFinite => "Input should be a finite number"

end SchemaFault

/-- A step from a value to a part of it. -/
inductive PathStep where
  | field (name : String)
  | item (index : Nat)
  deriving DecidableEq, Repr

/-- What does not fit, the way to it, and the value found there. -/
structure SchemaError where
  fault : SchemaFault
  path : List PathStep
  input : Json
  deriving DecidableEq, Repr

/-- A value, or everything that does not fit. -/
inductive Checked (α : Type) where
  | fits (value : α)
  | rejected (errors : List SchemaError)
  deriving DecidableEq, Repr

namespace Checked

/-- A function of several checked values; what does not fit in them is collected. -/
def apply {α β : Type} : Checked (α → β) → Checked α → Checked β
  | fits f, fits a => fits (f a)
  | fits _, rejected es => rejected es
  | rejected es, fits _ => rejected es
  | rejected es, rejected fs => rejected (es ++ fs)

instance : Applicative Checked where
  pure := fits
  seq f a := apply f (a ())

/-- A value that does not fit. -/
def reject {α : Type} (fault : SchemaFault) (path : List PathStep) (input : Json) : Checked α :=
  rejected [⟨fault, path, input⟩]

end Checked

namespace Schema

/-! ### Fields -/

/-- The two spellings of a field. -/
structure FieldName where
  camel : String
  snake : String
  deriving DecidableEq, Repr

def requestObject : FieldName := ⟨"requestObject", "request_object"⟩
def appId : FieldName := ⟨"appId", "app_id"⟩
def token : FieldName := ⟨"token", "token"⟩
def platform : FieldName := ⟨"platform", "platform"⟩
def activationId : FieldName := ⟨"activationId", "activation_id"⟩
def activationIds : FieldName := ⟨"activationIds", "activation_ids"⟩

/-- The spelling under which an object has a field, and the value; a field that is missing goes
by its first spelling. -/
def FieldName.find (name : FieldName) (object : Json) : String × Option Json :=
  match object.field? name.camel with
  | some value => (name.camel, some value)
  | none =>
    match object.field? name.snake with
    | some value => (name.snake, some value)
    | none => (name.camel, none)

/-- How the value of a field is read, given the way to it. -/
abbrev Reading (α : Type) : Type := List PathStep → Json → Checked (Option α)

/-- The value of a field of an object at the end of a way. -/
def optional {α : Type} (reading : Reading α) (name : FieldName) (path : List PathStep)
    (object : Json) : Checked (Option α) :=
  match name.find object with
  | (_, none) => pure none
  | (key, some value) => reading (path ++ [.field key]) value

/-! ### Kinds of fields -/

/-- A string, which need not be a text. -/
def requiredText (path : List PathStep) : Json → Checked JsonString
  | .string s => pure s
  | value => .reject .notText path value

/-- A string or nothing. -/
def text : Reading JsonString := fun path value =>
  if value = .null then pure none else some <$> requiredText path value

/-- The strings of a list, of which the first stands at an index. -/
def textItems (path : List PathStep) : (index : Nat) → List Json → Checked (List JsonString)
  | _, [] => pure []
  | index, value :: r =>
    List.cons <$> requiredText (path ++ [.item index]) value <*> textItems path (index + 1) r

/-- A list of strings or nothing. -/
def texts : Reading (List JsonString) := fun path value =>
  match value with
  | .null => pure none
  | .list items => some <$> textItems path 0 items
  | value => .reject .notList path value

/-- How the text of an integer is read. -/
abbrev Numerals : Type := String → Except SchemaFault Int

/-- The integer that a floating point number is. Numbers outside of sixty-four bits, and the least
of them, are too large. -/
def integerOfFloat (x : Binary64) : Except SchemaFault Int :=
  if !x.isFinite then .error .notFinite
  else
    match x.toInt? with
    | none => .error .fraction
    | some n => if -Int.pow 2 63 < n && n < Int.pow 2 63 then .ok n else .error .oversized

/-- The integer that a value stands for; a truth value is one or zero. A string that is no text is
not read at all. -/
def integerValue (numerals : Numerals) : Json → Except SchemaFault Int
  | .bool b => .ok (if b then 1 else 0)
  | .int n => .ok n
  | .float x => integerOfFloat x
  | .string (.text s) => numerals s
  | .string (.broken _) => .error .brokenText
  | _ => .error .notInteger

/-- An integer or nothing. -/
def integer (numerals : Numerals) : Reading Int := fun path value =>
  if value = .null then pure none
  else
    match integerValue numerals value with
    | .ok n => pure (some n)
    | .error fault => .reject fault path value

/-! ### Forms -/

/-- A form that only an object can fit. -/
def ofObject {α : Type} (form : List PathStep → Json → Checked α) (path : List PathStep)
    (value : Json) : Checked α :=
  match value with
  | .object fields => form path (.object fields)
  | value => .reject .notObject path value

/-- The form of a request to register a device for one activation. -/
def single (numerals : Numerals) : List PathStep → Json → Checked Posting :=
  ofObject fun path object =>
    Posting.single <$> optional (integer numerals) appId path object <*>
      optional text token path object <*> optional text platform path object <*>
      optional text activationId path object

/-- The form of a request to register a device for several activations. -/
def batch (numerals : Numerals) : List PathStep → Json → Checked Posting :=
  ofObject fun path object =>
    Posting.batch <$> optional (integer numerals) appId path object <*>
      optional text token path object <*> optional text platform path object <*>
      optional texts activationIds path object

/-- The form of a request to refresh the state of an activation. -/
def refresh : List PathStep → Json → Checked Posting :=
  ofObject fun path object => Posting.refresh <$> optional text activationId path object

/-- The form of a request to remove a device. -/
def removal (numerals : Numerals) : List PathStep → Json → Checked Posting :=
  ofObject fun path object =>
    Posting.removal <$> optional (integer numerals) appId path object <*>
      optional text token path object

/-- A form inside the field that holds the whole request. -/
def enveloped {α : Type} (form : List PathStep → Json → Checked α) :
    List PathStep → Json → Checked α :=
  ofObject fun path object =>
    match requestObject.find object with
    | (key, none) => .reject .missing (path ++ [.field key]) object
    | (key, some value) => form (path ++ [.field key]) value

end Schema

end PushRegistry
