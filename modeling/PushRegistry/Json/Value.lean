import PushRegistry.Number.Binary64

/-!
# JSON values

The values that a JSON document describes. Integers are unbounded and apart from floating point
numbers. A string is a text unless an escape in it names a surrogate without its partner; such a
string cannot be sent or stored and is kept as its code points. An object keeps its fields in the
order in which their names first appeared, with the value that a name was given last.

## Main definitions

* `JsonString`, `Json`: strings and values.
* `Json.ofFields`: an object from its fields in the order written.
* `Json.field?`: the value under a name.
* `Json.hasContent`: whether a value counts as present.
* `Json.isSendable`: whether a value can be written as standard JSON in UTF-8.
* `Json.depth`: how deep a value is nested.
-/

namespace PushRegistry

/-- A string of a document: a text, or code points among which a surrogate has no partner. -/
inductive JsonString where
  | text (s : String)
  | broken (points : List Nat)
  deriving DecidableEq, Repr

/-- Whether a string is a text. -/
def JsonString.isText : JsonString → Bool
  | text _ => true
  | broken _ => false

/-- The text that a string is, if it is one. -/
def JsonString.text? : JsonString → Option String
  | text s => some s
  | broken _ => none

/-- A value of a document. -/
inductive Json where
  | null
  | bool (b : Bool)
  | int (n : Int)
  | float (x : Binary64)
  | string (s : JsonString)
  | list (items : List Json)
  | object (fields : List (JsonString × Json))
  deriving Repr

namespace Json

/-- A string value that is a text. -/
abbrev text (s : String) : Json := string (.text s)

/-! ### Equality -/

mutual

/-- Whether two values are the same. -/
def same : Json → Json → Bool
  | null, null => true
  | bool a, bool b => a == b
  | int a, int b => a == b
  | float a, float b => a == b
  | string a, string b => a == b
  | list a, list b => sameItems a b
  | object a, object b => sameFields a b
  | _, _ => false

/-- Whether two lists of values are the same. -/
def sameItems : List Json → List Json → Bool
  | [], [] => true
  | a :: as, b :: bs => same a b && sameItems as bs
  | _, _ => false

/-- Whether two lists of fields are the same. -/
def sameFields : List (JsonString × Json) → List (JsonString × Json) → Bool
  | [], [] => true
  | (k, a) :: as, (l, b) :: bs => k == l && same a b && sameFields as bs
  | _, _ => false

end

mutual

theorem same_iff : ∀ a b : Json, same a b = true ↔ a = b
  | null, b => by cases b <;> simp [same]
  | bool _, b => by cases b <;> simp [same]
  | int _, b => by cases b <;> simp [same]
  | float _, b => by cases b <;> simp [same]
  | string _, b => by cases b <;> simp [same]
  | list as, b => by cases b <;> simp [same, sameItems_iff as]
  | object as, b => by cases b <;> simp [same, sameFields_iff as]

theorem sameItems_iff : ∀ as bs : List Json, sameItems as bs = true ↔ as = bs
  | [], bs => by cases bs <;> simp [sameItems]
  | a :: as, bs => by cases bs <;> simp [sameItems, same_iff a, sameItems_iff as]

theorem sameFields_iff :
    ∀ as bs : List (JsonString × Json), sameFields as bs = true ↔ as = bs
  | [], bs => by cases bs <;> simp [sameFields]
  | (k, a) :: as, bs => by
    cases bs with
    | nil => simp [sameFields]
    | cons f bs => obtain ⟨l, b⟩ := f; simp [sameFields, same_iff a, sameFields_iff as]

end

instance : DecidableEq Json := fun a b => decidable_of_iff _ (same_iff a b)

instance : Inhabited Json := ⟨null⟩

/-! ### Objects -/

/-- Gives a name a value: in its place if the name is there, else at the end. -/
def putField (name : JsonString) (value : Json) :
    List (JsonString × Json) → List (JsonString × Json)
  | [] => [(name, value)]
  | (k, v) :: r => if k = name then (k, value) :: r else (k, v) :: putField name value r

/-- The object with the given fields, of which a later one replaces an earlier one of its name. -/
def ofFields (fields : List (JsonString × Json)) : Json :=
  object (fields.foldl (fun fs (name, value) => putField name value fs) [])

/-- The object with the given text names, all different. -/
def record (fields : List (String × Json)) : Json :=
  object (fields.map fun (name, value) => (.text name, value))

/-- The value under a name; none if the value is no object or has no such field. -/
def field? (name : String) : Json → Option Json
  | object fields => fields.lookup (.text name)
  | _ => none

/-! ### Kinds of values -/

/-- Whether a value counts as present: null, false, zero, and the empty string, list and object
do not. -/
def hasContent : Json → Bool
  | null => false
  | bool b => b
  | int n => n != 0
  | float x => !x.isZero
  | string (.text s) => !s.isEmpty
  | string (.broken ps) => !ps.isEmpty
  | list items => !items.isEmpty
  | object fields => !fields.isEmpty

mutual

/-- Whether a value can be written as standard JSON in UTF-8: every number in it is finite and
every string a text. -/
def isSendable : Json → Bool
  | float x => x.isFinite
  | string s => s.isText
  | list items => areSendable items
  | object fields => fieldsSendable fields
  | _ => true

/-- Whether all items can be written. -/
def areSendable : List Json → Bool
  | [] => true
  | v :: r => isSendable v && areSendable r

/-- Whether all names and values can be written. -/
def fieldsSendable : List (JsonString × Json) → Bool
  | [] => true
  | (k, v) :: r => k.isText && isSendable v && fieldsSendable r

end

/-! ### Nesting -/

mutual

/-- How many lists and objects of a value are inside one another. -/
def depth : Json → Nat
  | list items => itemsDepth items + 1
  | object fields => fieldsDepth fields + 1
  | _ => 0

/-- How many lists and objects are inside one another in some values. -/
def itemsDepth : List Json → Nat
  | [] => 0
  | v :: r => max (depth v) (itemsDepth r)

/-- How many lists and objects are inside one another in the values of some fields. -/
def fieldsDepth : List (JsonString × Json) → Nat
  | [] => 0
  | (_, v) :: r => max (depth v) (fieldsDepth r)

end

end Json

end PushRegistry
