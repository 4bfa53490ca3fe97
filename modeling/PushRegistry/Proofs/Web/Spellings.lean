import PushRegistry.Proofs.Text.Casing
import PushRegistry.Proofs.Web.Refusals

/-!
# Spellings of fields

The fields of a request have names of several words. Clients write them with inner capitals or with
lines between the words, and some write both in one request. It does not matter which, in the object
around a request and in the request itself, as long as no object has a field twice.

Two bodies that differ only in this are the same once all names are spelled with inner capitals.
Every form finds the same values in both, so it has the same value or the same does not fit in the
same places. A refusal may differ all the same, since it shows the names as they were sent; but
whether it can be shown does not depend on the names.

## Main definitions

* `Schema.spellings`, `Json.camelForm`, `Json.camelRequest`: the names in two spellings, and values
  with all names in the first one.
* `Json.Unambiguous`: bodies in which no field stands twice.
* `Checked.Alike`: checks with the same value, or in which the same does not fit.

## Main results

* `Schema.FieldName.lookup_camel`: an object has the value of a field under its first spelling.
* `OrderKind.alike_posting`: bodies that differ in spelling ask for the same.
* `App.handle_respelled`: requests that differ in spelling are answered and carried out alike.
-/

namespace PushRegistry

/-! ### Spellings of names -/

namespace Schema

/-- The names with lines between the words, and the same with inner capitals. -/
def spellings : List (String × String) :=
  [("request_object", "requestObject"), ("app_id", "appId"), ("activation_id", "activationId"),
    ("activation_ids", "activationIds")]

/-- A name with inner capitals if it is the name of a field in either spelling. -/
def camelName (s : String) : String := (spellings.lookup s).getD s

/-- The two spellings of a field have its first one in common, and no other name has. -/
theorem camelName_eq_iff {name : FieldName} (hname : name ∈ fieldNames) {s : String} :
    camelName s = name.camel ↔ s = name.camel ∨ s = name.snake := by
  have hlisted : ∀ e ∈ spellings, ∀ n ∈ fieldNames,
      e.2 = n.camel ↔ e.1 = n.camel ∨ e.1 = n.snake := by decide
  have hother : ∀ n ∈ fieldNames, spellings.lookup n.snake = none → n.snake = n.camel := by decide
  rw [camelName]
  cases hlookup : spellings.lookup s with
  | some camel =>
    exact hlisted (s, camel) (Text.mem_of_lookup_eq_some hlookup) name hname
  | none =>
    refine ⟨.inl, ?_⟩
    rintro (h | rfl)
    · exact h
    · exact hother name hname hlookup

end Schema

/-- The name of a field of an object, with inner capitals. -/
def JsonString.camel : JsonString → JsonString
  | text s => text (Schema.camelName s)
  | broken ps => broken ps

theorem JsonString.camel_eq_iff {name : Schema.FieldName} (hname : name ∈ Schema.fieldNames)
    {k : JsonString} :
    k.camel = .text name.camel ↔ k = .text name.camel ∨ k = .text name.snake := by
  cases k with
  | text s => simp [camel, Schema.camelName_eq_iff hname]
  | broken ps => simp [camel]

@[simp] theorem JsonString.isText_camel (k : JsonString) : k.camel.isText = k.isText := by
  cases k <;> rfl

/-- Names are internal in both spellings or in none. -/
@[simp] theorem JsonString.isInternal_camel (k : JsonString) :
    k.camel.isInternal = k.isInternal := by
  cases k with
  | broken ps => rfl
  | text s =>
    have hlisted : ∀ e ∈ Schema.spellings,
        (text e.1).isInternal = false ∧ (text e.2).isInternal = false := by decide +kernel
    rw [camel, Schema.camelName]
    cases hlookup : Schema.spellings.lookup s with
    | none => rfl
    | some name =>
      obtain ⟨hsnake, hcamel⟩ := hlisted (s, name) (Text.mem_of_lookup_eq_some hlookup)
      exact hcamel.trans hsnake.symm

/-! ### Values in one spelling -/

namespace Json

/-- A value in which the fields, if it is an object, are named with inner capitals; their values are
changed according to the names. -/
def camel (inner : JsonString → Json → Json) : Json → Json
  | object fields => object (fields.map fun (k, v) => (k.camel, inner k.camel v))
  | v => v

/-- A form with inner capitals in the names of its fields. -/
def camelForm : Json → Json := camel fun _ v => v

/-- The value of a field of a request, with inner capitals if it is what the request is about. -/
def camelInside (k : JsonString) (v : Json) : Json :=
  if k = .text "requestObject" then v.camelForm else v

/-- A request with inner capitals in the names of its fields and of those inside it. -/
def camelRequest : Json → Json := camel camelInside

/-- Whether an object has all its names once, and none in both spellings. -/
def OneSpelling : Json → Prop
  | object fields => (fields.map fun f => f.1.camel).Nodup
  | _ => True

/-- Whether a request and what is inside it have all their names once, none in both spellings. -/
structure Unambiguous (v : Json) : Prop where
  outer : v.OneSpelling
  inner : ∀ fields, v = .object fields →
    ∀ f ∈ fields, f.1.camel = .text "requestObject" → f.2.OneSpelling

variable {inner : JsonString → Json → Json} {v v' : Json}

/-- Two values that are the same in one spelling are objects or the same. -/
theorem camel_eq_cases (h : v'.camel inner = v.camel inner) :
    (∃ fields fields', v = object fields ∧ v' = object fields') ∨
      (∀ fields, v ≠ object fields) ∧ v' = v := by
  by_cases hv : ∃ fields, v = object fields
  · obtain ⟨fields, rfl⟩ := hv
    cases v' with
    | object fields' => exact .inl ⟨fields, fields', rfl, rfl⟩
    | _ => cases h
  · have hne : ∀ fields, v ≠ object fields := fun fields hfields => hv ⟨fields, hfields⟩
    have hsame : v.camel inner = v := by
      cases v with
      | object fields => exact absurd rfl (hne fields)
      | _ => rfl
    refine .inr ⟨hne, ?_⟩
    rw [hsame] at h
    cases v' with
    | object fields' => exact absurd h.symm (hne _)
    | _ => exact h

theorem oneSpelling_of_camel_eq (h : v'.camel inner = v.camel inner) (hv : v.OneSpelling) :
    v'.OneSpelling := by
  rcases camel_eq_cases h with ⟨fields, fields', rfl, rfl⟩ | ⟨-, rfl⟩
  · have hkeys := congrArg (List.map Prod.fst) (Json.object.inj h)
    rw [List.map_map, List.map_map] at hkeys
    rw [OneSpelling] at hv ⊢
    exact hkeys.symm ▸ hv
  · exact hv

/-- What decides whether a value can be shown: whether it can be sent, and how deep it is nested. -/
def extent (v : Json) : Bool × Nat := (v.shown.isSendable, v.shown.depth)

/-- The spelling of names has no effect on whether a value can be shown. -/
theorem extent_camel (hinner : ∀ k v, (inner k v).extent = v.extent) (v : Json) :
    (v.camel inner).extent = v.extent := by
  cases v with
  | object fields =>
    have hsendable : ∀ k v, (inner k v).shown.isSendable = v.shown.isSendable := fun k v =>
      congrArg Prod.fst (hinner k v)
    have hdepth : ∀ k v, (inner k v).shown.depth = v.shown.depth := fun k v =>
      congrArg Prod.snd (hinner k v)
    let camelFields := fields.map fun (k, v) => (k.camel, inner k.camel v)
    have hfields :
        fieldsSendable (shownFields camelFields) = fieldsSendable (shownFields fields) ∧
          fieldsDepth (shownFields camelFields) = fieldsDepth (shownFields fields) := by
      induction fields with
      | nil => exact ⟨rfl, rfl⟩
      | cons f fields ih =>
        obtain ⟨k, v⟩ := f
        simp only [camelFields, List.map_cons, shownFields, JsonString.isInternal_camel]
        split
        · exact ih
        · simp only [fieldsSendable, fieldsDepth, JsonString.isText_camel, hsendable, hdepth]
          exact ⟨congrArg _ ih.1, congrArg _ ih.2⟩
    exact Prod.ext hfields.1 (congrArg (· + 1) hfields.2)
  | _ => rfl

theorem extent_camelForm (v : Json) : v.camelForm.extent = v.extent :=
  extent_camel (fun _ _ => rfl) v

theorem extent_camelRequest (v : Json) : v.camelRequest.extent = v.extent := by
  refine extent_camel (fun k v => ?_) v
  rw [camelInside]
  split
  · exact extent_camelForm v
  · rfl

end Json

/-! ### Values of fields -/

namespace Schema.FieldName

variable {name : FieldName} {inner : JsonString → Json → Json} {v v' : Json}

/-- The spelling under which a field is found is one of its own. -/
theorem camelName_find (hname : name ∈ fieldNames) (v : Json) :
    camelName (name.find v).1 = name.camel := by
  rw [camelName_eq_iff hname, find]
  split
  · exact .inl rfl
  · split
    · exact .inr rfl
    · exact .inl rfl

/-- Fields under other names do not matter. -/
theorem find_cons {k : JsonString} {value : Json} {fields : List (JsonString × Json)}
    (hname : name ∈ fieldNames) (hk : k.camel ≠ .text name.camel) :
    name.find (.object ((k, value) :: fields)) = name.find (.object fields) := by
  rw [Ne, JsonString.camel_eq_iff hname, not_or] at hk
  have hcamel : ((.text name.camel : JsonString) == k) = false := beq_false_of_ne (Ne.symm hk.1)
  have hsnake : ((.text name.snake : JsonString) == k) = false := beq_false_of_ne (Ne.symm hk.2)
  simp only [find, Json.field?, List.lookup_cons, hcamel, hsnake]

/-- The first field that has a name in either spelling is the one that is found, unless the other
spelling follows. -/
theorem find_cons_self {k : JsonString} {value : Json} {fields : List (JsonString × Json)}
    (hname : name ∈ fieldNames) (hk : k.camel = .text name.camel)
    (hnew : ∀ f ∈ fields, f.1.camel ≠ .text name.camel) :
    (name.find (.object ((k, value) :: fields))).2 = some value := by
  have hnone : fields.lookup (.text name.camel) = none := by
    refine List.lookup_eq_none_iff.mpr fun f hf => bne_iff_ne.mpr fun hkey => hnew f hf ?_
    rw [← hkey, JsonString.camel_eq_iff hname]
    exact .inl rfl
  rw [find]
  simp only [Json.field?, List.lookup_cons]
  by_cases hcamel : k = .text name.camel
  · simp [hcamel]
  · have hsnake : k = .text name.snake :=
      ((JsonString.camel_eq_iff hname).mp hk).resolve_left hcamel
    simp only [beq_false_of_ne (Ne.symm hcamel), hnone]
    simp [hsnake]

/-- An object in one spelling has the value of a field under its first spelling. -/
theorem lookup_camel (hname : name ∈ fieldNames) {fields : List (JsonString × Json)}
    (hone : (Json.object fields).OneSpelling) :
    (fields.map fun (k, v) => (k.camel, inner k.camel v)).lookup (.text name.camel) =
      (name.find (.object fields)).2.map (inner (.text name.camel)) := by
  induction fields with
  | nil => rfl
  | cons f fields ih =>
    obtain ⟨k, value⟩ := f
    obtain ⟨hnew, hrest⟩ := List.nodup_cons.mp hone
    rw [List.map_cons, List.lookup_cons]
    -- The lookup goes through the fields twice, once for each spelling. It ends where the one in
    -- the object in one spelling does, since no field after that has either name.
    by_cases hk : k.camel = .text name.camel
    · have hnew' : ∀ f ∈ fields, f.1.camel ≠ .text name.camel := fun f hf hkey =>
        hnew (List.mem_map.mpr ⟨f, hf, hkey.trans hk.symm⟩)
      rw [find_cons_self hname hk hnew', hk]
      simp
    · rw [find_cons hname hk, beq_false_of_ne (Ne.symm hk)]
      exact ih hrest

/-- Objects that are the same in one spelling have the same value of a field. -/
theorem find_of_camel_eq (hname : name ∈ fieldNames) (hone : v.OneSpelling)
    (h : v'.camel inner = v.camel inner) :
    (name.find v').2.map (inner (.text name.camel)) =
      (name.find v).2.map (inner (.text name.camel)) := by
  have hone' := Json.oneSpelling_of_camel_eq h hone
  rcases Json.camel_eq_cases h with ⟨fields, fields', rfl, rfl⟩ | ⟨-, rfl⟩
  · rw [← lookup_camel hname hone, ← lookup_camel hname hone', Json.object.inj h]
  · rfl

end Schema.FieldName

/-! ### Checks that come to the same -/

/-- A step of a way, with inner capitals. -/
def PathStep.camel : PathStep → PathStep
  | field name => field (Schema.camelName name)
  | item index => item index

/-- What does not fit, the way to it in one spelling, and what decides whether it can be shown. -/
def SchemaError.outline (e : SchemaError) : SchemaFault × List PathStep × Bool × Nat :=
  (e.fault, e.path.map PathStep.camel, e.input.extent)

namespace Checked

variable {α β : Type} {path path' : List PathStep}

/-- What a check comes to, whatever the spelling. -/
def outline : Checked α → Except (List (SchemaFault × List PathStep × Bool × Nat)) α
  | fits a => .ok a
  | rejected errors => .error (errors.map SchemaError.outline)

/-- Whether two checks have the same value, or the same does not fit in them. -/
def Alike (c c' : Checked α) : Prop := c'.outline = c.outline

theorem Alike.refl (c : Checked α) : c.Alike c := rfl

theorem outline_seq (f : Checked (α → β)) (c : Checked α) :
    (f <*> c).outline =
      match f.outline, c.outline with
      | .ok f, .ok a => .ok (f a)
      | .ok _, .error es => .error es
      | .error es, .ok _ => .error es
      | .error es, .error fs => .error (es ++ fs) := by
  change (apply f c).outline = _
  cases f <;> cases c <;> simp [apply, outline]

theorem Alike.seq {f f' : Checked (α → β)} {c c' : Checked α} (hf : f.Alike f')
    (hc : c.Alike c') : (f <*> c).Alike (f' <*> c') := by
  rw [Alike, outline_seq, outline_seq, hf, hc]

theorem Alike.map {c c' : Checked α} (hc : c.Alike c') (f : α → β) : (f <$> c).Alike (f <$> c') :=
  (Alike.refl (pure f)).seq hc

theorem alike_reject {input input' : Json} (fault : SchemaFault)
    (hplace : path'.map PathStep.camel = path.map PathStep.camel)
    (hinput : input'.extent = input.extent) :
    (reject fault path input : Checked α).Alike (reject fault path' input') := by
  simp only [Alike, reject, outline, SchemaError.outline, List.map_cons, List.map_nil, hplace,
    hinput]

/-- Where one check has a value, so has the other one. -/
theorem Alike.fits {c : Checked α} {a : α} (h : (Checked.fits a).Alike c) : c = .fits a := by
  cases c with
  | fits b => exact congrArg _ (Except.ok.inj h)
  | rejected errors => cases h

/-- Where one check has no value, neither has the other one. -/
theorem Alike.rejected {c : Checked α} {errors : List SchemaError}
    (h : (Checked.rejected errors : Checked α).Alike c) :
    ∃ errors', c = .rejected errors' ∧
      errors'.map SchemaError.outline = errors.map SchemaError.outline := by
  cases c with
  | fits b => cases h
  | rejected errors' => exact ⟨errors', rfl, Except.error.inj h⟩

end Checked

/-! ### Readings -/

namespace Schema

open Checked

variable {α : Type} {path path' : List PathStep}

/-- Whether a reading comes to the same wherever the value stands. -/
def ReadsAlike (reading : List PathStep → Json → Checked α) : Prop :=
  ∀ path path' value, path'.map PathStep.camel = path.map PathStep.camel →
    (reading path value).Alike (reading path' value)

theorem readsAlike_requiredText : ReadsAlike requiredText := by
  intro path path' value hplace
  rw [requiredText.eq_def, requiredText.eq_def]
  split
  · exact .refl _
  · exact alike_reject _ hplace rfl

theorem readsAlike_text : ReadsAlike text := by
  intro path path' value hplace
  rw [text, text]
  split
  · exact .refl _
  · exact (readsAlike_requiredText path path' value hplace).map _

theorem alike_textItems (hplace : path'.map PathStep.camel = path.map PathStep.camel) (index : Nat)
    (items : List Json) : (textItems path index items).Alike (textItems path' index items) := by
  induction items generalizing index with
  | nil => exact .refl _
  | cons v items ih =>
    refine ((readsAlike_requiredText _ _ v ?_).map _).seq (ih (index + 1))
    rw [List.map_append, List.map_append, hplace]

theorem readsAlike_texts : ReadsAlike texts := by
  intro path path' value hplace
  rw [texts.eq_def, texts.eq_def]
  split
  · exact .refl _
  · exact (alike_textItems hplace 0 _).map _
  · exact alike_reject _ hplace rfl

theorem readsAlike_integer (numerals : Numerals) : ReadsAlike (integer numerals) := by
  intro path path' value hplace
  rw [integer, integer]
  split
  · exact .refl _
  · split
    · exact .refl _
    · exact alike_reject _ hplace rfl

/-! ### Forms -/

/-- Whether two values at the ends of two ways are the same in one spelling, and the ways are. -/
structure Respelled (inner : JsonString → Json → Json) (path path' : List PathStep) (v v' : Json) :
    Prop where
  place : path'.map PathStep.camel = path.map PathStep.camel
  one : v.OneSpelling
  same : v'.camel inner = v.camel inner

/-- Whether a form comes to the same in any spelling. -/
def SpelledAlike (inner : JsonString → Json → Json) (form : List PathStep → Json → Checked α) :
    Prop :=
  ∀ path path' v v', Respelled inner path path' v v' → (form path v).Alike (form path' v')

variable {inner : JsonString → Json → Json} {v v' : Json} {name : FieldName}

theorem map_camel_append {key key' : String}
    (hplace : path'.map PathStep.camel = path.map PathStep.camel)
    (hkey : camelName key = name.camel) (hkey' : camelName key' = name.camel) :
    (path' ++ [PathStep.field key']).map PathStep.camel =
      (path ++ [PathStep.field key]).map PathStep.camel := by
  simp only [List.map_append, List.map_cons, List.map_nil, hplace, PathStep.camel, hkey, hkey']

/-- The spelling of an optional field does not matter if its value is left as it is. -/
theorem ReadsAlike.optional {reading : Reading α} (hreading : ReadsAlike reading)
    (hname : name ∈ fieldNames) (hinner : ∀ value, inner (.text name.camel) value = value) :
    SpelledAlike inner (optional reading name) := by
  intro path path' v v' h
  have hvalues := name.find_of_camel_eq hname h.one h.same
  have hkey := name.camelName_find hname v
  have hkey' := name.camelName_find hname v'
  rw [Schema.optional, Schema.optional]
  generalize name.find v = found at hvalues hkey ⊢
  generalize name.find v' = found' at hvalues hkey' ⊢
  rcases found with ⟨key, _ | value⟩ <;> rcases found' with ⟨key', _ | value'⟩
  · exact .refl _
  · cases hvalues
  · cases hvalues
  · have hvalue : value' = value := by
      rw [← hinner value, ← hinner value']
      exact Option.some.inj hvalues
    rw [hvalue]
    exact hreading _ _ value (map_camel_append h.place hkey hkey')

theorem SpelledAlike.ofObject {form : List PathStep → Json → Checked α}
    (hform : SpelledAlike inner form) : SpelledAlike inner (ofObject form) := by
  intro path path' v v' h
  rcases Json.camel_eq_cases h.same with ⟨fields, fields', rfl, rfl⟩ | ⟨hnone, rfl⟩
  · exact hform path path' _ _ h
  · rw [Schema.ofObject.eq_def, Schema.ofObject.eq_def]
    split
    · exact absurd rfl (hnone _)
    · exact alike_reject _ h.place rfl

/-- A field of a request comes to the same in any spelling. -/
theorem spelledAlike_integer (numerals : Numerals) (hname : name ∈ fieldNames) :
    SpelledAlike (fun _ v => v) (optional (integer numerals) name) :=
  (readsAlike_integer numerals).optional hname fun _ => rfl

theorem spelledAlike_text (hname : name ∈ fieldNames) :
    SpelledAlike (fun _ v => v) (optional text name) :=
  readsAlike_text.optional hname fun _ => rfl

theorem spelledAlike_texts (hname : name ∈ fieldNames) :
    SpelledAlike (fun _ v => v) (optional texts name) :=
  readsAlike_texts.optional hname fun _ => rfl

theorem spelledAlike_single (numerals : Numerals) : SpelledAlike (fun _ v => v) (single numerals) :=
  SpelledAlike.ofObject fun path path' v v' h =>
    ((((spelledAlike_integer numerals (by decide) path path' v v' h).map _).seq
      (spelledAlike_text (by decide) path path' v v' h)).seq
      (spelledAlike_text (by decide) path path' v v' h)).seq
      (spelledAlike_text (by decide) path path' v v' h)

theorem spelledAlike_batch (numerals : Numerals) : SpelledAlike (fun _ v => v) (batch numerals) :=
  SpelledAlike.ofObject fun path path' v v' h =>
    ((((spelledAlike_integer numerals (by decide) path path' v v' h).map _).seq
      (spelledAlike_text (by decide) path path' v v' h)).seq
      (spelledAlike_text (by decide) path path' v v' h)).seq
      (spelledAlike_texts (by decide) path path' v v' h)

theorem spelledAlike_removal (numerals : Numerals) :
    SpelledAlike (fun _ v => v) (removal numerals) :=
  SpelledAlike.ofObject fun path path' v v' h =>
    ((spelledAlike_integer numerals (by decide) path path' v v' h).map _).seq
      (spelledAlike_text (by decide) path path' v v' h)

/-- A request without an object around it may have one inside it, which does not matter. -/
theorem spelledAlike_refresh : SpelledAlike Json.camelInside refresh := by
  have htext : SpelledAlike Json.camelInside (optional text activationId) :=
    readsAlike_text.optional (by decide) fun _ => if_neg (by decide)
  exact SpelledAlike.ofObject fun path path' v v' h => (htext path path' v v' h).map _

/-- A field that is found is one of the fields of the object. -/
theorem FieldName.mem_of_find {fields : List (JsonString × Json)} {key : String} {value : Json}
    (hname : name ∈ fieldNames) (h : name.find (.object fields) = (key, some value)) :
    ∃ f ∈ fields, f.1.camel = .text name.camel ∧ f.2 = value := by
  have hkey := fun k => JsonString.camel_eq_iff hname (k := k)
  rw [find] at h
  split at h
  · next hcamel =>
    cases h
    exact ⟨_, Text.mem_of_lookup_eq_some hcamel, (hkey _).mpr (.inl rfl), rfl⟩
  · split at h
    · next hsnake =>
      cases h
      exact ⟨_, Text.mem_of_lookup_eq_some hsnake, (hkey _).mpr (.inr rfl), rfl⟩
    · cases h

/-- The object around a request and the request itself may be spelled each in its own way. -/
theorem SpelledAlike.enveloped {form : List PathStep → Json → Checked α}
    (hform : SpelledAlike (fun _ v => v) form)
    (hplace : path'.map PathStep.camel = path.map PathStep.camel) (hv : v.Unambiguous)
    (hsame : v'.camelRequest = v.camelRequest) :
    (enveloped form path v).Alike (enveloped form path' v') := by
  rcases Json.camel_eq_cases hsame with ⟨fields, fields', rfl, rfl⟩ | ⟨hnone, rfl⟩
  · have hname : requestObject ∈ fieldNames := by decide
    have hvalues := requestObject.find_of_camel_eq hname hv.outer hsame
    have hkey := requestObject.camelName_find hname (.object fields)
    have hkey' := requestObject.camelName_find hname (.object fields')
    rw [Schema.enveloped, Schema.ofObject, Schema.ofObject]
    rcases hfind : requestObject.find (.object fields) with ⟨key, _ | value⟩ <;>
      rcases hfind' : requestObject.find (.object fields') with ⟨key', _ | value'⟩ <;>
      rw [hfind, hfind'] at hvalues <;> rw [hfind] at hkey <;> rw [hfind'] at hkey'
    · -- Without a request the whole object is shown, so its names must not matter for showing it.
      refine alike_reject _ (map_camel_append hplace hkey hkey') ?_
      rw [← Json.extent_camelRequest (.object fields'), hsame, Json.extent_camelRequest]
    · cases hvalues
    · cases hvalues
    · obtain ⟨f, hf, hfkey, rfl⟩ := FieldName.mem_of_find hname hfind
      exact hform _ _ _ _ ⟨map_camel_append hplace hkey hkey', hv.inner fields rfl f hf hfkey,
        Option.some.inj hvalues⟩
  · rw [Schema.enveloped, Schema.ofObject.eq_def, Schema.ofObject.eq_def]
    split
    · exact absurd rfl (hnone _)
    · exact alike_reject _ hplace rfl

end Schema

/-- Bodies that differ in spelling ask for the same, or the same does not fit. -/
theorem OrderKind.alike_posting (framework : Framework) (kind : OrderKind) {v v' : Json}
    (hv : v.Unambiguous) (hsame : v'.camelRequest = v.camelRequest) :
    (kind.posting framework v).Alike (kind.posting framework v') := by
  cases kind with
  | single => exact (Schema.spelledAlike_single _).enveloped rfl hv hsame
  | batch => exact (Schema.spelledAlike_batch _).enveloped rfl hv hsame
  | refresh => exact Schema.spelledAlike_refresh [] [] v v' ⟨rfl, hv.outer, hsame⟩
  | removal => exact (Schema.spelledAlike_removal _).enveloped rfl hv hsame

/-! ### Requests -/

/-- Refusals that can both be shown or both not have the same status. -/
theorem WebResponse.status_malformed_congr {room : Nat} {shown shown' : List Json}
    (h : (malformed room shown').IsRefusal ↔ (malformed room shown).IsRefusal) :
    (malformed room shown').status = (malformed room shown).status := by
  rw [isRefusal_malformed_iff, isRefusal_malformed_iff] at h
  rw [malformed, malformed]
  simp only [h]
  split <;> rfl

/-- Whether what does not fit can be shown depends on its outlines. -/
theorem SchemaError.isRefusal_iff_of_outline_eq {room : Nat} (hroom : 2 ≤ room)
    {errors errors' : List SchemaError} (h : errors'.map outline = errors.map outline) :
    (WebResponse.malformed room (errors'.map toJson)).IsRefusal ↔
      (WebResponse.malformed room (errors.map toJson)).IsRefusal := by
  have hshown : ∀ es : List SchemaError, (WebResponse.malformed room (es.map toJson)).IsRefusal ↔
      ∀ o ∈ es.map outline, o.2.2.1 = true ∧ o.2.2.2 < room := by
    intro es
    rw [WebResponse.isRefusal_malformed_toJson_iff hroom, List.forall_mem_map]
    rfl
  rw [hshown, hshown, h]

namespace App

variable {app : App} {kind : OrderKind}

/-- Whether two runs of the service come to the same, but for what their answers say. -/
structure Handled.SameEffect (h h' : Handled) : Prop where
  status : h'.response.status = h.response.status
  table : h'.table = h.table
  asked : h'.asked = h.asked

theorem sameEffect_handleContent (app : App) (now : Int) (kind : OrderKind) {v v' : Json}
    (hv : v.Unambiguous) (hsame : v'.camelRequest = v.camelRequest) :
    (app.handleContent now kind (.value v)).SameEffect (app.handleContent now kind (.value v')) ∧
      ((∃ posting, kind.posting app.framework v = .fits posting) →
        app.handleContent now kind (.value v') = app.handleContent now kind (.value v)) := by
  have halike := kind.alike_posting app.framework hv hsame
  rw [handleContent, handleContent]
  cases hposting : kind.posting app.framework v with
  | fits posting =>
    rw [hposting] at halike
    rw [halike.fits]
    exact ⟨⟨rfl, rfl, rfl⟩, fun _ => rfl⟩
  | rejected errors =>
    rw [hposting] at halike
    obtain ⟨errors', hposting', houtlines⟩ := halike.rejected
    rw [hposting']
    refine ⟨⟨?_, rfl, rfl⟩, ?_⟩
    · exact WebResponse.status_malformed_congr
        (SchemaError.isRefusal_iff_of_outline_eq app.framework.two_le_showRoom houtlines)
    · rintro ⟨posting, ⟨⟩⟩

/-- Two requests for orders whose bodies differ only in the spelling of names are answered with the
same status, leave the same table and ask the same activations. If the first one fits, so does the
second, and the answers are the same. -/
theorem handle_respelled (app : App) (now : Int) {request : WebRequest} {body' : List UInt8}
    {v v' : Json}
    (hroute : Route.of request.origin request.path request.method = .found (.order kind))
    (hbody : Body.ofBytes app.framework request.contentType request.body = .ok (.value v))
    (hbody' : Body.ofBytes app.framework request.contentType body' = .ok (.value v'))
    (hv : v.Unambiguous) (hsame : v'.camelRequest = v.camelRequest) :
    let handled := app.handle now request
    let handled' := app.handle now { request with body := body' }
    handled.SameEffect handled' ∧
      ((∃ posting, kind.posting app.framework v = .fits posting) →
        handled'.response = handled.response) := by
  intro handled handled'
  have hhandled : handled = app.handleBody now kind request.contentType request.body :=
    handle_eq_handleBody hroute
  have hhandled' : handled' = app.handleBody now kind request.contentType body' :=
    handle_eq_handleBody hroute
  rw [hhandled, hhandled', handleBody, handleBody, hbody, hbody']
  by_cases happ : app.provides kind = true
  · obtain ⟨heffect, hfits⟩ := app.sameEffect_handleContent now kind hv hsame
    simp only [happ, if_true]
    exact ⟨heffect, fun h => congrArg Handled.response (hfits h)⟩
  · simp only [happ]
    exact ⟨⟨rfl, rfl, rfl⟩, fun _ => rfl⟩

end App

/-! ### A request in two spellings -/

/-- A request with the number of an application, under the names of its fields. -/
def WebRequest.numbered (envelope appId : String) : List Nat :=
  Json.enclosed envelope (Json.enclosed appId [0x31, Json.closeBrace, Json.closeBrace])

/-- The text of such a request is read as an object in an object. -/
theorem WebRequest.read_numbered (room : Nat) (envelope appId : String)
    (henvelope : (envelope.toList.map Char.toNat).all Json.isPlain = true)
    (happId : (appId.toList.map Char.toNat).all Json.isPlain = true) :
    Json.read (room + 2) (numbered envelope appId) =
      .ok (.record [(envelope, .record [(appId, .int 1)])]) := by
  have hone : Json.Reads room [0x31, Json.closeBrace, Json.closeBrace] (.int 1)
      [Json.closeBrace, Json.closeBrace] :=
    Json.reads_plain room (by decide) rfl
  exact ((hone.enclosed appId happId rfl).enclosed envelope henvelope rfl).read_eq rfl rfl

/-- What a JSON body holds is what its text is read as. -/
theorem Body.ofBytes_of_read (framework : Framework) {contentType : Option String} (text : String)
    {points : List Nat} {v : Json} (hjson : framework.takesJson contentType = true)
    (hsome : (Text.toUtf8 text).isEmpty = false)
    (hpoints : Text.points? (Text.toUtf8 text) = some points)
    (hread : Json.read framework.readRoom points = .ok v) :
    ofBytes framework contentType (Text.toUtf8 text) = .ok (.value v) := by
  simp only [ofBytes, hsome, hjson, ofJson, hpoints, hread]
  rfl

/-- A request to register a device, spelled with inner capitals. -/
def WebRequest.camelText : String := "\x7b\"requestObject\":\x7b\"appId\":1\x7d\x7d"

/-- The same request, spelled with lines between the words. -/
def WebRequest.snakeText : String := "\x7b\"request_object\":\x7b\"app_id\":1\x7d\x7d"

/-- The request comes to the same in both spellings, and is answered in the same way. -/
theorem App.handle_camel_snake :
    let request (text : String) := WebRequest.posting "application/json" (Text.toUtf8 text)
    let handled := App.fresh.handle 0 (request WebRequest.camelText)
    let handled' := App.fresh.handle 0 (request WebRequest.snakeText)
    handled.SameEffect handled' ∧ handled'.response = handled.response := by
  intro request handled handled'
  have hjson : Framework.standard.takesJson (some "application/json") = true := by decide +kernel
  have hcamel := Body.ofBytes_of_read .standard WebRequest.camelText hjson (by decide +kernel)
    (by decide +kernel) (WebRequest.read_numbered 898 "requestObject" "appId" (by decide +kernel)
      (by decide +kernel))
  have hsnake := Body.ofBytes_of_read .standard WebRequest.snakeText hjson (by decide +kernel)
    (by decide +kernel) (WebRequest.read_numbered 898 "request_object" "app_id" (by decide +kernel)
      (by decide +kernel))
  have hv : (Json.record [("requestObject", .record [("appId", .int 1)])]).Unambiguous := by
    refine ⟨show List.Nodup _ by decide, ?_⟩
    rintro _ ⟨⟩
    exact List.forall_mem_singleton.mpr fun _ => show List.Nodup _ by decide
  obtain ⟨heffect, hresponse⟩ := @handle_respelled .single .fresh 0 (request WebRequest.camelText)
    (Text.toUtf8 WebRequest.snakeText) _ _ WebRequest.route_posting hcamel hsnake hv (by decide)
  exact ⟨heffect, hresponse ⟨_, rfl⟩⟩

end PushRegistry
