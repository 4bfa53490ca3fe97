import PushRegistry.Proofs.Json.Reading
import PushRegistry.Web.Server

/-!
# Answers to malformed requests

A request whose body does not fit its form is refused before any work: the table stays as it is and
the activation service is not asked. The refusal shows the values that do not fit, and an answer is
standard JSON in UTF-8. So a request is not refused but fails unexpectedly if its body is no text,
or if a value that does not fit cannot be written as such JSON, which a number that is not finite
and a surrogate without its partner cannot, or is nested deeper than there is room for.

A value that does not fit is a part of the value that was sent. This is shown by the structure of
the forms: each of them hands on a part of its value or rejects it.

## Main definitions

* `Json.IsShowable`: values that an answer can show.
* `Checked.Showable`: checks whose rejected values can be shown.
* `Schema.Shows`: readings that can show what they reject of a value that can be shown.
* `OrderKind.decode?`: what the bytes of a body ask for.
* `OrderKind.CanRefuse`: bodies of which it can be shown what does not fit.
* `WebResponse.IsRefusal`: answers that say that a request is malformed.

## Main results

* `OrderKind.shows_posting`: of a value that can be shown it can be shown what does not fit.
* `WebResponse.IsRefusal.status_eq`: a refusal is the client's error.
* `App.handle_malformed`: what a malformed request comes to.
-/

namespace PushRegistry

/-! ### Values that can be shown -/

namespace Json

variable {room : Nat} {object value : Json}

/-- Whether a value can be sent as it is shown and there is room for it. -/
def IsShowable (room : Nat) (v : Json) : Prop :=
  v.shown.isSendable = true ∧ v.shown.depth < room

theorem areSendable_iff {vs : List Json} :
    areSendable vs = true ↔ ∀ v ∈ vs, v.isSendable = true := by
  induction vs with
  | nil => simp [areSendable]
  | cons v vs ih => simp [areSendable, ih]

theorem itemsDepth_le_iff {vs : List Json} {n : Nat} :
    itemsDepth vs ≤ n ↔ ∀ v ∈ vs, v.depth ≤ n := by
  induction vs with
  | nil => simp [itemsDepth]
  | cons v vs ih => rw [itemsDepth, Nat.max_le, ih, List.forall_mem_cons]

theorem mem_shownItems {items : List Json} (h : value ∈ items) :
    value.shown ∈ shownItems items := by
  induction items with
  | nil => cases h
  | cons v items ih =>
    rw [shownItems]
    rcases List.mem_cons.mp h with rfl | h
    · exact List.mem_cons_self
    · exact List.mem_cons_of_mem _ (ih h)

/-- The items of a list that can be shown can be shown. -/
theorem IsShowable.of_mem {items : List Json} (h : (list items).IsShowable room)
    (hvalue : value ∈ items) : value.IsShowable room := by
  have hshown := mem_shownItems hvalue
  refine ⟨areSendable_iff.mp h.1 _ hshown, ?_⟩
  have hitem : value.shown.depth ≤ itemsDepth (shownItems items) :=
    itemsDepth_le_iff.mp (Nat.le_refl _) _ hshown
  have hlist : itemsDepth (shownItems items) + 1 < room := h.2
  omega

/-- A field that is not internal is shown with its value. -/
theorem mem_shownFields {fields : List (JsonString × Json)} {name : JsonString}
    (hname : name.isInternal = false) (hlookup : fields.lookup name = some value) :
    (name, value.shown) ∈ shownFields fields := by
  induction fields with
  | nil => cases hlookup
  | cons f fields ih =>
    obtain ⟨k, v⟩ := f
    rw [List.lookup_cons] at hlookup
    rw [shownFields]
    split at hlookup
    · next hkey =>
      obtain rfl := eq_of_beq hkey
      cases hlookup
      rw [if_neg (by simp [hname])]
      exact List.mem_cons_self
    · split
      · exact ih hlookup
      · exact List.mem_cons_of_mem _ (ih hlookup)

theorem isSendable_of_mem {fields : List (JsonString × Json)} {name : JsonString}
    (h : fieldsSendable fields = true) (hmem : (name, value) ∈ fields) :
    value.isSendable = true := by
  induction fields with
  | nil => cases hmem
  | cons f fields ih =>
    rw [fieldsSendable, Bool.and_eq_true, Bool.and_eq_true] at h
    rcases List.mem_cons.mp hmem with rfl | hmem
    · exact h.1.2
    · exact ih h.2 hmem

theorem depth_le_of_mem {fields : List (JsonString × Json)} {name : JsonString}
    (hmem : (name, value) ∈ fields) : value.depth ≤ fieldsDepth fields := by
  induction fields with
  | nil => cases hmem
  | cons f fields ih =>
    rw [fieldsDepth]
    rcases List.mem_cons.mp hmem with rfl | hmem
    · exact Nat.le_max_left _ _
    · exact Nat.le_trans (ih hmem) (Nat.le_max_right _ _)

/-- The fields of an object that can be shown can be shown, but for internal ones. -/
theorem IsShowable.of_field? {name : String} (h : object.IsShowable room)
    (hname : (JsonString.text name).isInternal = false)
    (hfield : object.field? name = some value) : value.IsShowable room := by
  cases object with
  | object fields =>
    have hshown := mem_shownFields hname hfield
    refine ⟨isSendable_of_mem h.1 hshown, ?_⟩
    have hvalue : value.shown.depth ≤ fieldsDepth (shownFields fields) := depth_le_of_mem hshown
    have hobject : fieldsDepth (shownFields fields) + 1 < room := h.2
    omega
  | _ => cases hfield

end Json

namespace Schema

/-- The fields of the forms. -/
def fieldNames : List FieldName :=
  [requestObject, appId, token, platform, activationId, activationIds]

/-- No field of a form is internal. -/
theorem isInternal_of_mem {name : FieldName} (h : name ∈ fieldNames) :
    (JsonString.text name.camel).isInternal = false ∧
      (JsonString.text name.snake).isInternal = false := by
  have hall : ∀ n ∈ fieldNames, (JsonString.text n.camel).isInternal = false ∧
      (JsonString.text n.snake).isInternal = false := by decide +kernel
  exact hall name h

theorem FieldName.isShowable_of_find {name : FieldName} {room : Nat} {object value : Json}
    {key : String} (hname : name ∈ fieldNames) (h : object.IsShowable room)
    (hfind : name.find object = (key, some value)) : value.IsShowable room := by
  rw [find] at hfind
  split at hfind
  · next hcamel =>
    cases hfind
    exact h.of_field? (isInternal_of_mem hname).1 hcamel
  · split at hfind
    · next hsnake =>
      cases hfind
      exact h.of_field? (isInternal_of_mem hname).2 hsnake
    · cases hfind

end Schema

/-! ### Checks -/

namespace Checked

variable {α β : Type} {room : Nat}

/-- Whether all values that a check has rejected can be shown. -/
def Showable (room : Nat) (c : Checked α) : Prop :=
  ∀ errors, c = rejected errors → ∀ e ∈ errors, e.input.IsShowable room

theorem showable_pure (a : α) : (pure a : Checked α).Showable room := by
  rintro errors ⟨⟩

theorem showable_rejected_iff {errors : List SchemaError} :
    (rejected errors : Checked α).Showable room ↔ ∀ e ∈ errors, e.input.IsShowable room := by
  constructor
  · exact fun h => h errors rfl
  · rintro h _ ⟨⟩
    exact h

theorem showable_reject {input : Json} (h : input.IsShowable room) (fault : SchemaFault)
    (path : List PathStep) : (reject fault path input : Checked α).Showable room := by
  refine showable_rejected_iff.mpr fun e he => ?_
  rw [List.mem_singleton.mp he]
  exact h

theorem Showable.seq {f : Checked (α → β)} {c : Checked α} (hf : f.Showable room)
    (hc : c.Showable room) : (f <*> c).Showable room := by
  change (apply f c).Showable room
  cases f with
  | fits f =>
    cases c with
    | fits a => exact showable_pure (f a)
    | rejected fs => exact showable_rejected_iff.mpr (showable_rejected_iff.mp hc)
  | rejected es =>
    have hes := showable_rejected_iff.mp hf
    cases c with
    | fits a => exact showable_rejected_iff.mpr hes
    | rejected fs =>
      exact showable_rejected_iff.mpr
        (List.forall_mem_append.mpr ⟨hes, showable_rejected_iff.mp hc⟩)

theorem Showable.map {c : Checked α} (hc : c.Showable room) (f : α → β) :
    (f <$> c).Showable room :=
  (showable_pure f).seq hc

end Checked

/-! ### Forms -/

namespace Schema

open Checked

variable {α β : Type} {room : Nat}

/-- Whether all that a reading rejects of a value that can be shown can be shown. -/
def Shows (room : Nat) (reading : List PathStep → Json → Checked α) : Prop :=
  ∀ path value, value.IsShowable room → (reading path value).Showable room

theorem shows_requiredText : Shows room requiredText := by
  intro path value h
  rw [requiredText.eq_def]
  split
  · exact showable_pure _
  · exact showable_reject h _ _

theorem shows_text : Shows room text := by
  intro path value h
  rw [text]
  split
  · exact showable_pure _
  · exact (shows_requiredText path value h).map _

theorem showable_textItems (path : List PathStep) (index : Nat) {items : List Json}
    (h : ∀ v ∈ items, v.IsShowable room) : (textItems path index items).Showable room := by
  induction items generalizing index with
  | nil => exact showable_pure _
  | cons v items ih =>
    obtain ⟨hv, hitems⟩ := List.forall_mem_cons.mp h
    exact ((shows_requiredText _ v hv).map _).seq (ih (index + 1) hitems)

theorem shows_texts : Shows room texts := by
  intro path value h
  rw [texts.eq_def]
  split
  · exact showable_pure _
  · exact (showable_textItems path 0 fun v hv => h.of_mem hv).map _
  · exact showable_reject h _ _

theorem shows_integer (numerals : Numerals) : Shows room (integer numerals) := by
  intro path value h
  rw [integer]
  split
  · exact showable_pure _
  · split
    · exact showable_pure _
    · exact showable_reject h _ _

theorem Shows.optional {reading : Reading α} (hreading : Shows room reading) {name : FieldName}
    (hname : name ∈ fieldNames) : Shows room (optional reading name) := by
  intro path object h
  rw [Schema.optional]
  split
  · exact showable_pure _
  · next key value hfind => exact hreading _ value (name.isShowable_of_find hname h hfind)

theorem Shows.ofObject {form : List PathStep → Json → Checked α} (hform : Shows room form) :
    Shows room (ofObject form) := by
  intro path value h
  rw [Schema.ofObject.eq_def]
  split
  · exact hform path _ h
  · exact showable_reject h _ _

/-- Without its envelope the whole request is rejected, else a part of it. -/
theorem Shows.enveloped {form : List PathStep → Json → Checked α} (hform : Shows room form) :
    Shows room (enveloped form) := by
  refine Shows.ofObject fun path object h => ?_
  split
  · exact showable_reject h _ _
  · next key value hfind =>
    exact hform _ value (requestObject.isShowable_of_find (by decide) h hfind)

theorem shows_single (numerals : Numerals) : Shows room (single numerals) :=
  Shows.ofObject fun path object h =>
    (((((shows_integer numerals).optional (by decide) path object h).map _).seq
      (shows_text.optional (by decide) path object h)).seq
      (shows_text.optional (by decide) path object h)).seq
      (shows_text.optional (by decide) path object h)

theorem shows_batch (numerals : Numerals) : Shows room (batch numerals) :=
  Shows.ofObject fun path object h =>
    (((((shows_integer numerals).optional (by decide) path object h).map _).seq
      (shows_text.optional (by decide) path object h)).seq
      (shows_text.optional (by decide) path object h)).seq
      (shows_texts.optional (by decide) path object h)

theorem shows_refresh : Shows room refresh :=
  Shows.ofObject fun path object h => (shows_text.optional (by decide) path object h).map _

theorem shows_removal (numerals : Numerals) : Shows room (removal numerals) :=
  Shows.ofObject fun path object h =>
    (((shows_integer numerals).optional (by decide) path object h).map _).seq
      (shows_text.optional (by decide) path object h)

end Schema

namespace OrderKind

variable {framework : Framework}

/-- Of a value that can be shown it can be shown what does not fit, whatever the order. -/
theorem shows_posting (kind : OrderKind) {v : Json} (h : v.IsShowable framework.showRoom) :
    (kind.posting framework v).Showable framework.showRoom := by
  cases kind with
  | single => exact (Schema.shows_single _).enveloped [] v h
  | batch => exact (Schema.shows_batch _).enveloped [] v h
  | refresh => exact Schema.shows_refresh [] v h
  | removal => exact (Schema.shows_removal _).enveloped [] v h

/-- What the bytes of a body ask for as an order of a kind, if they fit its form. -/
def decode? (framework : Framework) (kind : OrderKind) (contentType : Option String)
    (body : List UInt8) : Option Posting :=
  match Body.ofBytes framework contentType body with
  | .ok (.value v) =>
    match kind.posting framework v with
    | .fits posting => some posting
    | .rejected _ => none
  | _ => none

/-- Whether it can be shown what does not fit in a body. -/
def CanRefuse (framework : Framework) (kind : OrderKind) (contentType : Option String)
    (body : List UInt8) : Prop :=
  Body.ofBytes framework contentType body ≠ .ok .binary ∧
    ∀ v, Body.ofBytes framework contentType body = .ok (.value v) →
      (kind.posting framework v).Showable framework.showRoom

end OrderKind

/-! ### Answers -/

theorem PathStep.isSendable_toJson (step : PathStep) : step.toJson.isSendable = true := by
  cases step <;> rfl

/-- An error can be sent if the value in it can be, as it is shown. -/
theorem SchemaError.isSendable_toJson (e : SchemaError) :
    e.toJson.isSendable = e.input.shown.isSendable := by
  have hpath : Json.areSendable (e.path.map PathStep.toJson) = true :=
    Json.areSendable_iff.mpr (List.forall_mem_map.mpr fun step _ => step.isSendable_toJson)
  simp [toJson, Json.record, Json.isSendable, Json.fieldsSendable, Json.areSendable,
    JsonString.isText, hpath]

theorem PathStep.depth_toJson (step : PathStep) : step.toJson.depth = 0 := by
  cases step <;> rfl

/-- An error is as deep as the value in it, as it is shown, with the way to that beside it. -/
theorem SchemaError.depth_toJson (e : SchemaError) :
    e.toJson.depth = max 2 (e.input.shown.depth + 1) := by
  have hpath : Json.itemsDepth (e.path.map PathStep.toJson) = 0 :=
    Nat.le_zero.mp (Json.itemsDepth_le_iff.mpr
      (List.forall_mem_map.mpr fun step _ => Nat.le_of_eq step.depth_toJson))
  simp only [toJson, Json.record, Json.depth, Json.itemsDepth, Json.fieldsDepth, List.map_cons,
    List.map_nil, hpath]
  omega

namespace WebResponse

variable {room : Nat} {errors : List SchemaError} {shown : List Json}

/-- Whether an answer says that a request is malformed: its body cannot be read, or it does not
fit. -/
def IsRefusal (r : WebResponse) : Prop :=
  r = plain 400 "There was an error parsing the body" ∨
    ∃ errors, r = report (malformedReport errors)

/-- A refusal is an error of the client, and its content says which. -/
theorem IsRefusal.status_eq {r : WebResponse} (h : r.IsRefusal) :
    (r.status = 400 ∧ r.content.bind (Json.field? "code") = some (.text "http_error")) ∨
      r.status = 422 ∧ r.content.bind (Json.field? "code") = some (.text "validation_error") := by
  rcases h with rfl | ⟨errors, rfl⟩
  · exact .inl ⟨rfl, rfl⟩
  · exact .inr ⟨rfl, rfl⟩

theorem not_isRefusal_unexpected : ¬ unexpected.IsRefusal := by
  intro h
  rcases h.status_eq with ⟨hstatus, -⟩ | ⟨hstatus, -⟩ <;> cases hstatus

/-- Errors are shown just if they can be sent and there is room for them. -/
theorem isRefusal_malformed_iff :
    (malformed room shown).IsRefusal ↔
      Json.areSendable shown = true ∧ Json.itemsDepth shown ≤ room := by
  rw [malformed]
  split
  · next h => exact iff_of_true (.inr ⟨shown, rfl⟩) h
  · next h => exact iff_of_false not_isRefusal_unexpected h

/-- What does not fit is shown just if all of it can be shown. -/
theorem isRefusal_malformed_toJson_iff (hroom : 2 ≤ room) :
    (malformed room (errors.map SchemaError.toJson)).IsRefusal ↔
      ∀ e ∈ errors, e.input.IsShowable room := by
  have herror : ∀ e : SchemaError,
      e.toJson.isSendable = true ∧ e.toJson.depth ≤ room ↔ e.input.IsShowable room := by
    intro e
    rw [e.isSendable_toJson, e.depth_toJson, Nat.max_le, and_iff_right hroom]
    rfl
  rw [isRefusal_malformed_iff, Json.areSendable_iff, Json.itemsDepth_le_iff, List.forall_mem_map,
    List.forall_mem_map]
  constructor
  · rintro ⟨hsendable, hdepth⟩ e he
    exact (herror e).mp ⟨hsendable e he, hdepth e he⟩
  · intro h
    exact ⟨fun e he => ((herror e).mpr (h e he)).1, fun e he => ((herror e).mpr (h e he)).2⟩

theorem malformed_eq_unexpected (h : ¬ (malformed room shown).IsRefusal) :
    malformed room shown = unexpected := by
  rw [malformed, if_neg fun hshown => h (isRefusal_malformed_iff.mpr hshown)]

end WebResponse

/-! ### Requests -/

/-- Orders are taken by one method only. -/
theorem Route.method_of_found {origin path method : String} {kind : OrderKind}
    (h : Route.of origin path method = .found (.order kind)) : method = "POST" := by
  rw [Route.of] at h
  split at h
  · rw [ofAddress] at h
    split at h
    · next endpoint _ =>
      by_cases hmethod : endpoint.method = method
      · rw [if_pos hmethod] at h
        cases h
        exact hmethod.symm
      · rw [if_neg hmethod] at h
        cases h
    · dsimp only at h
      split at h <;> cases h
  · cases h

namespace OrderKind

variable {framework : Framework} {kind : OrderKind} {contentType : Option String}
  {body : List UInt8}

/-- It can be shown what does not fit in a text, unless the value in it cannot be shown. -/
theorem canRefuse_of_isShowable
    (htext : Body.ofBytes framework contentType body ≠ .ok .binary)
    (h : ∀ v, Body.ofBytes framework contentType body = .ok (.value v) →
      v.IsShowable framework.showRoom) : kind.CanRefuse framework contentType body :=
  ⟨htext, fun v hv => kind.shows_posting (h v hv)⟩

theorem canRefuse_of_error {fault : BodyFault}
    (h : Body.ofBytes framework contentType body = .error fault) :
    kind.CanRefuse framework contentType body := by
  rw [CanRefuse, h]
  exact ⟨nofun, nofun⟩

theorem canRefuse_of_absent (h : Body.ofBytes framework contentType body = .ok .absent) :
    kind.CanRefuse framework contentType body := by
  rw [CanRefuse, h]
  exact ⟨nofun, nofun⟩

theorem canRefuse_iff_of_value {v : Json}
    (h : Body.ofBytes framework contentType body = .ok (.value v)) :
    kind.CanRefuse framework contentType body ↔
      (kind.posting framework v).Showable framework.showRoom := by
  rw [CanRefuse, h]
  constructor
  · exact fun hshown => hshown.2 v rfl
  · exact fun hshown => ⟨nofun, by rintro _ ⟨⟩; exact hshown⟩

end OrderKind

namespace App

variable {app : App} {kind : OrderKind}

/-- A request for an order is answered from its body. -/
theorem handle_eq_handleBody {now : Int} {request : WebRequest}
    (hroute : Route.of request.origin request.path request.method = .found (.order kind)) :
    app.handle now request = app.handleBody now kind request.contentType request.body := by
  rw [handle, handleWhole, hroute, Route.method_of_found hroute]
  rfl

/-- A body that does not fit is answered without any work. -/
theorem handleBody_malformed (now : Int) {contentType : Option String} {body : List UInt8}
    (happ : app.provides kind = true)
    (hbody : kind.decode? app.framework contentType body = none) :
    ∃ r, app.handleBody now kind contentType body = app.answer r ∧
      (r.IsRefusal ↔ kind.CanRefuse app.framework contentType body) ∧
      (¬ r.IsRefusal → r = .unexpected) := by
  have hroom := app.framework.two_le_showRoom
  rw [handleBody, happ]
  rw [OrderKind.decode?] at hbody
  rcases hcontent : Body.ofBytes app.framework contentType body with
    (_ | ⟨fault, offset⟩) | _ | v | _
  case error.unreadable =>
    have hrefusal : (WebResponse.plain 400 "There was an error parsing the body").IsRefusal :=
      .inl rfl
    exact ⟨_, rfl, iff_of_true hrefusal (OrderKind.canRefuse_of_error hcontent), absurd hrefusal⟩
  case error.malformed =>
    have hrefusal : (WebResponse.malformed app.framework.showRoom
        [Body.faultJson fault offset]).IsRefusal :=
      WebResponse.isRefusal_malformed_iff.mpr ⟨rfl, hroom⟩
    exact ⟨_, rfl, iff_of_true hrefusal (OrderKind.canRefuse_of_error hcontent), absurd hrefusal⟩
  case ok.absent =>
    have hrefusal : (WebResponse.malformed app.framework.showRoom
        [SchemaError.toJson ⟨.missing, [], .null⟩]).IsRefusal :=
      WebResponse.isRefusal_malformed_iff.mpr ⟨rfl, hroom⟩
    exact ⟨_, rfl, iff_of_true hrefusal (OrderKind.canRefuse_of_absent hcontent), absurd hrefusal⟩
  case ok.value =>
    rw [hcontent] at hbody
    cases hposting : kind.posting app.framework v with
    | fits posting => simp only [hposting, reduceCtorEq] at hbody
    | rejected errors =>
      refine ⟨.malformed app.framework.showRoom (errors.map SchemaError.toJson), ?_, ?_,
        WebResponse.malformed_eq_unexpected⟩
      · change app.handleContent now kind (.value v) = _
        rw [handleContent, hposting]
        rfl
      · rw [WebResponse.isRefusal_malformed_toJson_iff hroom,
          OrderKind.canRefuse_iff_of_value hcontent, hposting, Checked.showable_rejected_iff]
  case ok.binary =>
    exact ⟨_, rfl, iff_of_false WebResponse.not_isRefusal_unexpected fun h => h.1 hcontent,
      fun _ => rfl⟩

/-- A request whose body does not fit is not carried out. It is refused if it can be shown what does
not fit, and so always if the body is text and what is in it can be shown; otherwise it fails
unexpectedly. -/
theorem handle_malformed (now : Int) {request : WebRequest} (happ : app.provides kind = true)
    (hroute : Route.of request.origin request.path request.method = .found (.order kind))
    (hbody : kind.decode? app.framework request.contentType request.body = none) :
    let handled := app.handle now request
    let held := Body.ofBytes app.framework request.contentType request.body
    handled.table = app.table ∧ handled.asked = [] ∧
      (handled.response.IsRefusal ↔
        kind.CanRefuse app.framework request.contentType request.body) ∧
      (¬ handled.response.IsRefusal → handled.response = .unexpected) ∧
      (held ≠ .ok .binary →
        (∀ v, held = .ok (.value v) → v.IsShowable app.framework.showRoom) →
          handled.response.IsRefusal) := by
  intro handled held
  obtain ⟨r, hr, hrefusal, hunexpected⟩ := handleBody_malformed now happ hbody
  have hhandled : handled = app.answer r := (handle_eq_handleBody hroute).trans hr
  rw [hhandled]
  exact ⟨rfl, rfl, hrefusal, hunexpected, fun htext hshowable =>
    hrefusal.mpr (OrderKind.canRefuse_of_isShowable htext hshowable)⟩

end App

/-! ### Two malformed requests -/

/-- A service without registrations whose activation service knows no activation. -/
def App.fresh : App := ⟨.standard, .empty, true, some fun _ => .ok none, true⟩

/-- A request to register a device for one activation, with a body of some type. -/
def WebRequest.posting (contentType : String) (body : List UInt8) : WebRequest :=
  ⟨"POST", "http://testserver", "/push/device/create", some contentType, body⟩

theorem WebRequest.route_posting :
    Route.of "http://testserver" "/push/device/create" "POST" = .found (.order .single) := by
  decide +kernel

/-- The text `x`, which is no JSON, is refused as no object. -/
theorem App.handle_malformed_text :
    let request := WebRequest.posting "text/plain" [0x78]
    let handled := App.fresh.handle 0 request
    OrderKind.single.decode? .standard request.contentType request.body = none ∧
      handled.response.IsRefusal ∧ handled.table = .empty ∧ handled.asked = [] := by
  intro request handled
  have hcontent : Body.ofBytes .standard (some "text/plain") [0x78] = .ok (.value (.text "x")) := by
    have hjson : Framework.standard.takesJson (some "text/plain") = false := by decide +kernel
    have htext : Text.utf8? [0x78] = some "x" := by decide +kernel
    simp [Body.ofBytes, hjson, Body.ofText, htext]
  have hbody : OrderKind.single.decode? .standard (some "text/plain") [0x78] = none := by
    rw [OrderKind.decode?, hcontent]
    rfl
  obtain ⟨htable, hasked, -, -, hrefusal⟩ :=
    @App.handle_malformed .fresh .single 0 request rfl WebRequest.route_posting hbody
  refine ⟨hbody, hrefusal ?_ fun v hv => ?_, htable, hasked⟩
  · exact fun h => nomatch hcontent.symm.trans h
  · cases hcontent.symm.trans hv
    exact ⟨rfl, show 0 < 900 by decide⟩

/-- The document `NaN` is a number that is not finite. -/
theorem Json.read_nan (room : Nat) : Json.read room [0x4E, 0x61, 0x4E] = .ok (.float .nan) := by
  have hnan : Json.Reads room [0x4E, 0x61, 0x4E] (.float .nan) [] :=
    Json.reads_plain room (by decide) rfl
  exact hnan.read_eq rfl rfl

/-- The document `NaN` does not fit, and a refusal cannot show it. -/
theorem App.handle_nan :
    let request := WebRequest.posting "application/json" [0x4E, 0x61, 0x4E]
    let handled := App.fresh.handle 0 request
    App.fresh.provides .single = true ∧
      Route.of request.origin request.path request.method = .found (.order .single) ∧
      OrderKind.single.decode? .standard request.contentType request.body = none ∧
      handled.response.status = 500 ∧ ¬ handled.response.IsRefusal := by
  intro request handled
  have hcontent : Body.ofBytes .standard request.contentType request.body =
      .ok (.value (.float .nan)) := by
    have hjson : Framework.standard.takesJson (some "application/json") = true := by decide +kernel
    have hpoints : Text.points? [0x4E, 0x61, 0x4E] = some [0x4E, 0x61, 0x4E] := by decide +kernel
    simp [request, WebRequest.posting, Body.ofBytes, hjson, Body.ofJson, hpoints, Json.read_nan]
  have hresponse : handled.response = .unexpected := by
    have hhandled : handled = _ := App.handle_eq_handleBody WebRequest.route_posting
    rw [hhandled, App.handleBody, show App.fresh.framework = .standard from rfl, hcontent]
    rfl
  refine ⟨rfl, WebRequest.route_posting, ?_, ?_, ?_⟩
  · rw [OrderKind.decode?, hcontent]
    rfl
  · rw [hresponse]
    rfl
  · rw [hresponse]
    exact WebResponse.not_isRefusal_unexpected

end PushRegistry
