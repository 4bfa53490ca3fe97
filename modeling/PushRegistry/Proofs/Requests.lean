import PushRegistry.Enrolment.Batch
import PushRegistry.Enrolment.Single

/-!
# Requests in order

A batch request is in order just if its device is and its activations are different texts with
content, at least one. So a request in order stays in order when it is narrowed to some of its
activations.

## Main definitions

* `BatchRequest.narrowed`: a request for some of its activations.

## Main results

* `Validation.requireActivations_eq_ok_iff`: the activations that are in order.
* `BatchRequest.checked_narrowed`: a request in order that is narrowed.
-/

namespace PushRegistry

namespace Validation

/-! ### Activations -/

theorem requireText_eq_ok_iff {value : Option String} {label s : String} :
    requireText value label = .ok s ↔ value = some s ∧ ¬ Text.AllBlank s := by
  cases value with
  | none => exact iff_of_false nofun nofun
  | some raw =>
    rw [requireText]
    by_cases hblank : Text.AllBlank raw
    · rw [if_pos hblank]
      refine iff_of_false nofun ?_
      rintro ⟨⟨⟩, hs⟩
      exact hs hblank
    · rw [if_neg hblank]
      constructor
      · rintro ⟨⟩
        exact ⟨rfl, hblank⟩
      · rintro ⟨⟨⟩, -⟩
        rfl

theorem requireText_of_blank {value : Option String} {label : String}
    (h : ∀ s, value = some s → Text.AllBlank s) :
    requireText value label = .error (.blankText label) := by
  cases value with
  | none => rfl
  | some s => exact if_pos (h s rfl)

/-- The first of several activations is in order if it has content and is none of those seen. -/
theorem requireDistinct_cons_eq_ok_iff {value : Option String} {rest : List (Option String)}
    {seen ids : List String} :
    requireDistinct seen (value :: rest) = .ok ids ↔
      ∃ a ids', requireText value "Activation ID" = .ok a ∧ a ∉ seen ∧
        requireDistinct (a :: seen) rest = .ok ids' ∧ ids = a :: ids' := by
  rw [requireDistinct, bind_eq_ok_iff]
  constructor
  · rintro ⟨a, htext, h⟩
    split at h
    · cases h
    · next hseen =>
      obtain ⟨ids', hrest, ⟨⟩⟩ := bind_eq_ok_iff.mp h
      exact ⟨a, ids', htext, hseen, hrest, rfl⟩
  · rintro ⟨a, ids', htext, hseen, hrest, rfl⟩
    refine ⟨a, htext, ?_⟩
    rw [if_neg hseen]
    exact bind_eq_ok_iff.mpr ⟨ids', hrest, rfl⟩

theorem requireDistinct_eq_ok_iff {values : List (Option String)} {seen ids : List String} :
    requireDistinct seen values = .ok ids ↔
      values = ids.map some ∧ (∀ a ∈ ids, ¬ Text.AllBlank a) ∧ ids.Nodup ∧
        ∀ a ∈ ids, a ∉ seen := by
  induction values generalizing seen ids with
  | nil =>
    constructor
    · rintro ⟨⟩
      exact ⟨rfl, nofun, List.nodup_nil, nofun⟩
    · rintro ⟨hvalues, -⟩
      rw [List.map_eq_nil_iff.mp hvalues.symm]
      rfl
  | cons value rest ih =>
    rw [requireDistinct_cons_eq_ok_iff]
    constructor
    · rintro ⟨a, ids', htext, hseen, hrest, rfl⟩
      obtain ⟨rfl, ha⟩ := requireText_eq_ok_iff.mp htext
      obtain ⟨rfl, hcontent, hnodup, hfresh⟩ := ih.mp hrest
      refine ⟨rfl, List.forall_mem_cons.mpr ⟨ha, hcontent⟩, List.nodup_cons.mpr ⟨fun hmem => ?_,
        hnodup⟩, List.forall_mem_cons.mpr ⟨hseen, fun c hc hmem => ?_⟩⟩
      · exact hfresh a hmem List.mem_cons_self
      · exact hfresh c hc (List.mem_cons_of_mem a hmem)
    · rintro ⟨hvalues, hcontent, hnodup, hfresh⟩
      cases ids with
      | nil => cases hvalues
      | cons a ids' =>
        obtain ⟨rfl, hrest⟩ := List.cons.inj hvalues
        obtain ⟨ha, hcontent⟩ := List.forall_mem_cons.mp hcontent
        obtain ⟨hmem, hnodup⟩ := List.nodup_cons.mp hnodup
        obtain ⟨hseen, hfresh⟩ := List.forall_mem_cons.mp hfresh
        refine ⟨a, ids', requireText_eq_ok_iff.mpr ⟨rfl, ha⟩, hseen, ih.mpr ⟨hrest, hcontent,
          hnodup, fun c hc => ?_⟩, rfl⟩
        rintro (_ | ⟨_, hcseen⟩)
        · exact hmem hc
        · exact hfresh c hc hcseen

/-- The activations in order are different texts with content, at least one. -/
theorem requireActivations_eq_ok_iff {values : Option (List (Option String))}
    {ids : List String} :
    requireActivations values = .ok ids ↔
      values = some (ids.map some) ∧ ids ≠ [] ∧ (∀ a ∈ ids, ¬ Text.AllBlank a) ∧ ids.Nodup := by
  match values with
  | none => exact iff_of_false nofun nofun
  | some [] =>
    refine iff_of_false nofun ?_
    rintro ⟨hvalues, hne, -⟩
    exact hne (List.map_eq_nil_iff.mp (Option.some.inj hvalues).symm)
  | some (value :: rest) =>
    change requireDistinct [] (value :: rest) = .ok ids ↔ _
    rw [requireDistinct_eq_ok_iff, Option.some_inj]
    constructor
    · rintro ⟨hvalues, hcontent, hnodup, -⟩
      refine ⟨hvalues, ?_, hcontent, hnodup⟩
      rintro rfl
      cases hvalues
    · rintro ⟨hvalues, -, hcontent, hnodup⟩
      exact ⟨hvalues, hcontent, hnodup, fun _ _ => List.not_mem_nil⟩

/-- The device of a request has the application, the token and the platform of the request. -/
theorem requireDevice_eq_ok_iff {appId : Option Int} {token platform : Option String}
    {device : Device} :
    requireDevice appId token platform = .ok device ↔
      requireApplication appId = .ok device.appId ∧
        requireText token "Push token" = .ok device.token ∧
        requirePlatform platform = .ok device.platform := by
  rw [requireDevice, bind_eq_ok_iff]
  constructor
  · rintro ⟨app, happ, h⟩
    obtain ⟨text, htext, h⟩ := bind_eq_ok_iff.mp h
    obtain ⟨p, hplatform, ⟨⟩⟩ := bind_eq_ok_iff.mp h
    exact ⟨happ, htext, hplatform⟩
  · rintro ⟨happ, htext, hplatform⟩
    exact ⟨_, happ, bind_eq_ok_iff.mpr ⟨_, htext, bind_eq_ok_iff.mpr ⟨_, hplatform, rfl⟩⟩⟩

end Validation

/-! ### Single requests -/

theorem SingleRequest.checked_eq_ok_iff {request : SingleRequest} {device : Device} {a : String} :
    request.checked = .ok (device, a) ↔
      Validation.requireDevice request.appId request.token request.platform = .ok device ∧
        Validation.requireText request.activationId "Activation ID" = .ok a := by
  rw [checked, bind_eq_ok_iff]
  constructor
  · rintro ⟨d, hdevice, h⟩
    obtain ⟨s, htext, ⟨⟩⟩ := bind_eq_ok_iff.mp h
    exact ⟨hdevice, htext⟩
  · rintro ⟨hdevice, htext⟩
    exact ⟨device, hdevice, bind_eq_ok_iff.mpr ⟨a, htext, rfl⟩⟩

/-! ### Batch requests -/

namespace BatchRequest

variable {request : BatchRequest} {device : Device} {ids kept : List String}

theorem checked_eq_ok_iff :
    request.checked = .ok (device, ids) ↔
      Validation.requireDevice request.appId request.token request.platform = .ok device ∧
        Validation.requireActivations request.activationIds = .ok ids := by
  rw [checked, bind_eq_ok_iff]
  constructor
  · rintro ⟨d, hdevice, h⟩
    obtain ⟨l, hids, ⟨⟩⟩ := bind_eq_ok_iff.mp h
    exact ⟨hdevice, hids⟩
  · rintro ⟨hdevice, hids⟩
    exact ⟨device, hdevice, bind_eq_ok_iff.mpr ⟨ids, hids, rfl⟩⟩

/-- The activations of a request that is in order are different. -/
theorem nodup_of_checked (h : request.checked = .ok (device, ids)) : ids.Nodup := by
  obtain ⟨-, hids⟩ := checked_eq_ok_iff.mp h
  obtain ⟨-, -, -, hnodup⟩ := Validation.requireActivations_eq_ok_iff.mp hids
  exact hnodup

/-- A request for some activations instead of its own. -/
def narrowed (request : BatchRequest) (activationIds : List String) : BatchRequest :=
  { request with activationIds := some (activationIds.map some) }

/-- A request in order is in order for some of its activations, at least one. -/
theorem checked_narrowed (h : request.checked = .ok (device, ids)) (hkept : kept.Sublist ids)
    (hne : kept ≠ []) : (request.narrowed kept).checked = .ok (device, kept) := by
  obtain ⟨hdevice, hids⟩ := checked_eq_ok_iff.mp h
  obtain ⟨-, -, hcontent, hnodup⟩ := Validation.requireActivations_eq_ok_iff.mp hids
  refine checked_eq_ok_iff.mpr ⟨hdevice, Validation.requireActivations_eq_ok_iff.mpr
    ⟨rfl, hne, fun a ha => hcontent a (hkept.subset ha), hnodup.sublist hkept⟩⟩

end BatchRequest

end PushRegistry
