import Mathlib.Data.List.Nodup
import Mathlib.Data.Nat.Find
import Mathlib.Data.Set.List
import Mathlib.Order.Bounds.Basic
import PushRegistry.Proofs.Requests

/-!
# Activations listed in a request

A list of activations is in order if each of them has content and no two are the same. In any other
list there is a first activation at fault: it has no content, or it stands in the list before. All
activations before it are in order, so the check comes as far as that one and complains about it,
whatever follows.

## Main definitions

* `Validation.InOrder`: the lists of activations in order.
* `Validation.AtFault`: the places of a list at which something is wrong.
* `Validation.RefusedWith`: the lists that are refused with a report.

## Main results

* `Validation.inOrder_iff_forall_not_atFault`: a list is in order if no place of it is at fault.
* `Validation.requireDistinct_append`: the check of a list goes on where that of its first part
  ended.
* `Validation.exists_split_of_isLeast`: what stands before the first fault passes the check.
* `Validation.exists_requireActivations_eq_ok_iff`: the lists that are taken as they are.
* `Validation.requireActivations_verdict`: what comes of a list of activations.
-/

namespace PushRegistry

namespace Validation

variable {values rest : List (Option String)} {value : Option String} {seen ids : List String}
  {i j : Nat}

/-! ### Lists in order -/

/-- Whether there is no text at all, or one without content. -/
def WithoutContent (value : Option String) : Prop := ∀ s ∈ value, Text.AllBlank s

/-- A list of activations that have content and are different. -/
structure InOrder (values : List (Option String)) : Prop where
  content : ∀ value ∈ values, ¬ WithoutContent value
  distinct : values.Nodup

/-- Whether the activation at a place has no content or stands at an earlier place too. -/
def AtFault (values : List (Option String)) (i : Nat) : Prop :=
  ∃ value, values[i]? = some value ∧ (WithoutContent value ∨ ∃ j < i, values[j]? = some value)

instance (value : Option String) : Decidable (WithoutContent value) :=
  inferInstanceAs (Decidable (∀ s ∈ value, Text.AllBlank s))

instance (values : List (Option String)) (i : Nat) : Decidable (AtFault values i) :=
  inferInstanceAs
    (Decidable (∃ value ∈ values[i]?, WithoutContent value ∨ ∃ j < i, values[j]? = some value))

theorem not_withoutContent_iff :
    ¬ WithoutContent value ↔ ∃ a, value = some a ∧ ¬ Text.AllBlank a := by
  cases value with
  | none => simp [WithoutContent]
  | some s => simp [WithoutContent]

theorem inOrder_iff_exists_ids :
    InOrder values ↔
      ∃ ids : List String, values = ids.map some ∧ (∀ a ∈ ids, ¬ Text.AllBlank a) ∧ ids.Nodup := by
  constructor
  · rintro ⟨hcontent, hdistinct⟩
    have htexts : values ∈ Set.range (List.map some) := by
      rw [Set.range_list_map]
      intro value hvalue
      obtain ⟨a, rfl, -⟩ := not_withoutContent_iff.mp (hcontent value hvalue)
      exact ⟨a, rfl⟩
    obtain ⟨ids, rfl⟩ := htexts
    refine ⟨ids, rfl, fun a ha => ?_, hdistinct.of_map some⟩
    obtain ⟨a', ⟨⟩, ha'⟩ := not_withoutContent_iff.mp (hcontent _ (List.mem_map_of_mem ha))
    exact ha'
  · rintro ⟨ids, rfl, hcontent, hdistinct⟩
    refine ⟨List.forall_mem_map.mpr fun a ha => ?_, hdistinct.map (Option.some_injective _)⟩
    exact not_withoutContent_iff.mpr ⟨a, rfl, hcontent a ha⟩

/-- A list is in order if nothing is wrong at any place of it. -/
theorem inOrder_iff_forall_not_atFault : InOrder values ↔ ∀ i, ¬ AtFault values i := by
  constructor
  · rintro h i ⟨value, hvalue, hblank | ⟨j, hj, hearlier⟩⟩
    · exact h.content value (List.mem_of_getElem? hvalue) hblank
    · have hlength : j < values.length := (List.getElem?_eq_some_iff.mp hearlier).1
      exact hj.ne ((List.getElem?_inj hlength h.distinct).mp (hearlier.trans hvalue.symm))
  · refine fun h => ⟨fun value hvalue hblank => ?_, ?_⟩
    · obtain ⟨i, hi⟩ := List.mem_iff_getElem?.mp hvalue
      exact h i ⟨value, hi, .inl hblank⟩
    · rw [List.nodup_iff_getElem?_ne_getElem?]
      intro j i hj hi heq
      exact h i ⟨values[i], List.getElem?_eq_getElem hi, .inr ⟨j, hj, heq.trans
        (List.getElem?_eq_getElem hi)⟩⟩

/-- A list that is not in order has a first place at which something is wrong. -/
theorem exists_isLeast_atFault (h : ¬ InOrder values) : ∃ i, IsLeast {j | AtFault values j} i := by
  classical
  have hfault : ∃ i, AtFault values i := by
    by_contra hnone
    exact h (inOrder_iff_forall_not_atFault.mpr (not_exists.mp hnone))
  exact ⟨Nat.find hfault, Nat.find_spec hfault, fun _ hj => Nat.find_min' hfault hj⟩

theorem getElem?_take_eq_some_iff {α : Type} {l : List α} {a : α} {i j : Nat} :
    (l.take i)[j]? = some a ↔ j < i ∧ l[j]? = some a := by
  rw [List.getElem?_take, Option.ite_none_right_eq_some]

/-- A fault in the first part of a list is one of the whole list. -/
theorem AtFault.of_take (h : AtFault (values.take i) j) : j < i ∧ AtFault values j := by
  obtain ⟨value, hvalue, hfault⟩ := h
  obtain ⟨hj, hvalue⟩ := getElem?_take_eq_some_iff.mp hvalue
  refine ⟨hj, value, hvalue, hfault.imp_right ?_⟩
  rintro ⟨k, hk, hearlier⟩
  exact ⟨k, hk, (getElem?_take_eq_some_iff.mp hearlier).2⟩

/-- What stands before the first fault is in order. -/
theorem inOrder_take (h : i ∈ lowerBounds {j | AtFault values j}) : InOrder (values.take i) := by
  refine inOrder_iff_forall_not_atFault.mpr fun j hj => ?_
  obtain ⟨hlt, hfault⟩ := hj.of_take
  exact hlt.not_ge (h hfault)

/-! ### The check step by step -/

theorem requireDistinct_of_withoutContent (h : WithoutContent value) :
    requireDistinct seen (value :: rest) = .error (.blankText "Activation ID") := by
  rw [requireDistinct, requireText_of_blank h]
  rfl

theorem requireDistinct_of_seen {a : String} (h : ¬ Text.AllBlank a) (hseen : a ∈ seen) :
    requireDistinct seen (some a :: rest) = .error (.repeatedActivation a) := by
  rw [requireDistinct, requireText, if_neg h]
  exact if_pos hseen

/-- After the first part of a list the check goes on with the rest, for which the activations of
the first part have been seen. -/
theorem requireDistinct_append (seen : List String) (values rest : List (Option String)) :
    requireDistinct seen (values ++ rest) = do
      let ids ← requireDistinct seen values
      let later ← requireDistinct (ids.reverse ++ seen) rest
      return ids ++ later := by
  induction values generalizing seen with
  | nil =>
    rw [List.nil_append, requireDistinct]
    simp only [bind, Except.bind, List.reverse_nil, List.nil_append]
    cases requireDistinct seen rest <;> rfl
  | cons value values ih =>
    rw [List.cons_append, requireDistinct, requireDistinct]
    cases requireText value "Activation ID" with
    | error e => rfl
    | ok a =>
      simp only [bind, Except.bind]
      by_cases hseen : a ∈ seen
      · rw [if_pos hseen, if_pos hseen]
      · rw [if_neg hseen, if_neg hseen, ih]
        cases requireDistinct (a :: seen) values with
        | error e => rfl
        | ok ids =>
          simp only [bind, Except.bind, pure, Except.pure, List.reverse_cons, List.append_assoc,
            List.singleton_append]
          cases requireDistinct (ids.reverse ++ a :: seen) rest <;> rfl

/-- A list is split at its first fault, and the check comes as far as that. -/
theorem exists_split_of_isLeast (h : IsLeast {j | AtFault values j} i)
    (hvalue : values[i]? = some value) :
    ∃ ids rest, values = ids.map some ++ value :: rest ∧ values.take i = ids.map some ∧
      requireDistinct [] (ids.map some) = .ok ids := by
  obtain ⟨ids, htake, hcontent, hdistinct⟩ := inOrder_iff_exists_ids.mp (inOrder_take h.2)
  obtain ⟨hi, rfl⟩ := List.getElem?_eq_some_iff.mp hvalue
  refine ⟨ids, values.drop (i + 1), ?_, htake, requireDistinct_eq_ok_iff.mpr
    ⟨rfl, hcontent, hdistinct, fun _ _ => List.not_mem_nil⟩⟩
  rw [← htake, ← List.drop_eq_getElem_cons hi, List.take_append_drop]

/-- The check complains about the first fault and about nothing else. -/
theorem requireDistinct_of_isLeast (h : IsLeast {j | AtFault values j} i)
    (hvalue : values[i]? = some value) :
    WithoutContent value ∧ requireDistinct [] values = .error (.blankText "Activation ID") ∨
      ∃ a, value = some a ∧ ¬ Text.AllBlank a ∧
        requireDistinct [] values = .error (.repeatedActivation a) := by
  obtain ⟨ids, rest, hvalues, htake, hpasses⟩ := exists_split_of_isLeast h hvalue
  have hcheck : ∀ {e}, requireDistinct (ids.reverse ++ []) (value :: rest) = .error e →
      requireDistinct [] values = .error e := by
    intro e he
    rw [hvalues, requireDistinct_append, hpasses]
    change (requireDistinct (ids.reverse ++ []) (value :: rest) >>= _) = _
    rw [he]
    rfl
  by_cases hblank : WithoutContent value
  · exact .inl ⟨hblank, hcheck (requireDistinct_of_withoutContent hblank)⟩
  · obtain ⟨a, rfl, ha⟩ := not_withoutContent_iff.mp hblank
    refine .inr ⟨a, rfl, ha, hcheck (requireDistinct_of_seen ha ?_)⟩
    obtain ⟨value', hvalue', hfault⟩ := h.1
    obtain rfl := Option.some.inj (hvalue.symm.trans hvalue')
    obtain ⟨j, hj, hearlier⟩ := hfault.resolve_left hblank
    have hmem : some a ∈ ids.map some :=
      htake ▸ List.mem_of_getElem? (getElem?_take_eq_some_iff.mpr ⟨hj, hearlier⟩)
    simpa using hmem

/-! ### What comes of a list of activations -/

/-- Whether activations are refused, with a report that a client sees. -/
def RefusedWith (values : Option (List (Option String))) (report : ErrorReport) : Prop :=
  ∃ e, requireActivations values = .error e ∧ e.report = report

theorem requireActivations_of_ne_nil (h : values ≠ []) :
    requireActivations (some values) = requireDistinct [] values := by
  cases values with
  | nil => exact absurd rfl h
  | cons value rest => rfl

/-- A list is taken as it is just if it has an activation and all are in order. -/
theorem exists_requireActivations_eq_ok_iff :
    (∃ ids, values = ids.map some ∧ requireActivations (some values) = .ok ids) ↔
      values ≠ [] ∧ InOrder values := by
  rw [inOrder_iff_exists_ids]
  constructor
  · rintro ⟨ids, rfl, hids⟩
    obtain ⟨-, hne, hcontent, hdistinct⟩ := requireActivations_eq_ok_iff.mp hids
    exact ⟨fun hnil => hne (List.map_eq_nil_iff.mp hnil), ids, rfl, hcontent, hdistinct⟩
  · rintro ⟨hne, ids, rfl, hcontent, hdistinct⟩
    refine ⟨ids, rfl, requireActivations_eq_ok_iff.mpr ⟨rfl, ?_, hcontent, hdistinct⟩⟩
    exact fun hnil => hne (List.map_eq_nil_iff.mpr hnil)

/-- A list of activations is taken as it is just if it has at least one and is in order. No list and
the empty one are refused as missing. Of any other list the first activation at fault decides: the
list is refused for one without content, or for one that it names twice. -/
theorem requireActivations_verdict (values : List (Option String)) :
    ((∃ ids, values = ids.map some ∧ requireActivations (some values) = .ok ids) ↔
        values ≠ [] ∧ InOrder values) ∧
      (∀ ids, requireActivations (some values) = .ok ids → values = ids.map some) ∧
      RefusedWith none ⟨.validation, "Activation IDs must not be null or empty", none⟩ ∧
      RefusedWith (some []) ⟨.validation, "Activation IDs must not be null or empty", none⟩ ∧
      (values ≠ [] ∧ ¬ InOrder values →
        ∃ i value, IsLeast {j | AtFault values j} i ∧ values[i]? = some value ∧
          (WithoutContent value ∧
              RefusedWith (some values)
                ⟨.validation, "Activation ID must not be null or empty", none⟩ ∨
            ∃ a, value = some a ∧ ¬ Text.AllBlank a ∧
              RefusedWith (some values)
                ⟨.validation, "Activation IDs must be unique",
                  some [("activation_id", .text a)]⟩)) := by
  refine ⟨exists_requireActivations_eq_ok_iff, fun ids hids => ?_, ⟨_, rfl, rfl⟩, ⟨_, rfl, rfl⟩, ?_⟩
  · exact Option.some.inj (requireActivations_eq_ok_iff.mp hids).1
  · rintro ⟨hne, horder⟩
    obtain ⟨i, hi⟩ := exists_isLeast_atFault horder
    obtain ⟨value, hvalue, -⟩ := hi.1
    refine ⟨i, value, hi, hvalue, ?_⟩
    simp only [RefusedWith, requireActivations_of_ne_nil hne]
    rcases requireDistinct_of_isLeast hi hvalue with ⟨hblank, herror⟩ | ⟨a, ha, hcontent, herror⟩
    · exact .inl ⟨hblank, _, herror, rfl⟩
    · exact .inr ⟨a, ha, hcontent, _, herror, rfl⟩

/-- An activation named twice decides, although one without content follows. -/
theorem requireActivations_repeated_then_none :
    ¬ InOrder [some "A", some "B", some "A", none] ∧
      RefusedWith (some [some "A", some "B", some "A", none])
        ⟨.validation, "Activation IDs must be unique", some [("activation_id", .text "A")]⟩ := by
  have horder : ¬ InOrder [some "A", some "B", some "A", none] :=
    fun h => absurd h.distinct (by decide)
  have hleast : IsLeast {j | AtFault [some "A", some "B", some "A", none] j} 2 := by
    refine ⟨?_, fun j hj => ?_⟩
    · exact ⟨some "A", rfl, .inr ⟨0, by decide, rfl⟩⟩
    · have hbefore : ∀ j < 2, ¬ AtFault [some "A", some "B", some "A", none] j := by decide
      exact not_lt.mp fun hlt => hbefore j hlt hj
  obtain ⟨-, -, -, -, hrefused⟩ := requireActivations_verdict [some "A", some "B", some "A", none]
  obtain ⟨i, value, hi, hvalue, hreport⟩ := hrefused ⟨List.cons_ne_nil _ _, horder⟩
  obtain rfl := hi.unique hleast
  obtain rfl := Option.some.inj hvalue
  rcases hreport with ⟨hblank, -⟩ | ⟨a, ⟨⟩, -, hreport⟩
  · exact absurd hblank (by decide)
  · exact ⟨horder, hreport⟩

end Validation

end PushRegistry
