import PushRegistry.Proofs.Enrolment.Independence
import PushRegistry.Proofs.Enrolment.Repetition
import PushRegistry.Proofs.Enrolment.Stranding

/-!
# When a repeated batch changes nothing

A batch that is carried out again leaves the same rows but for numbers and times, unless activations
that cannot be bound to leave the table unsettled. That happens in two ways. The batch moves a row
to the device after an activation that it leaves without a row; the second batch drops the moved
row, for that activation finds it among the rows of the device. Or the first activation takes over a
row with content, which makes place in the second batch since the device has several rows then.

The second way has one exception. If the row belongs to the only other activation, and that can be
bound to, then the other activation fails in both batches, and the device keeps its only row.

## Main definitions

* `Table.DropsMoved`, `Table.DropsTakenOver`, `Table.Unsettled`: the tables on which a repeated
  batch changes rows.

## Main results

* `Table.not_unsettled_of_admits`: a batch changes nothing again if all activations can be bound to.
* `Table.Course.perm_twice_iff`: when two batches leave the same rows, in the course of both.
* `Enrolment.registerBatch_converges_iff`: when a repeated batch leaves the same rows.
-/

namespace PushRegistry

namespace Table

variable {s u v : Table} {oracle : Oracle} {now now' : Int} {device : Device}
  {done before ids : List String} {a : String} {x r : Row} {written written' : List Row}

/-! ### When the second batch changes rows -/

theorem owns_iff (hs : s.Healthy) :
    s.Owns oracle device before a ↔ oracle.admits a = true ∨ ∃ x ∈ s.rows,
      x.activationId = some a ∧ ¬ (x.Keyed device ∧ ∃ e ∈ before, s.boundTo e = []) := by
  refine or_congr_right ⟨?_, ?_⟩
  · rintro ⟨x, horigin, hxa⟩
    obtain ⟨hx, ⟨hbound, -⟩ | ⟨-, hnil, -⟩⟩ := origin_eq_some hs horigin
    · rw [origin_of_bound hbound] at horigin
      split at horigin
      · cases horigin
      · next hplace => exact ⟨x, hx, hxa, hplace⟩
    · exact absurd hxa (boundTo_eq_nil_iff.mp hnil x hx)
  · rintro ⟨x, hx, hxa, hplace⟩
    exact ⟨x, by rw [origin_of_bound (hs.boundTo_eq hx hxa), if_neg hplace], hxa⟩

/-- An activation owns no row after its turn if it cannot be bound to and has no row, or one of the
device that has made place. -/
theorem not_owns_iff (hs : s.Healthy) :
    ¬ s.Owns oracle device before a ↔ oracle.admits a = false ∧
      (∀ x ∈ s.rows, x.activationId = some a → x.Keyed device) ∧
        ∃ e ∈ a :: before, s.boundTo e = [] := by
  rw [owns_iff hs, not_or, Bool.not_eq_true]
  refine and_congr_right fun _ => ?_
  constructor
  · intro hnone
    have hplace : ∀ x ∈ s.rows, x.activationId = some a →
        x.Keyed device ∧ ∃ e ∈ before, s.boundTo e = [] := fun x hx hxa =>
      Classical.byContradiction fun h => hnone ⟨x, hx, hxa, h⟩
    refine ⟨fun x hx hxa => (hplace x hx hxa).1, ?_⟩
    rcases hs.boundTo_cases a with hnil | ⟨x, hx, hxa, -⟩
    · exact ⟨a, List.mem_cons_self, hnil⟩
    · obtain ⟨-, e, he, hnil⟩ := hplace x hx hxa
      exact ⟨e, List.mem_cons_of_mem a he, hnil⟩
  · rintro ⟨hkeyed, e, he, hnil⟩ ⟨x, hx, hxa, hplace⟩
    refine hplace ⟨hkeyed x hx hxa, ?_⟩
    rcases List.mem_cons.mp he with rfl | he
    · exact absurd hxa (boundTo_eq_nil_iff.mp hnil x hx)
    · exact ⟨e, he, hnil⟩

/-- Whether a batch moves a row to the device for an activation that cannot be bound to, and has
left no row to an activation before it, for which the row makes place in a second batch. -/
def DropsMoved (s : Table) (oracle : Oracle) (device : Device) (ids : List String) : Prop :=
  ∃ before a after, ids = before ++ a :: after ∧ oracle.admits a = false ∧
    (∀ x ∈ s.rows, x.activationId = some a → x.Keyed device) ∧
    (∃ e ∈ a :: before, s.boundTo e = []) ∧
    ∃ c ∈ after, oracle.admits c = false ∧
      ∃ x ∈ s.rows, x.activationId = some c ∧ ¬ x.Keyed device

/-- Whether the first activation of a batch takes over a row with content without being bound to it,
which makes place in a second batch; but not if it is the row of the only other activation, which
fails in both batches. -/
def DropsTakenOver (s : Table) (oracle : Oracle) (device : Device) (ids : List String) : Prop :=
  ∃ first rest r, ids = first :: rest ∧ rest ≠ [] ∧
    s.takenOver oracle device (some first) = some r ∧ r.Loaded ∧
    ¬ ∃ a, rest = [a] ∧ r.activationId = some a ∧ oracle.admits a = true

/-- Whether a second batch on what the first one has left changes rows. -/
def Unsettled (s : Table) (oracle : Oracle) (device : Device) (ids : List String) : Prop :=
  s.DropsMoved oracle device ids ∨ s.DropsTakenOver oracle device ids

/-- No table is unsettled for activations that can all be bound to. -/
theorem not_unsettled_of_admits (h : ∀ a ∈ ids, oracle.admits a = true) :
    ¬ s.Unsettled oracle device ids := by
  rintro (⟨before, a, after, rfl, hadmits, -⟩ | ⟨first, rest, r, rfl, -, hr, -⟩)
  · simp [h a (by simp)] at hadmits
  · obtain ⟨_, ⟨⟩, hadmits, -⟩ := takenOver_eq_some_iff.mp hr
    simp [h first List.mem_cons_self] at hadmits

/-- An own row makes place in the second batch just if the table drops a moved row. -/
theorem Course.dropsMoved_iff (h : s.Course oracle device now u written ids.reverse) :
    s.DropsMoved oracle device ids ↔
      ∃ c before, (c, before) ∈ places ids.reverse ∧ oracle.admits c = false ∧
        s.Owns oracle device before c ∧ ∃ e ∈ before, u.boundTo e = [] := by
  constructor
  · rintro ⟨before, a, after, hids, hadmits, hkeyed, hempty, c, hc, hadmitsc, x, hx, hxc, hxkeyed⟩
    obtain ⟨later, last, rfl⟩ := List.append_of_mem hc
    have hreverse : ids.reverse =
        last.reverse ++ c :: (later.reverse ++ a :: before.reverse) := by
      rw [hids]
      simp
    have hplace : (a, before.reverse) ∈ places ids.reverse :=
      mem_places_iff.mpr ⟨last.reverse ++ c :: later.reverse, by rw [hreverse]; simp⟩
    have howns : ¬ s.Owns oracle device before.reverse a := by
      refine (not_owns_iff h.start).mpr ⟨hadmits, hkeyed, ?_⟩
      simpa using hempty
    refine ⟨c, later.reverse ++ a :: before.reverse, mem_places_iff.mpr ⟨last.reverse, hreverse⟩,
      hadmitsc, (owns_iff h.start).mpr (.inr ⟨x, hx, hxc, fun hplaced => hxkeyed hplaced.1⟩), ?_⟩
    rcases h.boundTo_cases hplace howns with hnil | ⟨-, first, hfirst, hnil⟩
    · exact ⟨a, by simp, hnil⟩
    · exact ⟨first, List.mem_append_right _ (List.mem_cons_of_mem a hfirst), hnil⟩
  · rintro ⟨c, before, hplace, hadmitsc, howns, a, ha, hnil⟩
    obtain ⟨last, hreverse⟩ := mem_places_iff.mp hplace
    obtain ⟨later, before, rfl⟩ := List.append_of_mem ha
    have hids : ids = before.reverse ++ a :: (later.reverse ++ c :: last.reverse) := by
      rw [← List.reverse_reverse ids, hreverse]
      simp
    have haplace : (a, before) ∈ places ids.reverse :=
      mem_places_iff.mpr ⟨last ++ c :: later, by rw [hreverse]; simp⟩
    have hanot : ¬ s.Owns oracle device before a := by
      intro haowns
      obtain ⟨w, -, -, hbound⟩ := h.boundTo_of_owns haplace haowns
      rw [hnil] at hbound
      cases hbound
    obtain ⟨hadmits, hkeyed, e, he, hsnil⟩ := (not_owns_iff h.start).mp hanot
    obtain ⟨x, hx, hxc, hplaced⟩ :=
      ((owns_iff h.start).mp howns).resolve_left (by simp [hadmitsc])
    refine ⟨before.reverse, a, later.reverse ++ c :: last.reverse, hids, hadmits, hkeyed,
      ⟨e, by simpa using he, hsnil⟩, c, by simp, hadmitsc, x, hx, hxc, fun hxkeyed => ?_⟩
    exact hplaced ⟨hxkeyed, e, List.mem_append_right _ he, hsnil⟩

/-- The activation that a table strands is that of the row taken over. -/
theorem strands_iff : s.Strands oracle device ids a ↔ ∃ first rest r, ids = first :: rest ∧
    s.takenOver oracle device (some first) = some r ∧ r.activationId = some a ∧ a ∈ rest ∧
      oracle.admits a = true := by
  constructor
  · rintro ⟨first, rest, r, hids, hfirst, hnil, hrows, hra, ha, hadmits⟩
    exact ⟨first, rest, r, hids, takenOver_eq_some_iff.mpr
      ⟨first, rfl, hfirst, hnil, sole_eq_some_iff.mpr hrows⟩, hra, ha, hadmits⟩
  · rintro ⟨first, rest, r, hids, hr, hra, ha, hadmits⟩
    obtain ⟨_, ⟨⟩, hfirst, hnil, hsole⟩ := takenOver_eq_some_iff.mp hr
    exact ⟨first, rest, r, hids, hfirst, hnil, sole_eq_some_iff.mp hsole, hra, ha, hadmits⟩

/-- If both batches register all activations, the second one changes rows just if the table is
unsettled. -/
theorem Course.perm_again_iff_of_all (h : s.Course oracle device now u written ids.reverse)
    (h' : u.Course oracle device now' v written' ids.reverse)
    (hnone : ∀ a, ¬ s.Strands oracle device ids a) :
    (v.rows.map Row.untimed).Perm (u.rows.map Row.untimed) ↔ ¬ s.Unsettled oracle device ids := by
  rw [h.perm_again_iff h']
  constructor
  · rintro hsame (hmoved | ⟨first, rest, r, rfl, hrest, hr, hloaded, -⟩)
    · obtain ⟨c, before, hplace, hadmits, howns, hempty⟩ := h.dropsMoved_iff.mp hmoved
      exact (h.outline_again hplace).2.mpr ⟨hadmits, .inl ⟨howns, hempty⟩⟩ (hsame _ hplace)
    · have hplace : (first, []) ∈ places (first :: rest).reverse :=
        mem_places_iff.mpr ⟨rest.reverse, List.reverse_cons⟩
      obtain ⟨_, ⟨⟩, hadmits, -⟩ := takenOver_eq_some_iff.mp hr
      refine (h.outline_again hplace).2.mpr ⟨hadmits, .inr ⟨rfl, fun heq => hrest ?_, r, hr,
        hloaded⟩⟩ (hsame _ hplace)
      simpa using congrArg List.length heq
  · rintro hsettled ⟨a, before⟩ hplace
    refine Classical.byContradiction fun hne => hsettled ?_
    obtain ⟨hadmits, ⟨howns, hempty⟩ | ⟨rfl, hdone, r, hr, hloaded⟩⟩ :=
      (h.outline_again hplace).2.mp hne
    · exact .inl (h.dropsMoved_iff.mpr ⟨a, before, hplace, hadmits, howns, hempty⟩)
    · obtain ⟨later, hreverse⟩ := mem_places_iff.mp hplace
      have hids : ids = a :: later.reverse := by
        rw [← List.reverse_reverse ids, hreverse, List.reverse_concat]
      refine .inr ⟨a, later.reverse, r, hids, fun hnil => hdone ?_, hr, hloaded, ?_⟩
      · rw [hids, hnil]
        rfl
      · rintro ⟨c, hrest, hrc, hadmitsc⟩
        exact hnone c (strands_iff.mpr ⟨a, later.reverse, r, hids, hr, hrc, by simp [hrest],
          hadmitsc⟩)

/-! ### Batches with an activation that the table strands -/

/-- The course of a batch without faults: all activations are registered but the one that the table
strands. -/
theorem Underway.course (hs : s.Underway device []) (now : Int)
    (hanswers : ∀ a ∈ ids, oracle.Answers a) (hnodup : ids.Nodup) :
    ∃ os t written, ∃ failed : List String,
      s.enrolledAll oracle now device [] ids = .ok (os, t) ∧
      (∀ a, a ∈ failed ↔ s.Strands oracle device ids a) ∧
      s.Course oracle device now t written (ids.filter fun a => a ∉ failed).reverse := by
  obtain ⟨os, t, hos, hids, -, hfailed⟩ := hs.enrolledAll now hanswers hnodup
  obtain ⟨later, hcourse⟩ := (course_nil hs.healthy).enrolledAll
    (fun a ha => (hanswers a ha).reportsAsked) hnodup (fun a _ => List.not_mem_nil) hos
  rw [List.append_nil, List.append_nil,
    ← Enrolment.filter_not_mem_failedActivations hids hnodup] at hcourse
  exact ⟨os, t, later, Enrolment.failedActivations os, hos, hfailed, hcourse⟩

/-- A table without an only row of the device strands no activation. -/
theorem not_strands_of_sole (h : s.sole device = none) : ¬ s.Strands oracle device ids a := by
  intro hstrands
  obtain ⟨first, rest, r, -, hr, -⟩ := strands_iff.mp hstrands
  obtain ⟨_, -, -, -, hsole⟩ := takenOver_eq_some_iff.mp hr
  cases h.symm.trans hsole

/-- Without a stranded activation all activations of a batch are registered. -/
theorem filter_of_not_strands {failed : List String}
    (hfailed : ∀ a, a ∈ failed ↔ s.Strands oracle device ids a)
    (hnone : ∀ a, ¬ s.Strands oracle device ids a) :
    (ids.filter fun a => a ∉ failed) = ids := by
  refine List.filter_eq_self.mpr fun a _ => decide_eq_true fun ha => ?_
  exact hnone a ((hfailed a).mp ha)

/-- All activations of a batch but a stranded one are registered. -/
theorem filter_of_strands {failed : List String} (hnodup : ids.Nodup)
    (hfailed : ∀ a, a ∈ failed ↔ s.Strands oracle device ids a)
    (hstrands : s.Strands oracle device ids a) :
    (ids.filter fun a => a ∉ failed) = ids.erase a := by
  have honly : ∀ c, c ∈ failed ↔ c = a := fun c =>
    (hfailed c).trans ⟨fun hc => hc.eq hstrands, fun hc => hc ▸ hstrands⟩
  rw [hnodup.erase_eq_filter]
  refine List.filter_congr fun c _ => Bool.eq_iff_iff.mpr ?_
  simp [honly]

/-- If a batch registers all activations, then the second one does. -/
theorem Course.not_strands_again (h : s.Course oracle device now u written ids.reverse) :
    ∀ a, ¬ u.Strands oracle device ids a := by
  intro a hstrands
  obtain ⟨first, rest, -, rfl, -, -, ha, -⟩ := strands_iff.mp hstrands
  have hseveral : 2 ≤ (first :: rest).reverse.length := by
    have := List.length_pos_of_mem ha
    simp only [List.length_reverse, List.length_cons]
    omega
  exact not_strands_of_sole (h.sole_eq_none hseveral) hstrands

/-- If the first of two activations has taken over the row of the other one, then what the batch
leaves strands the other one again. -/
theorem Course.strands_again {first : String}
    (h : s.Course oracle device now u written [first])
    (hr : s.takenOver oracle device (some first) = some r) (hra : r.activationId = some a)
    (hadmits : oracle.admits a = true) : u.Strands oracle device [first, a] a := by
  obtain ⟨_, ⟨⟩, hfirst, hnil, hsole⟩ := takenOver_eq_some_iff.mp hr
  obtain ⟨_, ⟨⟩, -, hunil⟩ := h.boundTo_first hr
  obtain ⟨w, husole, hform⟩ := h.sole_eq_some hnil
  refine strands_iff.mpr ⟨first, [a], w, rfl,
    takenOver_eq_some_iff.mpr ⟨first, rfl, hfirst, hunil, husole⟩, ?_, List.mem_singleton.mpr rfl,
    hadmits⟩
  rw [outline_of_not_admits hfirst, origin_of_unbound hnil, if_pos rfl, hsole] at hform
  exact (congrArg Row.activationId hform).trans hra

theorem Course.length_rows (h : s.Course oracle device now u written done) :
    u.rows.length = done.length + (s.spared device done).length := by
  rw [h.perm_rows.length_eq, List.length_append, h.length_written]

/-- If the first activation has taken over the row of one that fails, and the second batch registers
that one too, it spares the same rows. -/
theorem Course.spared_of_strands {all : List String}
    (h : s.Course oracle device now u written done)
    (hr : s.takenOver oracle device done.getLast? = some r) (hra : r.activationId = some a)
    (hall : ∀ c, c ∈ all ↔ c = a ∨ c ∈ done) :
    (u.spared device all).Perm (s.spared device done) := by
  obtain ⟨first, hfirst, hnil, hunil⟩ := h.boundTo_first hr
  have hmem : first ∈ done := List.mem_of_getLast? hfirst
  refine (List.perm_ext_iff_of_nodup (u.nodup_spared device all)
    (s.nodup_spared device done)).mpr fun x => ?_
  rw [mem_spared, mem_spared]
  constructor
  · rintro ⟨hx, -, hkeyed⟩
    -- The first activation has no row, so no row of the device is spared.
    have hother : ¬ x.Keyed device := fun hx =>
      hkeyed hx first ((hall first).mpr (.inr hmem)) hunil
    rcases (h.rows x).mp hx with hwritten | huntouched
    · exact absurd (h.keyed hwritten) hother
    · exact huntouched
  · rintro ⟨hxs, huntouched⟩
    have hother : ¬ x.Keyed device := fun hx => huntouched.2 hx first hmem hnil
    refine ⟨(h.rows x).mpr (.inr ⟨hxs, huntouched⟩), ?_, fun hx => absurd hx hother⟩
    rintro ⟨c, hc, hxc⟩
    rcases (hall c).mp hc with rfl | hcdone
    · obtain ⟨hrs, hrkeyed⟩ := mem_of_takenOver hr
      exact hother (h.start.single x hxs r hrs c hxc hra ▸ hrkeyed)
    · exact huntouched.1 ⟨c, hcdone, hxc⟩

/-- A table that strands the second of two activations is settled. -/
theorem not_unsettled_of_pair {first : String}
    (hr : s.takenOver oracle device (some first) = some r) (hra : r.activationId = some a)
    (hadmits : oracle.admits a = true) : ¬ s.Unsettled oracle device [first, a] := by
  rintro (⟨before, b, after, hids, -, -, -, c, hc, hadmitsc, -⟩ |
    ⟨first', rest, r', hids, -, hr', -, hpair⟩)
  · -- Only the last activation comes after another one, and it can be bound to.
    rcases before with _ | ⟨x, _ | ⟨y, before⟩⟩
    · cases hids
      rw [List.mem_singleton.mp hc, hadmits] at hadmitsc
      cases hadmitsc
    · cases hids
      cases hc
    · simp at hids
  · obtain ⟨rfl, rfl⟩ := List.cons.inj hids
    obtain rfl := Option.some.inj (hr.symm.trans hr')
    exact hpair ⟨a, rfl, hra, hadmits⟩

/-- The second batch of one activation leaves the same rows. -/
theorem Course.perm_again_of_one (h : s.Course oracle device now u written [a])
    (h' : u.Course oracle device now' v written' [a]) :
    (v.rows.map Row.untimed).Perm (u.rows.map Row.untimed) := by
  refine (h.perm_again_iff h').mpr fun p hp => Classical.byContradiction fun hne => ?_
  obtain rfl := List.mem_singleton.mp hp
  obtain ⟨-, ⟨-, e, he, -⟩ | ⟨-, hseveral, -⟩⟩ := (h.outline_again hp).2.mp hne
  · cases he
  · exact hseveral rfl

/-- If the first activation has taken over the row of one that fails, and the second batch registers
that one too, there is a row more. -/
theorem Course.not_perm_again (h : s.Course oracle device now u written done)
    (h' : u.Course oracle device now' v written' ids.reverse)
    (hr : s.takenOver oracle device done.getLast? = some r) (hra : r.activationId = some a)
    (hperm : ids.Perm (a :: done)) : ¬ (v.rows.map Row.untimed).Perm (u.rows.map Row.untimed) := by
  intro hrows
  have hspared := h.spared_of_strands hr hra fun c =>
    (List.mem_reverse.trans hperm.mem_iff).trans List.mem_cons
  have hlength := hrows.length_eq
  rw [List.length_map, List.length_map, h.length_rows, h'.length_rows, hspared.length_eq,
    List.length_reverse, hperm.length_eq, List.length_cons] at hlength
  omega

/-- A second batch changes rows just if the table is unsettled. -/
theorem Course.perm_twice_iff {failed failed' : List String} (hnodup : ids.Nodup)
    (hfailed : ∀ a, a ∈ failed ↔ s.Strands oracle device ids a)
    (hfailed' : ∀ a, a ∈ failed' ↔ u.Strands oracle device ids a)
    (h : s.Course oracle device now u written (ids.filter fun a => a ∉ failed).reverse)
    (h' : u.Course oracle device now' v written' (ids.filter fun a => a ∉ failed').reverse) :
    (v.rows.map Row.untimed).Perm (u.rows.map Row.untimed) ↔ ¬ s.Unsettled oracle device ids := by
  by_cases hnone : ∀ a, ¬ s.Strands oracle device ids a
  · rw [filter_of_not_strands hfailed hnone] at h
    rw [filter_of_not_strands hfailed' h.not_strands_again] at h'
    exact h.perm_again_iff_of_all h' hnone
  · obtain ⟨a, hstrands⟩ := Classical.not_forall_not.mp hnone
    rw [filter_of_strands hnodup hfailed hstrands] at h
    obtain ⟨first, rest, r, rfl, hr, hra, ha, hadmits⟩ := strands_iff.mp hstrands
    have hfirst : first ≠ a := fun heq => (List.nodup_cons.mp hnodup).1 (heq ▸ ha)
    by_cases hpair : rest = [a]
    · -- The other activation fails again.
      subst hpair
      have hone : ([first, a].erase a).reverse = [first] := by
        simp [hfirst]
      rw [hone] at h
      rw [filter_of_strands hnodup hfailed' (h.strands_again hr hra hadmits), hone] at h'
      exact iff_of_true (h.perm_again_of_one h') (not_unsettled_of_pair hr hra hadmits)
    · -- The second batch finds several rows of the device and registers all activations.
      have hlength : ((first :: rest).erase a).reverse.length = rest.length := by
        rw [List.length_reverse, List.length_erase_of_mem (List.mem_cons_of_mem first ha)]
        rfl
      have hseveral : 2 ≤ rest.length := by
        rcases rest with _ | ⟨c, _ | ⟨d, rest⟩⟩
        · cases ha
        · exact absurd (congrArg (fun c => [c]) (List.mem_singleton.mp ha).symm) hpair
        · simp
      have hnone' : ∀ c, ¬ u.Strands oracle device (first :: rest) c := fun c =>
        not_strands_of_sole (h.sole_eq_none (hlength ▸ hseveral))
      rw [filter_of_not_strands hfailed' hnone'] at h'
      have hlast : ((first :: rest).erase a).reverse.getLast? = some first := by
        rw [List.getLast?_reverse, List.erase_cons_tail (by simpa using hfirst)]
        rfl
      refine iff_of_false (h.not_perm_again h' (hlast ▸ hr) hra ?_) fun hsettled => hsettled ?_
      · exact (List.perm_cons_erase (List.mem_cons_of_mem first ha)).trans
          ((List.reverse_perm _).symm.cons a)
      · refine .inr ⟨first, rest, r, rfl, List.ne_nil_of_mem ha, hr, .inl (by simp [hra]), ?_⟩
        rintro ⟨c, hrest, hrc, -⟩
        exact hpair (Option.some.inj (hra.symm.trans hrc) ▸ hrest)

end Table

namespace Enrolment

variable {s : Table} {oracle : Oracle} {device : Device} {ids : List String}

/-- A batch for an application that the store cannot hold registers nothing. -/
theorem committed_enrolAll_of_app (now : Int) {claimed : List Int} {sess : Session}
    (hsettled : sess.Settled) (hs : sess.committed.Healthy)
    (happ : fitsStore device.appId = false) :
    (enrolAll oracle now device claimed ids sess).2.committed = sess.committed := by
  induction ids generalizing sess with
  | nil => rfl
  | cons a rest ih =>
    obtain ⟨r, hattempt, -, hr⟩ := exists_attempt hsettled hs oracle now device claimed a
    rcases hrun : attemptInBatch oracle now device claimed a sess with ⟨res, s₁⟩
    rw [hrun] at hattempt
    cases hattempt with
    | registered hresult _ _ =>
      have hr := (hresult ▸ hr).resolve_right nofun
      obtain ⟨-, -, hfits, -⟩ := Table.enrolled_eq_ok hr.symm
      cases happ.symm.trans hfits
    | failed _ _ hsettled' hcommitted _ _ =>
      rw [enrolAll_cons_snd_of_ok hrun]
      exact (ih hsettled' (hcommitted ▸ hs)).trans hcommitted
    | aborted _ hcommitted _ =>
      rw [enrolAll_cons_of_error hrun]
      exact hcommitted

/-- Without faults and with usable answers, a batch that is carried out again on a healthy table
leaves the same rows but for numbers and times, just if the store cannot hold the application or the
table is not unsettled. -/
theorem registerBatch_converges_iff (now now' : Int) {request : BatchRequest}
    (hchecked : request.checked = .ok (device, ids)) (hs : s.Healthy)
    (hfits : ∀ row ∈ s.rows, fitsStore row.id = true) (hanswers : ∀ a ∈ ids, oracle.Answers a) :
    let once := ((registerBatch oracle now true request).runUnit s .none).2.committed
    let twice := ((registerBatch oracle now' true request).runUnit once .none).2.committed
    (∀ row ∈ once.rows, fitsStore row.id = true) →
      ((twice.rows.map Row.untimed).Perm (once.rows.map Row.untimed) ↔
        ¬ (fitsStore device.appId = true ∧ s.Unsettled oracle device ids)) := by
  intro once twice hagain
  have hnodup := BatchRequest.nodup_of_checked hchecked
  have hreports := fun a ha => (hanswers a ha).reportsAsked
  cases happ : fitsStore device.appId with
  | false =>
    have honce : once = s := (runUnit_registerBatch_apply hchecked s .none).2.trans
      (committed_enrolAll_of_app now (Session.settled_begin s .none) hs happ)
    have htwice : twice = once := (runUnit_registerBatch_apply hchecked once .none).2.trans
      (committed_enrolAll_of_app now' (Session.settled_begin once .none) (honce ▸ hs) happ)
    exact iff_of_true (by rw [htwice]) (by simp)
  | true =>
    have hbegin := Table.underway_nil hs ⟨happ, fun row hrow _ => hfits row hrow⟩
    obtain ⟨os, u, written, failed, hos, hfailed, hcourse⟩ :=
      hbegin.course now hanswers hnodup
    have honce : once = u := (runUnit_registerBatch hchecked hs hbegin.fits hreports hos).2
    rw [honce] at hagain
    have hbegin' := Table.underway_nil hcourse.healthy ⟨happ, fun row hrow _ => hagain row hrow⟩
    obtain ⟨os', v, written', failed', hos', hfailed', hcourse'⟩ :=
      hbegin'.course now' hanswers hnodup
    have htwice : twice = v := by
      change ((registerBatch oracle now' true request).runUnit once .none).2.committed = v
      rw [honce]
      exact (runUnit_registerBatch hchecked hcourse.healthy hbegin'.fits hreports hos').2
    rw [honce, htwice, hcourse.perm_twice_iff hnodup hfailed hfailed' hcourse']
    simp

end Enrolment

/-! ### A batch that does not converge -/

/-- A table with one row, of the application `1` and the token `T`, bound to the activation `z`. -/
def Table.foreign : Table where
  rows := [⟨1, 1, "T", "ios", some "z", none, false, 0⟩]
  indexed := true
  ordered := by decide
  unique := by decide

/-- The service that has removed `b` and knows no other activation. -/
def Oracle.removedB : Oracle := fun activationId =>
  .ok (if activationId = "b" then some ⟨activationId, .removed, .null⟩ else none)

theorem Table.healthy_foreign : Table.foreign.Healthy := healthy_of_one rfl rfl ⟨.ios, rfl⟩

theorem Oracle.answers_removedB (a : String) : Oracle.removedB.Answers a := by
  refine ⟨_, rfl, fun report hreport => ?_⟩
  split at hreport
  · cases hreport
    exact ⟨rfl, .inl rfl⟩
  · cases hreport

/-- The row of `z` is taken over for `b`, and in the second batch it makes place. But the row of `a`
stays if it is taken over for `b`, since `a` fails in both batches. -/
theorem registerBatch_converges_iff_foreign :
    Table.foreign.Unsettled .removedB ⟨1, "T", .ios⟩ ["b", "c"] ∧
      ¬ Table.single.Unsettled .withoutB ⟨1, "T", .ios⟩ ["b", "a"] := by
  have hforeign := Enrolment.registerBatch_converges_iff 5 6
    (show (BatchRequest.naming ["b", "c"]).checked = .ok (⟨1, "T", .ios⟩, ["b", "c"]) by rfl)
    Table.healthy_foreign (by decide) (fun a _ => Oracle.answers_removedB a)
    (by decide +kernel)
  have hsingle := Enrolment.registerBatch_converges_iff 5 6
    (show (BatchRequest.naming ["b", "a"]).checked = .ok (⟨1, "T", .ios⟩, ["b", "a"]) by rfl)
    Table.healthy_single (by decide) (fun a _ => Oracle.answers_withoutB a) (by decide +kernel)
  constructor
  · exact (Classical.not_not.mp ((not_congr hforeign).mp (by decide +kernel))).2
  · exact fun h => hsingle.mp (by decide +kernel) ⟨by decide, h⟩

/-- The row of `z` is taken over for `b`, and in the second batch it makes place. -/
theorem repeated_batch_diverges :
    Table.foreign.Healthy ∧ (∀ a, Oracle.removedB.Answers a) ∧
      (BatchRequest.naming ["b", "c"]).checked = .ok (⟨1, "T", .ios⟩, ["b", "c"]) ∧
      let batch now := Enrolment.registerBatch .removedB now true (.naming ["b", "c"])
      let once := ((batch 5).runUnit .foreign .none).2.committed
      let twice := ((batch 6).runUnit once .none).2.committed
      ¬ (twice.rows.map Row.untimed).Perm (once.rows.map Row.untimed) ∧
        (∃ x ∈ once.rows, x.activationId = some "z") ∧
        ¬ ∃ x ∈ twice.rows, x.activationId = some "z" := by
  refine ⟨Table.healthy_foreign, Oracle.answers_removedB, rfl, ?_⟩
  decide +kernel

end PushRegistry
