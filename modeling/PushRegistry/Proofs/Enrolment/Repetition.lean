import PushRegistry.Proofs.Enrolment.BatchForm

/-!
# A batch carried out again

If a batch is carried out again on the table that it has left, each activation starts from the row
that it wrote, with two exceptions. An activation that owns no row after its turn, because it cannot
be bound to and has no row or one that made place, is without a row for the second batch. Then the
rows of the device that are bound to later activations make place for it. And the first activation,
if it took over the only row of the device, starts from an empty row if there are several rows now.

So each activation writes the row of the first batch again or an empty one.

## Main definitions

* `Row.Loaded`: the rows from which an activation that cannot be bound to does not write an empty
  row.

## Main results

* `Table.Course.boundTo_of_owns`, `Table.Course.boundTo_cases`: the rows of the activations after a
  batch.
* `Table.Course.outline_again`: what an activation writes in the second batch.
* `Table.Course.spared_again`: the second batch spares the same rows.
* `Table.Course.perm_again_iff`: when two batches that register the same activations leave the same
  rows.
-/

namespace PushRegistry

/-! ### Lists -/

/-- If one map of a list differs from another one only in that it has one value more often, it is a
permutation of it only if it is the same. -/
theorem perm_map_iff_of_eq_or {α β : Type} [DecidableEq β] {l : List α} {f g : α → β} {z : β}
    (h : ∀ i ∈ l, g i = f i ∨ g i = z) :
    (l.map g).Perm (l.map f) ↔ ∀ i ∈ l, g i = f i := by
  have hcount : (l.map f).count z ≤ (l.map g).count z ∧
      ((l.map g).count z = (l.map f).count z → ∀ i ∈ l, g i = f i) := by
    induction l with
    | nil => exact ⟨Nat.le_refl 0, fun _ _ hi => absurd hi List.not_mem_nil⟩
    | cons i l ih =>
      obtain ⟨hi, hl⟩ := List.forall_mem_cons.mp h
      obtain ⟨hle, heq⟩ := ih hl
      simp only [List.map_cons, List.count_cons]
      by_cases hsame : g i = f i
      · rw [hsame]
        exact ⟨Nat.add_le_add_right hle _, fun h =>
          List.forall_mem_cons.mpr ⟨hsame, heq (Nat.add_right_cancel h)⟩⟩
      · have hz : g i = z := hi.resolve_left hsame
        have hne : f i ≠ z := fun hf => hsame (hz.trans hf.symm)
        rw [if_neg (by simpa using hne), if_pos (by simpa using hz)]
        exact ⟨by omega, fun h => by omega⟩
  constructor
  · intro hperm
    exact hcount.2 (hperm.count_eq z)
  · intro hsame
    rw [List.map_congr_left hsame]

theorem eq_of_mem_places {α : Type} {l rest rest' : List α} {a : α} (hnodup : l.Nodup)
    (h : (a, rest) ∈ places l) (h' : (a, rest') ∈ places l) : rest = rest' := by
  induction l with
  | nil => cases h
  | cons b l ih =>
    obtain ⟨hb, hnodup⟩ := List.nodup_cons.mp hnodup
    rcases List.mem_cons.mp h with heq | hmem <;> rcases List.mem_cons.mp h' with heq' | hmem'
    · rw [(Prod.mk.inj heq).2, (Prod.mk.inj heq').2]
    · exact absurd (mem_of_mem_places hmem').1 ((Prod.mk.inj heq).1 ▸ hb)
    · exact absurd (mem_of_mem_places hmem).1 ((Prod.mk.inj heq').1 ▸ hb)
    · exact ih hnodup hmem hmem'

theorem getLast?_of_mem_places {α : Type} {l rest : List α} {a : α} (h : (a, rest) ∈ places l) :
    l.getLast? = (a :: rest).getLast? := by
  obtain ⟨before, rfl⟩ := mem_places_iff.mp h
  rw [List.getLast?_append, List.getLast?_eq_some_getLast (List.cons_ne_nil a rest)]
  rfl

/-- Whether a row is bound, has a user or is active. -/
def Row.Loaded (row : Row) : Prop :=
  row.activationId ≠ none ∨ row.userId ≠ none ∨ row.isActive = true

instance (row : Row) : Decidable row.Loaded :=
  inferInstanceAs (Decidable (row.activationId ≠ none ∨ row.userId ≠ none ∨ row.isActive = true))

theorem Row.takenBy_ne_blank_iff {row : Row} {device : Device} :
    row.takenBy device ≠ device.blank ↔ row.Loaded := by
  obtain ⟨id, appId, token, platform, activationId, userId, isActive, timestamp⟩ := row
  simp only [takenBy, heard, untimed, Device.blank, Loaded, ne_eq, Row.mk.injEq, true_and, and_true]
  cases activationId <;> cases userId <;> cases isActive <;> simp

/-- A row that was written as another one was taken over is taken over as it is. -/
theorem Row.takenBy_of_untimed {x y : Row} {device : Device}
    (h : x.untimed = y.takenBy device) : x.takenBy device = y.takenBy device := by
  calc
    x.takenBy device = x.untimed.takenBy device := rfl
    _ = (y.takenBy device).takenBy device := by rw [h]
    _ = y.takenBy device := rfl

namespace Table

variable {s u v : Table} {oracle : Oracle} {now now' : Int} {device : Device}
  {done before ids : List String} {a : String} {x r : Row} {written written' : List Row}

/-! ### After the first batch -/

theorem Course.keyed (h : s.Course oracle device now u written done) (hx : x ∈ written) :
    x.Keyed device :=
  h.claims x (h.mem_of_written hx) (List.mem_map.mpr ⟨x, hx, rfl⟩)

theorem activationId_outline_of_owns (hreports : oracle.ReportsAsked a)
    (howns : s.Owns oracle device before a) :
    (s.outline oracle device before a).activationId = some a := by
  cases hadmits : oracle.admits a with
  | true => exact activationId_outline_of_admits hreports hadmits
  | false =>
    obtain ⟨x, horigin, hxa⟩ := howns.resolve_left (by simp [hadmits])
    rw [activationId_outline_of_not_admits hadmits, horigin]
    exact hxa

/-- An activation that owns a row after its turn has it after the batch. -/
theorem Course.boundTo_of_owns (h : s.Course oracle device now u written done)
    (hplace : (a, before) ∈ places done) (howns : s.Owns oracle device before a) :
    ∃ w ∈ written, w.untimed = s.outline oracle device before a ∧ u.boundTo a = [w] := by
  obtain ⟨w, hw, hform⟩ := h.exists_written hplace
  refine ⟨w, hw, hform, h.healthy.boundTo_eq (h.mem_of_written hw) ?_⟩
  have hreports := h.reports a (mem_of_mem_places hplace).1
  rw [← activationId_outline_of_owns hreports howns, ← hform]
  rfl

/-- An activation has no row after the batch unless it owns one after its turn, or the row that the
first activation took over is bound to it. -/
theorem Course.owns_or_takenOver (h : s.Course oracle device now u written done)
    (hplace : (a, before) ∈ places done) (hx : x ∈ u.rows) (hxa : x.activationId = some a) :
    x ∈ written ∧ (s.Owns oracle device before a ∨
      ∃ r, s.takenOver oracle device done.getLast? = some r ∧ r.activationId = some a) := by
  rcases (h.rows x).mp hx with hwritten | ⟨-, hunbound, -⟩
  · refine ⟨hwritten, ?_⟩
    rcases h.bound hwritten hxa with ⟨before', hplace', howns⟩ | htaken
    · rw [eq_of_mem_places h.nodup hplace hplace']
      exact .inl howns
    · exact .inr htaken
  · exact absurd ⟨a, (mem_of_mem_places hplace).1, hxa⟩ hunbound

/-- If the first activation has taken over a row without being bound to it, it has no row after the
batch. -/
theorem Course.boundTo_first (h : s.Course oracle device now u written done)
    (hr : s.takenOver oracle device done.getLast? = some r) :
    ∃ first, done.getLast? = some first ∧ s.boundTo first = [] ∧ u.boundTo first = [] := by
  obtain ⟨first, hfirst, hadmits, hnil, -⟩ := takenOver_eq_some_iff.mp hr
  refine ⟨first, hfirst, hnil, boundTo_eq_nil_iff.mpr fun x hx hxa => ?_⟩
  obtain ⟨later, hdone⟩ := List.getLast?_eq_some_iff.mp hfirst
  have hplace : (first, []) ∈ places done := mem_places_iff.mpr ⟨later, hdone⟩
  obtain ⟨-, (hown | ⟨y, horigin, hya⟩) | ⟨r', hr', hra⟩⟩ := h.owns_or_takenOver hplace hx hxa
  · simp [hadmits] at hown
  · exact boundTo_eq_nil_iff.mp hnil y (origin_eq_some h.start horigin).1 hya
  · exact boundTo_eq_nil_iff.mp hnil r' (mem_of_takenOver hr').1 hra

/-- After the batch, an activation that owns no row after its turn has none, or the first activation
has none that came before it. -/
theorem Course.boundTo_cases (h : s.Course oracle device now u written done)
    (hplace : (a, before) ∈ places done) (howns : ¬ s.Owns oracle device before a) :
    u.boundTo a = [] ∨ s.boundTo a ≠ [] ∧ ∃ first ∈ before, u.boundTo first = [] := by
  rcases h.healthy.boundTo_cases a with hnil | ⟨x, hx, hxa, -⟩
  · exact .inl hnil
  · obtain ⟨-, hown | ⟨r, hr, hra⟩⟩ := h.owns_or_takenOver hplace hx hxa
    · exact absurd hown howns
    · obtain ⟨first, hfirst, hnil, hunil⟩ := h.boundTo_first hr
      have hbound : s.boundTo a ≠ [] := fun hnil' =>
        boundTo_eq_nil_iff.mp hnil' r (mem_of_takenOver hr).1 hra
      rw [getLast?_of_mem_places hplace] at hfirst
      rcases List.mem_cons.mp (List.mem_of_getLast? hfirst) with rfl | hmem
      · exact absurd hnil hbound
      · exact .inr ⟨hbound, first, hmem, hunil⟩

/-- A row of a device is the only one if all others are it. -/
theorem sole_of_forall (hx : x ∈ u.rows) (hkeyed : x.Keyed device)
    (honly : ∀ y ∈ u.rows, y.Keyed device → y = x) : u.sole device = some x := by
  have hnodup : (u.keyedBy device.appId device.token).Nodup :=
    u.nodup_rows.sublist List.filter_sublist
  refine sole_eq_some_iff.mpr (List.perm_singleton.mp
    ((List.perm_ext_iff_of_nodup hnodup (List.pairwise_singleton _ x)).mpr fun y => ?_))
  rw [mem_keyedBy, List.mem_singleton]
  constructor
  · rintro ⟨hy, hykeyed⟩
    exact honly y hy hykeyed
  · rintro rfl
    exact ⟨hx, hkeyed⟩

theorem Course.length_written (h : s.Course oracle device now u written done) :
    written.length = done.length := by
  have hplaces : ∀ l : List String, (places l).length = l.length := by
    intro l
    induction l with
    | nil => rfl
    | cons a l ih => rw [places, List.length_cons, List.length_cons, ih]
  calc
    written.length = (written.map Row.untimed).length := (List.length_map _).symm
    _ = (places done).length := by rw [h.form, List.length_map]
    _ = done.length := hplaces done

/-- A batch of several activations leaves several rows of the device. -/
theorem Course.sole_eq_none (h : s.Course oracle device now u written done)
    (hseveral : 2 ≤ done.length) : u.sole device = none := by
  rw [← h.length_written] at hseveral
  match written with
  | [] => simp at hseveral
  | [w] => simp at hseveral
  | w :: w' :: rest =>
    have hne : w.id ≠ w'.id := fun hid =>
      (List.nodup_cons.mp h.numbers).1 (hid ▸ List.mem_cons_self)
    have hmem : ∀ y ∈ w :: w' :: rest, y ∈ u.keyedBy device.appId device.token := fun y hy =>
      mem_keyedBy.mpr ⟨h.mem_of_written hy, h.keyed hy⟩
    cases hsole : u.sole device with
    | none => rfl
    | some r =>
      rw [sole_eq_some_iff.mp hsole] at hmem
      have hw := List.mem_singleton.mp (hmem w List.mem_cons_self)
      have hw' := List.mem_singleton.mp (hmem w' (List.mem_cons_of_mem _ List.mem_cons_self))
      exact absurd (congrArg Row.id (hw.trans hw'.symm)) hne

/-- The batch of one activation that had no row leaves its row as the only one of the device. -/
theorem Course.sole_eq_some (h : s.Course oracle device now u written [a])
    (hnil : s.boundTo a = []) :
    ∃ w, u.sole device = some w ∧ w.untimed = s.outline oracle device [] a := by
  obtain ⟨w, hwritten⟩ := List.length_eq_one_iff.mp h.length_written
  subst hwritten
  have hw : w ∈ [w] := List.mem_singleton.mpr rfl
  refine ⟨w, sole_of_forall (h.mem_of_written hw) (h.keyed hw) fun y hy hkeyed => ?_,
    (List.cons.inj h.form).1⟩
  rcases (h.rows y).mp hy with hwritten | ⟨-, -, huntouched⟩
  · exact List.mem_singleton.mp hwritten
  · exact absurd hnil (huntouched hkeyed a (List.mem_singleton.mpr rfl))

/-! ### The second batch -/

/-- What an activation that owns a row writes when the batch is carried out again: the same, unless
its row makes place for an activation before it. -/
theorem Course.outline_of_owns (h : s.Course oracle device now u written done)
    (hplace : (a, before) ∈ places done) (hadmits : oracle.admits a = false)
    (howns : s.Owns oracle device before a) :
    ((∃ e ∈ before, u.boundTo e = []) → u.outline oracle device before a = device.blank) ∧
      ((∀ e ∈ before, u.boundTo e ≠ []) →
        u.outline oracle device before a = s.outline oracle device before a) := by
  obtain ⟨w, hw, hform, hbound⟩ := h.boundTo_of_owns hplace howns
  rw [outline_of_not_admits hadmits] at hform ⊢
  rw [outline_of_not_admits hadmits, origin_of_bound hbound]
  constructor
  · intro hempty
    rw [if_pos ⟨h.keyed hw, hempty⟩]
    rfl
  · intro hfull
    rw [if_neg]
    · exact Row.takenBy_of_untimed hform
    · rintro ⟨-, e, he, henil⟩
      exact hfull e he henil

/-- An activation after the first that owns no row writes an empty row in both batches. -/
theorem Course.outline_of_later (h : s.Course oracle device now u written done)
    (hplace : (a, before) ∈ places done) (hbefore : before ≠ [])
    (howns : ¬ s.Owns oracle device before a) :
    s.outline oracle device before a = device.blank ∧
      u.outline oracle device before a = device.blank := by
  have hadmits : oracle.admits a = false := Bool.eq_false_iff.mpr fun h => howns (.inl h)
  have horigin : s.origin device before a = none := by
    cases horigin : s.origin device before a with
    | none => rfl
    | some x =>
      rcases origin_eq_some h.start horigin with ⟨-, ⟨-, hxa⟩ | ⟨hnil, -⟩⟩
      · exact absurd (.inr ⟨x, horigin, hxa⟩) howns
      · exact absurd hnil hbefore
  have hagain : u.origin device before a = none := by
    rcases h.healthy.boundTo_cases a with hnil | ⟨w, hw, hwa, hbound⟩
    · rw [origin_of_unbound hnil, if_neg hbefore]
    · have hempty : ∃ e ∈ before, u.boundTo e = [] :=
        ((h.boundTo_cases hplace howns).resolve_left (by simp [hbound])).2
      rw [origin_of_bound hbound,
        if_pos ⟨h.keyed (h.owns_or_takenOver hplace hw hwa).1, hempty⟩]
  rw [outline_of_not_admits hadmits, outline_of_not_admits hadmits, horigin, hagain]
  exact ⟨rfl, rfl⟩

/-- The first activation of a batch, if it owns no row, writes the same row again if it is the only
one. Otherwise it writes an empty row, and it did so before unless it has taken over a row with
content. -/
theorem Course.outline_of_first (h : s.Course oracle device now u written done)
    (hplace : (a, []) ∈ places done) (howns : ¬ s.Owns oracle device [] a) :
    (done = [a] → u.outline oracle device [] a = s.outline oracle device [] a) ∧
      (done ≠ [a] → u.outline oracle device [] a = device.blank ∧
        (s.outline oracle device [] a ≠ device.blank ↔
          ∃ r, s.takenOver oracle device (some a) = some r ∧ r.Loaded)) := by
  have hadmits : oracle.admits a = false := Bool.eq_false_iff.mpr fun h => howns (.inl h)
  have hnil : s.boundTo a = [] := by
    rcases h.start.boundTo_cases a with hnil | ⟨x, -, hxa, hbound⟩
    · exact hnil
    · refine absurd (.inr ⟨x, ?_, hxa⟩) howns
      rw [origin_of_bound hbound, if_neg (by simp)]
  have hunil : u.boundTo a = [] := (h.boundTo_cases hplace howns).resolve_right (by simp)
  have hbefore : s.outline oracle device [] a =
      ((s.sole device).getD device.blank).takenBy device := by
    rw [outline_of_not_admits hadmits, origin_of_unbound hnil, if_pos rfl]
  have hagain : u.outline oracle device [] a =
      ((u.sole device).getD device.blank).takenBy device := by
    rw [outline_of_not_admits hadmits, origin_of_unbound hunil, if_pos rfl]
  refine ⟨fun hone => ?_, fun hseveral => ?_⟩
  · subst hone
    obtain ⟨w, hsole, hform⟩ := h.sole_eq_some hnil
    rw [hbefore] at hform
    rw [hagain, hsole, hbefore]
    exact Row.takenBy_of_untimed hform
  · have hlength : 2 ≤ done.length := by
      obtain ⟨later, rfl⟩ := mem_places_iff.mp hplace
      cases later with
      | nil => exact absurd rfl hseveral
      | cons b later => simp
    rw [hagain, h.sole_eq_none hlength, hbefore, takenOver, if_pos ⟨hadmits, hnil⟩]
    refine ⟨rfl, ?_⟩
    cases s.sole device with
    | none =>
      refine iff_of_false (fun hne => hne rfl) ?_
      rintro ⟨r, ⟨⟩, -⟩
    | some r =>
      refine Row.takenBy_ne_blank_iff.trans ⟨fun hr => ⟨r, rfl, hr⟩, ?_⟩
      rintro ⟨_, ⟨⟩, hr⟩
      exact hr

/-- When the batch is carried out again, each activation writes the same row or an empty one. It is
an empty one instead of another just if the activation cannot be bound to and its own row makes
place for an activation before it, or if it is the first one and the row that it took over makes
place. -/
theorem Course.outline_again (h : s.Course oracle device now u written done)
    (hplace : (a, before) ∈ places done) :
    (u.outline oracle device before a = s.outline oracle device before a ∨
        u.outline oracle device before a = device.blank) ∧
      (u.outline oracle device before a ≠ s.outline oracle device before a ↔
        oracle.admits a = false ∧
          (s.Owns oracle device before a ∧ (∃ e ∈ before, u.boundTo e = []) ∨
            before = [] ∧ done ≠ [a] ∧
              ∃ r, s.takenOver oracle device (some a) = some r ∧ r.Loaded)) := by
  cases hadmits : oracle.admits a with
  | true =>
    obtain ⟨report, hreport, hs⟩ := outline_of_admits s device before hadmits
    obtain ⟨report', hreport', hu⟩ := outline_of_admits u device before hadmits
    obtain rfl := Option.some.inj (Except.ok.inj (hreport.symm.trans hreport'))
    exact ⟨.inl (hu.trans hs.symm), iff_of_false (fun hne => hne (hu.trans hs.symm)) (by simp)⟩
  | false =>
    rw [eq_self, true_and]
    by_cases howns : s.Owns oracle device before a
    · obtain ⟨hempty, hfull⟩ := h.outline_of_owns hplace hadmits howns
      have hreports := h.reports a (mem_of_mem_places hplace).1
      have hbound := activationId_outline_of_owns hreports howns
      have hnot : ¬ ∃ r, s.takenOver oracle device (some a) = some r ∧ r.Loaded := by
        rintro ⟨r, hr, -⟩
        obtain ⟨_, ⟨⟩, -, hnil, -⟩ := takenOver_eq_some_iff.mp hr
        obtain ⟨x, horigin, hxa⟩ := howns.resolve_left (by simp [hadmits])
        exact boundTo_eq_nil_iff.mp hnil x (origin_eq_some h.start horigin).1 hxa
      by_cases hbefore : ∃ e ∈ before, u.boundTo e = []
      · refine ⟨.inr (hempty hbefore), iff_of_true (fun heq => ?_) (.inl ⟨howns, hbefore⟩)⟩
        rw [← heq, hempty hbefore] at hbound
        cases hbound
      · have hsame := hfull fun e he henil => hbefore ⟨e, he, henil⟩
        refine ⟨.inl hsame, iff_of_false (fun hne => hne hsame) ?_⟩
        rintro (⟨-, hex⟩ | ⟨-, -, hr⟩)
        · exact hbefore hex
        · exact hnot hr
    · by_cases hbefore : before = []
      · subst hbefore
        obtain ⟨hone, hseveral⟩ := h.outline_of_first hplace howns
        by_cases hdone : done = [a]
        · refine ⟨.inl (hone hdone), iff_of_false (fun hne => hne (hone hdone)) ?_⟩
          rintro (⟨hown, -⟩ | ⟨-, hne, -⟩)
          · exact howns hown
          · exact hne hdone
        · obtain ⟨hu, hs⟩ := hseveral hdone
          refine ⟨.inr hu, ?_⟩
          rw [hu, ne_comm, hs]
          constructor
          · intro hr
            exact .inr ⟨rfl, hdone, hr⟩
          · rintro (⟨hown, -⟩ | ⟨-, -, hr⟩)
            · exact absurd hown howns
            · exact hr
      · obtain ⟨hs, hu⟩ := h.outline_of_later hplace hbefore howns
        refine ⟨.inr hu, iff_of_false (fun hne => hne (hu.trans hs.symm)) ?_⟩
        rintro (⟨hown, -⟩ | ⟨hnil, -⟩)
        · exact howns hown
        · exact hbefore hnil

/-! ### Both batches -/

/-- The rows after a batch are those that it has written and those that it has spared. -/
theorem Course.perm_rows (h : s.Course oracle device now u written done) :
    u.rows.Perm (written ++ s.spared device done) := by
  have hwritten : written.Nodup :=
    (List.pairwise_map.mp h.numbers).imp fun hne heq => hne (congrArg Row.id heq)
  have hall : (written ++ s.spared device done).Nodup := by
    refine List.nodup_append.mpr ⟨hwritten, s.nodup_spared device done, ?_⟩
    rintro x hx _ hspared rfl
    obtain ⟨hxs, huntouched⟩ := mem_spared.mp hspared
    exact h.apart x hxs huntouched (List.mem_map.mpr ⟨x, hx, rfl⟩)
  refine (List.perm_ext_iff_of_nodup u.nodup_rows hall).mpr fun x => ?_
  rw [h.rows, List.mem_append, mem_spared]

theorem Course.perm_untimed (h : s.Course oracle device now u written done) :
    (u.rows.map Row.untimed).Perm
      ((places done).map (fun p => s.outline oracle device p.2 p.1) ++
        (s.spared device done).map Row.untimed) := by
  rw [← h.form, ← List.map_append]
  exact h.perm_rows.map Row.untimed

/-- A second batch of the same activations spares what the first one has spared. -/
theorem Course.spared_again (h : s.Course oracle device now u written done) :
    (u.spared device done).Perm (s.spared device done) := by
  refine (List.perm_ext_iff_of_nodup (u.nodup_spared device done)
    (s.nodup_spared device done)).mpr fun x => ?_
  rw [mem_spared, mem_spared]
  constructor
  · rintro ⟨hx, hunbound, hkeyed⟩
    rcases (h.rows x).mp hx with hwritten | huntouched
    · have hfull := hkeyed (h.keyed hwritten)
      obtain ⟨a, before, hplace, hform⟩ := h.exists_place hwritten
      obtain ⟨hadone, hbefore⟩ := mem_of_mem_places hplace
      by_cases howns : s.Owns oracle device before a
      · have hbound : (s.outline oracle device before a).activationId = some a :=
          activationId_outline_of_owns (h.reports a hadone) howns
        rw [← hform] at hbound
        exact absurd ⟨a, hadone, hbound⟩ hunbound
      · rcases h.boundTo_cases hplace howns with hnil | ⟨-, first, hfirst, hnil⟩
        · exact absurd hnil (hfull a hadone)
        · exact absurd hnil (hfull first (hbefore first hfirst))
    · exact huntouched
  · rintro ⟨hxs, huntouched⟩
    refine ⟨(h.rows x).mpr (.inr ⟨hxs, huntouched⟩), huntouched.1, fun hkeyed a ha => ?_⟩
    have hfull := huntouched.2 hkeyed
    obtain ⟨later, before, hdone⟩ := List.append_of_mem ha
    have hplace : (a, before) ∈ places done := mem_places_iff.mpr ⟨later, hdone⟩
    have howns : s.Owns oracle device before a := by
      refine .inr ?_
      rcases h.start.boundTo_cases a with hnil | ⟨y, -, hya, hbound⟩
      · exact absurd hnil (hfull a ha)
      · refine ⟨y, ?_, hya⟩
        rw [origin_of_bound hbound, if_neg]
        rintro ⟨-, e, he, hnil⟩
        exact hfull e ((mem_of_mem_places hplace).2 e he) hnil
    obtain ⟨w, -, -, hbound⟩ := h.boundTo_of_owns hplace howns
    rw [hbound]
    exact List.cons_ne_nil w []

/-- If the second batch registers the same activations, it leaves the same rows just if each
activation writes the same row again. -/
theorem Course.perm_again_iff (h : s.Course oracle device now u written done)
    (h' : u.Course oracle device now' v written' done) :
    (v.rows.map Row.untimed).Perm (u.rows.map Row.untimed) ↔
      ∀ p ∈ places done, u.outline oracle device p.2 p.1 = s.outline oracle device p.2 p.1 := by
  have hspared := h.spared_again.map Row.untimed
  rw [← perm_map_iff_of_eq_or fun p hp => (h.outline_again hp).1]
  constructor
  · intro hperm
    exact (List.perm_append_right_iff _).mp
      (((h'.perm_untimed.trans (hspared.append_left _)).symm.trans hperm).trans h.perm_untimed)
  · intro hperm
    exact (h'.perm_untimed.trans (hspared.append_left _)).trans
      ((hperm.append_right _).trans h.perm_untimed.symm)

end Table

end PushRegistry
