import PushRegistry.Enrolment.Refresh
import PushRegistry.Enrolment.Removal
import PushRegistry.Proofs.Enrolment.Enrolled

/-!
# Refreshing and removing

In a healthy table a refreshed activation has at most one row, which is written with another state
and otherwise as it was. Removal erases the rows of an application and a token. Both keep the table
healthy.

## Main definitions

* `Table.refreshed`, `Table.removed`: what a refresh and a removal do to a table.

## Main results

* `Enrolment.settles_refreshActivation`, `Enrolment.settles_removeToken`: they are what the work
  does.
* `Table.refreshed_eq_ok`: a refresh changes the state of one row.
-/

namespace PushRegistry

namespace Table

/-- What a refresh does to a healthy table. -/
def refreshed (t : Table) (oracle : Oracle) (activationId : String) :
    Except Failure (Nat × Table) :=
  match t.boundTo activationId with
  | [] => .ok (0, t)
  | row :: _ => do
    let answer ← oracle activationId
    (t.saved { row.read with isActive := answer.any (·.status.isActive) }).map fun x => (1, x.2)

/-- What a removal does to a table. -/
def removed (t : Table) (appId : Int) (token : String) : Nat × Table :=
  let t' := t.erase ((t.keyedBy appId token).map Row.id)
  (t.rows.length - t'.rows.length, t')

end Table

namespace Enrolment

open Work

variable {t : Table}

/-! ### Refreshing -/

theorem comesTo_setActive {row : Row} (hmem : row ∈ t.rows) (hfits : fitsStore row.id = true)
    (isActive : Bool) :
    (setActive isActive [row.read]).ComesTo t
      ((t.saved { row.read with isActive }).map fun x => ((), x.2)) := by
  have hdone : ∀ t', (setActive isActive []).ComesTo t' (.ok ((), t')) := fun t' => comesTo_pure ()
  have hwork := (comesTo_save_read hmem hfits isActive).bind fun _ t' _ => hdone t'
  cases hsaved : t.saved { row.read with isActive } <;> rw [hsaved] at hwork <;> exact hwork

theorem comesTo_setActive_outOfRange {row : Row} (h : fitsStore row.id = false)
    (isActive : Bool) :
    (setActive isActive [row.read]).ComesTo t (.error (.defect .integerRange)) := by
  have hid : ({ row.read with isActive } : Registration).id = some row.id := rfl
  exact (comesTo_save_outOfRange hid h).bind_error _

/-- A refresh does what `Table.refreshed` says, unless a number is out of range. -/
theorem settles_refreshActivation (ht : t.Healthy) (oracle : Oracle) (a : String) :
    (refreshActivation oracle a).Settles t (t.refreshed oracle a) ∨
      (∃ row ∈ t.rows, fitsStore row.id = false) ∧
        (refreshActivation oracle a).Settles t (.error (.defect .integerRange)) := by
  have hfind : (findByActivation a).ComesTo t (.ok ((t.boundTo a).map Row.read, t)) :=
    comesTo_findWhere ht.readable _
  rcases ht.boundTo_cases a with hrows | ⟨row, hmem, -, hrows⟩
  · rw [Table.refreshed, hrows]
    rw [hrows] at hfind
    exact .inl (hfind.bind_settles (settles_pure 0))
  · rw [Table.refreshed, hrows]
    rw [hrows] at hfind
    have hask := comesTo_ask (t := t) oracle a
    cases hanswer : oracle a with
    | error e =>
      rw [hanswer] at hask
      exact .inl (hfind.bind_settles (hask.bind_error _).settles_error)
    | ok answer =>
      rw [hanswer] at hask
      by_cases hfits : fitsStore row.id = true
      · have hset := (comesTo_setActive hmem hfits (answer.any (·.status.isActive))).commit
          fun _ => 1
        have hresult : ∀ r : Except Failure (Registration × Table),
            (r.map fun x => ((), x.2)).map (fun x => (1, x.2)) = r.map fun x => (1, x.2) := by
          intro r
          cases r <;> rfl
        rw [hresult] at hset
        exact .inl (hfind.bind_settles (hask.bind_settles hset))
      · have hset := comesTo_setActive_outOfRange (t := t) (Bool.not_eq_true _ ▸ hfits)
          (answer.any (·.status.isActive))
        refine .inr ⟨⟨row, hmem, by simpa using hfits⟩, ?_⟩
        exact hfind.bind_settles (hask.bind_settles (hset.bind_error _).settles_error)

/-! ### Removing -/

/-- On a table that can be read a removal does what `Table.removed` says, unless a number is out of
range. -/
theorem settles_removeToken (ht : ∀ row ∈ t.rows, row.Readable) (appId : Int) (token : String) :
    (removeToken appId token).Settles t (.ok (t.removed appId token)) ∨
      ¬ t.Fits appId [] ∧ (removeToken appId token).Settles t (.error (.defect .integerRange)) := by
  by_cases happ : fitsStore appId = true
  · have hfind : (findByAppAndToken appId token).ComesTo t
        (.ok ((t.keyedBy appId token).map Row.read, t)) := by
      rw [findByAppAndToken, happ]
      exact comesTo_findWhere ht _
    by_cases hrows : t.keyedBy appId token = []
    · rw [Table.removed, hrows]
      rw [hrows] at hfind
      simp only [List.map_nil, Table.erase_nil, Nat.sub_self]
      exact .inl (hfind.bind_settles (settles_pure 0))
    · have hwork : removeToken appId token = findByAppAndToken appId token >>= fun rs =>
          if rs.isEmpty then pure 0
          else deleteAll rs >>= fun removed => commit >>= fun _ => pure removed := rfl
      have hempty : ((t.keyedBy appId token).map Row.read).isEmpty = false := by simpa using hrows
      rw [hwork]
      by_cases hids : ∀ row ∈ t.keyedBy appId token, fitsStore row.id = true
      · refine .inl (hfind.bind_settles ?_)
        rw [hempty]
        exact (comesTo_deleteAll hrows hids).commit id
      · simp only [Classical.not_forall, Bool.not_eq_true] at hids
        obtain ⟨row, hrow, hout⟩ := hids
        refine .inr ⟨fun h => ?_, hfind.bind_settles ?_⟩
        · rw [h.ids row (Table.mem_keyedBy.mp hrow).1 (by simp)] at hout
          cases hout
        · rw [hempty]
          exact ((comesTo_deleteAll_outOfRange ⟨row, hrow, hout⟩).bind_error _).settles_error
  · have hfind : (findByAppAndToken appId token).ComesTo t (.error (.defect .integerRange)) := by
      rw [findByAppAndToken, Bool.eq_false_iff.mpr happ]
      exact comesTo_findWhere_outOfRange _
    exact .inr ⟨fun h => happ h.app, (hfind.bind_error _).settles_error⟩

end Enrolment

namespace Table

variable {t t' : Table} {oracle : Oracle} {a : String} {n : Nat}

/-! ### What they leave -/

/-- A removal leaves the rows that do not have the application and the token. -/
theorem rows_removed (t : Table) (appId : Int) (token : String) :
    (t.removed appId token).2.rows =
      t.rows.filter fun row => !(row.appId == appId && row.token == token) := by
  refine List.filter_congr fun row hrow => congrArg (!·) (Bool.eq_iff_iff.mpr ?_)
  rw [List.contains_iff_mem, List.mem_map]
  constructor
  · rintro ⟨x, hx, hid⟩
    obtain ⟨hmem, hkeyed⟩ := mem_select.mp hx
    rwa [← eq_of_id_eq hmem hrow hid]
  · exact fun hkeyed => ⟨row, mem_select.mpr ⟨hrow, hkeyed⟩, rfl⟩

/-- A removal counts the rows of the application and the token. -/
theorem count_removed (t : Table) (appId : Int) (token : String) :
    (t.removed appId token).1 = (t.keyedBy appId token).length := by
  have hsplit : ∀ p : Row → Bool,
      t.rows.length = (t.rows.filter p).length + (t.rows.filter fun row => !p row).length := by
    intro p
    rw [t.rows.length_eq_countP_add_countP p, List.countP_eq_length_filter,
      List.countP_eq_length_filter]
    simp
  change t.rows.length - (t.removed appId token).2.rows.length = (t.rows.filter _).length
  rw [rows_removed, hsplit fun row => row.appId == appId && row.token == token,
    Nat.add_sub_cancel]

/-- A refresh leaves the table as it was, or it changes the state of the row of the activation to
what was answered. -/
theorem refreshed_eq_ok (h : t.refreshed oracle a = .ok (n, t')) :
    n = 0 ∧ t' = t ∨ n = 1 ∧ ∃ answer row, oracle a = .ok answer ∧ row ∈ t.rows ∧
      row.activationId = some a ∧
      ∃ hadmits : t.forbids { row with isActive := answer.any (·.status.isActive) } = false,
        t' = t.put { row with isActive := answer.any (·.status.isActive) } hadmits := by
  rw [refreshed] at h
  split at h
  · cases h
    exact .inl ⟨rfl, rfl⟩
  · next row rows hrows =>
    obtain ⟨hmem, ha⟩ := mem_boundTo.mp (show row ∈ t.boundTo a by
      rw [hrows]
      exact List.mem_cons_self)
    obtain ⟨answer, hanswer, h⟩ := bind_eq_ok_iff.mp h
    obtain ⟨x, hsaved, ⟨⟩⟩ := bind_eq_ok_iff.mp h
    obtain ⟨written, hwritten, ⟨hadmits, ht'⟩, -⟩ := saved_eq_ok_iff.mp hsaved
    obtain ⟨-, -, rfl⟩ := Row.ofRegistration_read_eq_ok_iff.mp hwritten
    exact .inr ⟨rfl, answer, row, hanswer, hmem, ha, hadmits, ht'⟩

/-- A refresh keeps a table healthy. -/
theorem Healthy.refreshed (ht : t.Healthy) (h : t.refreshed oracle a = .ok (n, t')) :
    t'.Healthy := by
  rcases refreshed_eq_ok h with ⟨-, rfl⟩ | ⟨-, answer, row, -, hrow, -, hadmits, rfl⟩
  · exact ht
  · refine ht.put hadmits (ht.readable row hrow) fun x hx hid b hb hxb => hid ?_
    rw [ht.single x hx row hrow b hxb hb]

/-- A removal keeps a table healthy. -/
theorem Healthy.removed (ht : t.Healthy) (appId : Int) (token : String) :
    (t.removed appId token).2.Healthy :=
  ht.erase _

/-- A refresh fails with the failure of the question, or because its row is not saved. -/
theorem refreshed_eq_error {e : Failure} (h : t.refreshed oracle a = .error e) :
    oracle a = .error e ∨ e.Accidental ∨ ∃ d, e = .defect d := by
  rw [refreshed] at h
  split at h
  · cases h
  · next row rows hrows =>
    rcases bind_eq_error_iff.mp h with hanswer | ⟨answer, -, h⟩
    · exact .inl hanswer
    · rcases bind_eq_error_iff.mp h with hsaved | ⟨x, -, ⟨⟩⟩
      exact .inr (saved_eq_error hsaved)

end Table

end PushRegistry
