import PushRegistry.Proofs.Enrolment.Enrolled

/-!
# One row for each activation

An enrolment keeps a healthy table healthy. The row that it writes is bound to the activation that
was asked about or as before. No other row is then bound to that activation: either the row of the
activation was chosen, or it was claimed by the batch and carries the token of the device, and then
the index refuses a second row.

## Main definitions

* `Oracle.ReportsAsked`: answers about the activation that was asked about.
* `Table.Claims`: the claimed rows belong to the device of the batch.

## Main results

* `Table.Healthy.registered`: a request for one activation.
* `Table.Healthy.registeredInBatch`, `Table.Claims.registeredInBatch`: an activation of a batch.
-/

namespace PushRegistry

/-- Whether a report about an activation names it. -/
def Oracle.ReportsAsked (oracle : Oracle) (activationId : String) : Prop :=
  ∀ report, oracle activationId = .ok (some report) → report.activationId = activationId

/-- The service that knows every activation as active, without a user. -/
def Oracle.allActive : Oracle := fun activationId => .ok (some ⟨activationId, .active, .null⟩)

theorem Oracle.reportsAsked_allActive (a : String) : allActive.ReportsAsked a := by
  rintro _ ⟨⟩
  rfl

namespace Table

/-- Whether all claimed rows have the application and the token of a device. -/
def Claims (t : Table) (device : Device) (claimed : List Int) : Prop :=
  ∀ row ∈ t.rows, row.id ∈ claimed → row.appId = device.appId ∧ row.token = device.token

variable {t t' : Table} {oracle : Oracle} {now appId : Int} {device : Device} {claimed : List Int}
  {chosen : Option Row} {a : String} {answer : Option ActivationReport} {saved : Registration}

theorem claims_nil : t.Claims device [] := by
  intro row _ hclaimed
  cases hclaimed

/-- The row that is written is bound to the activation asked about, or as the row chosen is. -/
theorem activationId_enrolledRow_of_reports (t : Table) (appId : Int) (device : Device) (now : Int)
    (chosen : Option Row) (hreports : oracle.ReportsAsked a)
    (hanswer : oracle a = .ok answer) :
    (t.enrolledRow appId device now chosen answer).activationId = chosen.bind Row.activationId ∨
      (t.enrolledRow appId device now chosen answer).activationId = some a := by
  rcases activationId_enrolledRow t appId device now chosen answer with
    hkept | ⟨report, rfl, -, hbound⟩
  · exact .inl hkept
  · exact .inr (hreports report hanswer ▸ hbound)

/-- An enrolment keeps a table healthy if each row of its activation is the row chosen or carries
the token. -/
theorem Healthy.enrolled (ht : t.Healthy) (hreports : oracle.ReportsAsked a)
    (hchosen : ∀ row, chosen = some row → row ∈ t.rows)
    (hbound : ∀ x ∈ t.rows, x.activationId = some a → chosen = some x ∨ x.token = device.token)
    (h : t.enrolled oracle now appId device chosen a = .ok (saved, t')) : t'.Healthy := by
  obtain ⟨answer, hanswer, -, -, hadmits, rfl⟩ := enrolled_eq_ok h
  refine ht.put hadmits readable_enrolledRow fun x hx hid b hb hxb => ?_
  rcases activationId_enrolledRow_of_reports t appId device now chosen hreports hanswer with
    hkept | hasked
  · rw [hkept] at hb
    obtain ⟨row, hrow, hrowb⟩ := Option.bind_eq_some_iff.mp hb
    obtain rfl := ht.single x hx row (hchosen row hrow) b hxb hrowb
    exact hid (by rw [id_enrolledRow, hrow]; rfl)
  · obtain rfl : b = a := Option.some.inj (hb.symm.trans hasked)
    rcases hbound x hx hxb with hrow | htoken
    · exact hid (by rw [id_enrolledRow, hrow]; rfl)
    · have hclash := (forbids_eq_false_iff ht.indexed).mp hadmits x hx
      have : (t.enrolledRow appId device now chosen answer).clashes x = true :=
        Row.clashes_eq_true_iff.mpr ⟨fun h => hid h.symm, ⟨b, hb, hxb⟩,
          by rw [token_enrolledRow, htoken]⟩
      rw [this] at hclash
      cases hclash

/-- A request for one activation keeps a table healthy. -/
theorem Healthy.registered (ht : t.Healthy) (hreports : oracle.ReportsAsked a)
    (h : t.registered oracle now device a = .ok (saved, t')) : t'.Healthy := by
  have hbound : ∀ x ∈ t.rows, x.activationId = some a → t.candidates device a = [x] :=
    fun x hx hxa => candidates_of_bound (ht.boundTo_eq hx hxa)
  rw [Table.registered] at h
  rcases hrows : t.candidates device a with _ | ⟨row, _ | ⟨y, rows⟩⟩
  · rw [hrows] at h hbound
    refine ht.enrolled hreports (fun row hrow => by cases hrow) (fun x hx hxa => ?_) h
    cases hbound x hx hxa
  · rw [hrows] at h hbound
    refine ht.enrolled hreports (fun x hx => ?_) (fun x hx hxa => .inl ?_) h
    · obtain rfl := Option.some.inj hx
      exact mem_of_mem_candidates (by rw [hrows]; exact List.mem_singleton.mpr rfl)
    · rw [List.singleton_inj.mp (hbound x hx hxa)]
  · rw [hrows] at h
    cases h

theorem Healthy.reconciled (ht : t.Healthy) (hreports : oracle.ReportsAsked a)
    (h : t.reconciled oracle now device a = .ok (saved, t')) : t'.Healthy := by
  rcases ht.reconciled_cases oracle now device a with hresult | ⟨-, hresult⟩
  · exact ht.registered hreports (hresult ▸ h)
  · cases hresult.symm.trans h

/-- A request for one activation fails as an enrolment does, or among several candidates. -/
theorem registered_eq_error {e : Failure} (h : t.registered oracle now device a = .error e) :
    (oracle a = .error e ∨ e.Accidental ∨ ∃ d, e = .defect d) ∨
      2 ≤ (t.candidates device a).length ∧
        e = .app (.ambiguousToken device.appId (t.candidates device a).length) := by
  rw [Table.registered] at h
  rcases hrows : t.candidates device a with _ | ⟨row, _ | ⟨y, rows⟩⟩
  · rw [hrows] at h
    exact .inl (enrolled_eq_error h)
  · rw [hrows] at h
    exact .inl (enrolled_eq_error h)
  · rw [hrows] at h
    cases h
    exact .inr ⟨by simp, rfl⟩

/-! ### Batches -/

theorem Healthy.vacated (ht : t.Healthy) : (t.vacated device claimed a).Healthy := by
  rw [Table.vacated]
  split
  · exact ht
  · exact ht.erase _

theorem mem_vacated_of_chosen {row : Row} (h : t.chosenInBatch device claimed a = some row) :
    row ∈ (t.vacated device claimed a).rows := by
  obtain ⟨hrows, hmem, -⟩ := mem_of_chosenInBatch h
  rw [vacated_of_singleton hrows]
  exact hmem

/-- An activation of a batch keeps a table healthy. -/
theorem Healthy.registeredInBatch (ht : t.Healthy) (hreports : oracle.ReportsAsked a)
    (hclaims : t.Claims device claimed)
    (h : t.registeredInBatch oracle now device claimed a = .ok (saved, t')) : t'.Healthy := by
  refine ht.vacated.enrolled hreports (fun row => mem_vacated_of_chosen) (fun x hx hxa => ?_) h
  have hmem := (mem_vacated.mp hx).1
  rw [chosenInBatch_of_singleton (candidates_of_bound (ht.boundTo_eq hmem hxa))]
  by_cases hclaimed : x.id ∈ claimed
  · exact .inr (hclaims x hmem hclaimed).2
  · rw [if_neg hclaimed]
    exact .inl rfl

/-- The row that an activation of a batch writes. -/
def batchRow (t : Table) (device : Device) (now : Int) (claimed : List Int) (activationId : String)
    (answer : Option ActivationReport) : Row :=
  (t.vacated device claimed activationId).enrolledRow device.appId device now
    (t.chosenInBatch device claimed activationId) answer

/-- An activation of a batch writes its row, and leaves what has not made place for it. -/
theorem registeredInBatch_eq_ok
    (h : t.registeredInBatch oracle now device claimed a = .ok (saved, t')) :
    ∃ answer, oracle a = .ok answer ∧ saved.id = some (t.batchRow device now claimed a answer).id ∧
      ∀ x, x ∈ t'.rows ↔ x = t.batchRow device now claimed a answer ∨
        x ∈ (t.vacated device claimed a).rows ∧
          x.id ≠ (t.batchRow device now claimed a answer).id := by
  obtain ⟨answer, hanswer, -, hid, hadmits, rfl⟩ := enrolled_eq_ok h
  exact ⟨answer, hanswer, hid, fun x => mem_put hadmits⟩

/-- The row that an activation of a batch writes is claimed with the token of the device. -/
theorem Claims.registeredInBatch (hclaims : t.Claims device claimed)
    (h : t.registeredInBatch oracle now device claimed a = .ok (saved, t')) :
    t'.Claims device (saved.id.toList ++ claimed) := by
  obtain ⟨answer, -, hid, hrows⟩ := registeredInBatch_eq_ok h
  intro x hx hclaimed
  rcases (hrows x).mp hx with rfl | ⟨hold, hne⟩
  · exact ⟨appId_enrolledRow, token_enrolledRow⟩
  · rw [hid] at hclaimed
    rcases List.mem_append.mp hclaimed with hnew | hclaimed
    · exact absurd (List.mem_singleton.mp hnew) hne
    · exact hclaims x (mem_vacated.mp hold).1 hclaimed

/-- The rows that are not claimed were there before. -/
theorem Fits.registeredInBatch (hfits : t.Fits device.appId claimed)
    (h : t.registeredInBatch oracle now device claimed a = .ok (saved, t')) :
    t'.Fits device.appId (saved.id.toList ++ claimed) where
  app := hfits.app
  ids x hx hclaimed := by
    obtain ⟨answer, -, hid, hrows⟩ := registeredInBatch_eq_ok h
    rw [hid, List.mem_append, not_or] at hclaimed
    rcases (hrows x).mp hx with rfl | ⟨hold, -⟩
    · exact absurd (List.mem_singleton.mpr rfl) hclaimed.1
    · exact hfits.ids x (mem_vacated.mp hold).1 hclaimed.2

end Table

end PushRegistry
