import PushRegistry.Proofs.Runs

/-!
# Rows that share a token

Where batches are not enabled, an application should have one row for each token. A request that
finds its device by application and token keeps this. A request that finds its device by activation
under another token does not look for the token that it writes: if another row of the application
has it already, two rows share it from then on, and the next request for the token is refused.

This is the only way in which a token gets a second row.

## Main definitions

* `Table.TokenUnique`: tables in which no two rows of an application share a token.
* `Table.Collides`, `Round.Collides`: the requests that write a token that another row has.

## Main results

* `Table.tokenUnique_registered_iff`: what one request does.
* `tokenUnique_history_iff`: tokens stay unique along a run just if no request collides.
-/

namespace PushRegistry

namespace Table

variable {t t' : Table} {oracle : Oracle} {now : Int} {device : Device} {a : String} {row : Row}

/-- Whether no two rows of an application have the same token. -/
def TokenUnique (t : Table) : Prop :=
  ∀ x ∈ t.rows, ∀ y ∈ t.rows, x.appId = y.appId → x.token = y.token → x = y

/-- Whether the row of an activation has another token than a device, and the token of the device
is that of another row of the application. -/
def Collides (t : Table) (device : Device) (activationId : String) : Prop :=
  ∃ x ∈ t.rows, ∃ y ∈ t.rows, x.activationId = some activationId ∧ x.token ≠ device.token ∧
    y.appId = x.appId ∧ y.token = device.token

instance (t : Table) : Decidable t.TokenUnique :=
  inferInstanceAs (Decidable
    (∀ x ∈ t.rows, ∀ y ∈ t.rows, x.appId = y.appId → x.token = y.token → x = y))

theorem tokenUnique_empty : Table.empty.TokenUnique := by
  intro x hx
  cases hx

theorem TokenUnique.erase (ht : t.TokenUnique) (ids : List Int) : (t.erase ids).TokenUnique :=
  fun x hx y hy => ht x (mem_erase.mp hx).1 y (mem_erase.mp hy).1

/-- A row may be put into a table if no other row has its application and token. -/
theorem tokenUnique_put_iff (ht : t.TokenUnique) (h : t.forbids row = false) :
    (t.put row h).TokenUnique ↔
      ∀ y ∈ t.rows, y.appId = row.appId → y.token = row.token → y.id = row.id := by
  constructor
  · intro hput y hy happ htoken
    by_cases hid : y.id = row.id
    · exact hid
    · rw [hput y ((mem_put h).mpr (.inr ⟨hy, hid⟩)) row ((mem_put h).mpr (.inl rfl)) happ htoken]
  · intro hrow x hx y hy happ htoken
    rcases (mem_put h).mp hx with rfl | ⟨hxt, hxid⟩ <;>
      rcases (mem_put h).mp hy with rfl | ⟨hyt, hyid⟩
    · rfl
    · exact absurd (hrow y hyt happ.symm htoken.symm) hyid
    · exact absurd (hrow x hxt happ htoken) hxid
    · exact ht x hxt y hyt happ htoken

/-- A device has at most one candidate where tokens are unique. -/
theorem TokenUnique.length_candidates_le_one (hunique : t.TokenUnique) (ht : t.Healthy)
    (device : Device) (a : String) :
    (t.candidates device a).length ≤ 1 := by
  rcases ht.boundTo_cases a with hrows | ⟨row, -, -, hrows⟩
  · rw [candidates_of_unbound hrows]
    refine length_select_le_one fun x hx y hy hxkey hykey => ?_
    simp only [Bool.and_eq_true, beq_iff_eq] at hxkey hykey
    exact hunique x hx y hy (hxkey.1.trans hykey.1.symm) (hxkey.2.trans hykey.2.symm)
  · rw [candidates_of_bound hrows]
    exact Nat.le_refl 1

/-- A refresh writes no token. -/
theorem TokenUnique.refreshed {n : Nat} (ht : t.TokenUnique)
    (h : t.refreshed oracle a = .ok (n, t')) : t'.TokenUnique := by
  rcases refreshed_eq_ok h with ⟨-, rfl⟩ | ⟨-, answer, row, -, hrow, -, hadmits, rfl⟩
  · exact ht
  · refine (tokenUnique_put_iff ht hadmits).mpr fun y hy happ htoken => ?_
    rw [ht y hy row hrow happ htoken]

/-- What an enrolment needs to keep tokens unique. -/
theorem tokenUnique_enrolled_iff {appId : Int} {chosen : Option Row} {saved : Registration}
    (hunique : t.TokenUnique)
    (h : t.enrolled oracle now appId device chosen a = .ok (saved, t')) :
    t'.TokenUnique ↔ ∀ y ∈ t.rows, y.appId = appId → y.token = device.token →
      y.id = (chosen.map Row.id).getD t.nextId := by
  obtain ⟨answer, -, -, -, hadmits, rfl⟩ := enrolled_eq_ok h
  rw [tokenUnique_put_iff hunique hadmits, appId_enrolledRow, token_enrolledRow, id_enrolledRow]

/-- A request for one activation keeps tokens unique just if it does not collide. -/
theorem tokenUnique_registered_iff {saved : Registration} (ht : t.Healthy)
    (hunique : t.TokenUnique) (h : t.registered oracle now device a = .ok (saved, t')) :
    t'.TokenUnique ↔ ¬ t.Collides device a := by
  rw [registered] at h
  rcases ht.boundTo_cases a with hnil | ⟨x, hx, hxa, hrows⟩
  · have hcollides : ¬ t.Collides device a := by
      rintro ⟨x, hx, y, hy, hxa, -⟩
      exact boundTo_eq_nil_iff.mp hnil x hx hxa
    have hmem : ∀ y, y ∈ t.candidates device a ↔
        y ∈ t.rows ∧ y.appId = device.appId ∧ y.token = device.token := by
      intro y
      rw [candidates_of_unbound hnil, mem_keyedBy]
    refine iff_of_true ?_ hcollides
    rcases hcandidates : t.candidates device a with _ | ⟨row, _ | ⟨y, rest⟩⟩
    · rw [hcandidates] at h hmem
      refine (tokenUnique_enrolled_iff hunique h).mpr fun y hy happ htoken => ?_
      cases (hmem y).mpr ⟨hy, happ, htoken⟩
    · rw [hcandidates] at h hmem
      obtain ⟨hrow, hrowapp, hrowtoken⟩ := (hmem row).mp (List.mem_singleton.mpr rfl)
      refine (tokenUnique_enrolled_iff hunique h).mpr fun y hy happ htoken => ?_
      rw [hunique y hy row hrow happ (htoken.trans hrowtoken.symm)]
      rfl
    · rw [hcandidates] at h
      cases h
  · rw [candidates_of_bound hrows] at h
    rw [tokenUnique_enrolled_iff hunique h]
    constructor
    · rintro hsame ⟨x', hx', y, hy, hxa', htoken, happ, hytoken⟩
      obtain rfl := ht.single x' hx' x hx a hxa' hxa
      obtain rfl := eq_of_id_eq hy hx (hsame y hy happ hytoken)
      exact htoken hytoken
    · intro hcollides y hy happ hytoken
      by_cases htoken : x.token = device.token
      · rw [hunique y hy x hx happ (hytoken.trans htoken.symm)]
        rfl
      · exact absurd ⟨x, hx, y, hy, hxa, htoken, happ, hytoken⟩ hcollides

end Table

/-! ### Runs without batches -/

namespace Round

variable {t : Table} {round : Round}

/-- Whether a round writes a token that another row has. -/
def Collides (round : Round) (t : Table) : Prop :=
  ∃ request device activationId, round.order = .single request ∧
    request.checked = .ok (device, activationId) ∧ (round.run t).1 = .ok () ∧
    t.Collides device activationId

/-- A round without a batch keeps tokens unique just if it does not collide. -/
theorem tokenUnique_after_iff (ht : t.Healthy) (hunique : t.TokenUnique)
    (h : round.batchesEnabled = false) :
    (round.after t).TokenUnique ↔ ¬ round.Collides t := by
  rcases run_cases ht (.inl h) with ⟨hrun, -, hafter⟩ | ⟨e, hrun, -, hafter, -⟩
  · rcases Table.carriedOut_eq_ok hafter with
      ⟨request, device, a, saved, horder, hchecked, hresult⟩ | ⟨value, a, n, horder, hresult⟩ |
      ⟨first, second, appId, token, horder, hresult⟩
    · rw [Table.tokenUnique_registered_iff ht hunique hresult]
      refine not_congr ⟨fun hcollides => ?_, ?_⟩
      · exact ⟨request, device, a, horder, hchecked, hrun, hcollides⟩
      · rintro ⟨request', device', a', horder', hchecked', -, hcollides⟩
        obtain rfl : request = request' := Order.single.inj (horder.symm.trans horder')
        obtain ⟨rfl, rfl⟩ := Prod.mk.inj (Except.ok.inj (hchecked.symm.trans hchecked'))
        exact hcollides
    · refine iff_of_true (hunique.refreshed hresult) ?_
      rintro ⟨request, device, a', horder', -⟩
      cases horder.symm.trans horder'
    · refine iff_of_true (hresult ▸ hunique.erase _) ?_
      rintro ⟨request, device, a', horder', -⟩
      cases horder.symm.trans horder'
  · refine iff_of_true (by rw [hafter]; exact hunique) ?_
    rintro ⟨request, device, a, -, -, hok, -⟩
    cases hrun.symm.trans hok

/-- Where tokens are unique no request is refused because its token has several rows. -/
theorem exists_error_of_ambiguous (ht : t.Healthy) (hunique : t.TokenUnique)
    (h : round.batchesEnabled = false) {appId : Int} {n : Nat}
    (hfailure : .app (.ambiguousToken appId n) ∈ round.failures t) :
    ∃ a, round.oracle a = .error (.app (.ambiguousToken appId n)) := by
  rcases run_cases ht (.inl h) with ⟨-, hfailures, -⟩ | ⟨e, -, hfailures, -, hcause⟩
  · rw [hfailures] at hfailure
    cases hfailure
  · rw [hfailures, List.mem_singleton] at hfailure
    subst hfailure
    rcases hcause with hresult | hresult | hcause
    · rcases Table.carriedOut_eq_error hresult with ⟨error, heq, hkind⟩ | ⟨a, hasked⟩ |
        ⟨request, device, a, -, -, hseveral, -⟩
      · cases heq
        rcases hkind with hkind | hkind <;> cases hkind
      · rcases hasked with hasked | hasked | ⟨d, hd⟩
        · exact ⟨a, hasked⟩
        · cases hasked
        · cases hd
      · have := hunique.length_candidates_le_one ht device a
        omega
    · cases hresult
    · cases hcause

end Round

theorem tokenUnique_history_aux {t : Table} (ht : t.Healthy) (hunique : t.TokenUnique)
    (rounds : List Round) (hreports : ∀ round ∈ rounds, ∀ a, round.oracle.ReportsAsked a)
    (hdisabled : ∀ round ∈ rounds, round.batchesEnabled = false) :
    (∀ x ∈ history t rounds, x.1.TokenUnique ∧ ∀ t' ∈ x.2.tables x.1, t'.TokenUnique) ↔
      ∀ x ∈ history t rounds, ¬ x.2.Collides x.1 := by
  induction rounds generalizing t with
  | nil => simp [history]
  | cons round rest ih =>
    obtain ⟨hreport, hreports⟩ := List.forall_mem_cons.mp hreports
    obtain ⟨hround, hdisabled⟩ := List.forall_mem_cons.mp hdisabled
    have hafter : (round.after t).Healthy := (Round.staysHealthy ht hreport).after
    have hstep := Round.tokenUnique_after_iff ht hunique hround
    have htables := Round.forall_tables_iff hunique (Round.tables_cases ht (.inl hround))
    simp only [history, List.forall_mem_cons]
    constructor
    · rintro ⟨⟨-, hkept⟩, htail⟩
      have hkept := htables.mp hkept
      exact ⟨hstep.mp hkept, (ih hafter hkept hreports hdisabled).mp htail⟩
    · rintro ⟨hhead, htail⟩
      have hkept := hstep.mpr hhead
      exact ⟨⟨hunique, htables.mpr hkept⟩, (ih hafter hkept hreports hdisabled).mpr htail⟩

/-- Along a run without batches, tokens stay unique just if no request collides, and then no
request is refused because its token has several rows. -/
theorem tokenUnique_history_iff (rounds : List Round)
    (hreports : ∀ round ∈ rounds, ∀ a, round.oracle.ReportsAsked a)
    (hdisabled : ∀ round ∈ rounds, round.batchesEnabled = false) :
    ((∀ x ∈ history .empty rounds, x.1.TokenUnique ∧ ∀ t ∈ x.2.tables x.1, t.TokenUnique) ↔
      ∀ x ∈ history .empty rounds, ¬ x.2.Collides x.1) ∧
    ((∀ x ∈ history .empty rounds, ¬ x.2.Collides x.1) →
      ∀ x ∈ history .empty rounds, ∀ appId n,
        .app (.ambiguousToken appId n) ∈ x.2.failures x.1 →
          ∃ a, x.2.oracle a = .error (.app (.ambiguousToken appId n))) := by
  have hiff := tokenUnique_history_aux Table.healthy_empty Table.tokenUnique_empty rounds hreports
    hdisabled
  refine ⟨hiff, fun hcollides x hx appId n hfailure => ?_⟩
  obtain ⟨hround, ht⟩ := healthy_of_mem_history Table.healthy_empty hreports x hx
  have hunique : x.1.TokenUnique := (hiff.mpr hcollides x hx).1
  exact Round.exists_error_of_ambiguous ht hunique (hdisabled x.2 hround) hfailure

/-- A device whose token changes to one that another activation has, and a third activation. -/
def rotation : List Round := [.plain "T" "a", .plain "U" "b", .plain "U" "a", .plain "U" "c"]

theorem reportsAsked_rotation : ∀ round ∈ rotation, ∀ a, round.oracle.ReportsAsked a := by
  simp only [rotation, List.forall_mem_cons]
  exact ⟨Oracle.reportsAsked_allActive, Oracle.reportsAsked_allActive,
    Oracle.reportsAsked_allActive, Oracle.reportsAsked_allActive, by simp⟩

theorem tokenUnique_rotation_iff :
    (∀ x ∈ history .empty rotation, x.1.TokenUnique ∧ ∀ t ∈ x.2.tables x.1, t.TokenUnique) ↔
      ∀ x ∈ history .empty rotation, ¬ x.2.Collides x.1 :=
  (tokenUnique_history_iff rotation reportsAsked_rotation (by decide)).1

/-- The two rows of the token are there before the third activation, which is refused. -/
theorem rotation_refused :
    (∀ round ∈ rotation, ∀ a, round.oracle.ReportsAsked a) ∧
      (∀ round ∈ rotation, round.batchesEnabled = false) ∧
      ∃ x ∈ history .empty rotation,
        ¬ x.1.TokenUnique ∧ .app (.ambiguousToken 1 2) ∈ x.2.failures x.1 :=
  ⟨reportsAsked_rotation, by decide, by decide +kernel⟩

end PushRegistry
