import PushRegistry.Proofs.Store.Rows

/-!
# Healthy tables

The index of a table keeps rows apart that agree in activation and token. That an activation has
one row only, whatever its token, is a law of the service and not of the store. A table is healthy
when it has its index, names platforms that there are, and obeys the law.

## Main definitions

* `Table.boundTo`, `Table.keyedBy`: the rows of an activation, and those of an application and a
  token.
* `Table.Healthy`: tables in order.

## Main results

* `Table.Healthy.boundTo_cases`: an activation has no row or one row.
* `Table.Healthy.put`, `Table.Healthy.erase`: operations that keep a table healthy.
-/

namespace PushRegistry.Table

variable {t : Table} {row x y : Row} {a : String}

/-! ### Rows under a key -/

/-- The rows bound to an activation. -/
def boundTo (t : Table) (activationId : String) : List Row :=
  t.select fun row => row.activationId == some activationId

/-- The rows of an application and a token. -/
def keyedBy (t : Table) (appId : Int) (token : String) : List Row :=
  t.select fun row => row.appId == appId && row.token == token

theorem mem_boundTo : x ∈ t.boundTo a ↔ x ∈ t.rows ∧ x.activationId = some a := by
  rw [boundTo, mem_select, beq_iff_eq]

theorem mem_keyedBy {appId : Int} {token : String} :
    x ∈ t.keyedBy appId token ↔ x ∈ t.rows ∧ x.appId = appId ∧ x.token = token := by
  rw [keyedBy, mem_select, Bool.and_eq_true, beq_iff_eq, beq_iff_eq]

theorem boundTo_eq_nil_iff : t.boundTo a = [] ↔ ∀ x ∈ t.rows, x.activationId ≠ some a := by
  rw [List.eq_nil_iff_forall_not_mem]
  simp only [mem_boundTo, not_and, ne_eq]

/-- A lookup by activation and token is one by activation among the rows of the token. -/
theorem select_activation_token (token : String) :
    (t.select fun row => row.activationId == some a && row.token == token) =
      (t.boundTo a).filter fun row => row.token == token := by
  simp only [boundTo, select, List.filter_filter, Bool.and_comm]

/-! ### Healthy tables -/

/-- A table with its index in which all platforms have names and no two rows are bound to one
activation. -/
structure Healthy (t : Table) : Prop where
  indexed : t.indexed = true
  readable : ∀ row ∈ t.rows, row.Readable
  single : ∀ x ∈ t.rows, ∀ y ∈ t.rows, ∀ a, x.activationId = some a → y.activationId = some a →
    x = y

theorem healthy_empty : empty.Healthy where
  indexed := rfl
  readable := by simp [empty]
  single := by simp [empty]

/-- A table of one row is healthy if it has its index and the row can be read. -/
theorem healthy_of_one (hindexed : t.indexed = true) (hrows : t.rows = [row])
    (hread : row.Readable) : t.Healthy where
  indexed := hindexed
  readable x hx := by
    rw [hrows, List.mem_singleton] at hx
    rw [hx]
    exact hread
  single x hx y hy _ _ _ := by
    rw [hrows, List.mem_singleton] at hx hy
    rw [hx, hy]

/-- Rows with a property are at most one if they are all the same. -/
theorem length_select_le_one {p : Row → Bool}
    (h : ∀ x ∈ t.rows, ∀ y ∈ t.rows, p x = true → p y = true → x = y) :
    (t.select p).length ≤ 1 := by
  have hord : Row.Ordered (t.select p) := t.ordered.sublist List.filter_sublist
  match hrows : t.select p with
  | [] => exact Nat.zero_le 1
  | [row] => exact Nat.le_refl 1
  | x :: y :: rest =>
    obtain ⟨hx, hxp⟩ := mem_select.mp (show x ∈ t.select p by rw [hrows]; simp)
    obtain ⟨hy, hyp⟩ := mem_select.mp (show y ∈ t.select p by rw [hrows]; simp)
    have hlt : x.id < y.id := by
      rw [hrows] at hord
      exact (List.pairwise_cons.mp hord).1 y (by simp)
    rw [h x hx y hy hxp hyp] at hlt
    omega

/-- In a healthy table an activation has no row or one row. -/
theorem Healthy.boundTo_cases (ht : t.Healthy) (a : String) :
    t.boundTo a = [] ∨ ∃ row ∈ t.rows, row.activationId = some a ∧ t.boundTo a = [row] := by
  have hone : (t.boundTo a).length ≤ 1 := by
    refine length_select_le_one fun x hx y hy hxa hya => ?_
    exact ht.single x hx y hy a (beq_iff_eq.mp hxa) (beq_iff_eq.mp hya)
  match hrows : t.boundTo a with
  | [] => exact .inl rfl
  | [row] =>
    obtain ⟨hrow, ha⟩ := mem_boundTo.mp (show row ∈ t.boundTo a by rw [hrows]; simp)
    exact .inr ⟨row, hrow, ha, rfl⟩
  | x :: y :: rest =>
    rw [hrows] at hone
    simp at hone

theorem Healthy.boundTo_eq (ht : t.Healthy) (hx : x ∈ t.rows) (ha : x.activationId = some a) :
    t.boundTo a = [x] := by
  rcases ht.boundTo_cases a with hnil | ⟨row, hrow, hrowa, hrows⟩
  · exact absurd ha (boundTo_eq_nil_iff.mp hnil x hx)
  · rw [hrows, ht.single x hx row hrow a ha hrowa]

theorem Healthy.erase (ht : t.Healthy) (ids : List Int) : (t.erase ids).Healthy where
  indexed := ht.indexed
  readable row hrow := ht.readable row (mem_erase.mp hrow).1
  single x hx y hy := ht.single x (mem_erase.mp hx).1 y (mem_erase.mp hy).1

/-- A row may be put into a healthy table if its activation has no other row. -/
theorem Healthy.put (ht : t.Healthy) (h : t.forbids row = false) (hread : row.Readable)
    (hsingle : ∀ x ∈ t.rows, x.id ≠ row.id → ∀ a, row.activationId = some a →
      x.activationId ≠ some a) : (t.put row h).Healthy where
  indexed := ht.indexed
  readable x hx := by
    rcases (mem_put h).mp hx with rfl | ⟨hx, -⟩
    · exact hread
    · exact ht.readable x hx
  single x hx y hy a hxa hya := by
    rw [mem_put] at hx hy
    rcases hx with rfl | ⟨hx, hxid⟩ <;> rcases hy with rfl | ⟨hy, hyid⟩
    · rfl
    · exact absurd hya (hsingle y hy hyid a hxa)
    · exact absurd hxa (hsingle x hx hxid a hya)
    · exact ht.single x hx y hy a hxa hya

end PushRegistry.Table
