import PushRegistry.Proofs.Store.Results

/-!
# Units of work

Work that runs in a unit of its own begins on the committed table with nothing pending, and what it
has not committed is given up at the end. So the result of the unit is what the work comes to on the
committed table, and the table that it leaves is the one that the work committed.

## Main results

* `Work.Settles.runUnit_cases`: how a unit of work that ends its transaction may end.
* `Work.Settles.runUnit_of_ok`, `Work.Settles.runUnit_of_error`, `Work.ComesTo.runUnit_fst`: how it
  ends where no call fails.
-/

namespace PushRegistry.Work

variable {α : Type}

/-! ### Parts of a unit -/

theorem runUnit_fst (work : Work α) (t : Table) (plan : FaultPlan) :
    (work.runUnit t plan).1 = (work (Session.begin t plan)).1 := by
  rw [runUnit]
  rcases work (Session.begin t plan) with ⟨_ | _, _⟩ <;> rfl

theorem committed_runUnit (work : Work α) (t : Table) (plan : FaultPlan) :
    (work.runUnit t plan).2.committed = (work (Session.begin t plan)).2.committed := by
  rw [runUnit]
  rcases work (Session.begin t plan) with ⟨_ | _, _⟩ <;> rfl

theorem published_runUnit (work : Work α) (t : Table) (plan : FaultPlan) :
    (work.runUnit t plan).2.published = (work (Session.begin t plan)).2.published := by
  rw [runUnit]
  rcases work (Session.begin t plan) with ⟨_ | _, _⟩ <;> rfl

theorem asked_runUnit (work : Work α) (t : Table) (plan : FaultPlan) :
    (work.runUnit t plan).2.asked = (work (Session.begin t plan)).2.asked := by
  rw [runUnit]
  rcases work (Session.begin t plan) with ⟨_ | _, _⟩ <;> rfl

/-- Work that fails is taken back when its unit is left. -/
theorem rollbacks_runUnit (work : Work α) (t : Table) (plan : FaultPlan) :
    (work.runUnit t plan).2.rollbacks =
      (work (Session.begin t plan)).2.rollbacks +
        if (work (Session.begin t plan)).1.isOk then 0 else 1 := by
  rw [runUnit]
  rcases work (Session.begin t plan) with ⟨_ | _, _⟩ <;> rfl

/-! ### Ends of a unit -/

/-- Work that ends its transaction leaves its result to others, or the table as it was. -/
theorem Settles.runUnit_cases {work : Work α} {t : Table} {r : Except Failure (α × Table)}
    (h : work.Settles t r) (plan : FaultPlan) :
    (∃ a, (work.runUnit t plan).1 = .ok a ∧ r = .ok (a, (work.runUnit t plan).2.committed)) ∨
      ∃ e, (work.runUnit t plan).1 = .error e ∧ (work.runUnit t plan).2.committed = t ∧
        (r = .error e ∨ plan ≠ FaultPlan.none ∧ e.Accidental) := by
  rw [runUnit_fst, committed_runUnit]
  rcases hrun : work (Session.begin t plan) with ⟨e | a, s⟩
  · exact .inr ⟨e, rfl, h.error _ e s (Session.settled_begin t plan) rfl hrun⟩
  · exact .inl ⟨a, rfl, (h.ok _ a s (Session.settled_begin t plan) rfl hrun).2⟩

/-- Where no call fails, work that comes to a value leaves its table to others. -/
theorem Settles.runUnit_of_ok {work : Work α} {t t' : Table} {a : α}
    (h : work.Settles t (.ok (a, t'))) :
    (work.runUnit t .none).1 = .ok a ∧ (work.runUnit t .none).2.committed = t' := by
  rcases h.runUnit_cases .none with ⟨b, hrun, hresult⟩ | ⟨e, -, -, hresult | ⟨hplan, -⟩⟩
  · obtain ⟨rfl, hcommitted⟩ := Prod.mk.inj (Except.ok.inj hresult)
    exact ⟨hrun, hcommitted.symm⟩
  · cases hresult
  · exact absurd rfl hplan

/-- Where no call fails, work that fails leaves the table as it was. -/
theorem Settles.runUnit_of_error {work : Work α} {t : Table} {e : Failure}
    (h : work.Settles t (.error e)) :
    (work.runUnit t .none).1 = .error e ∧ (work.runUnit t .none).2.committed = t := by
  rcases h.runUnit_cases .none with ⟨b, -, hresult⟩ | ⟨e', hrun, hcommitted, hresult | ⟨hplan, -⟩⟩
  · cases hresult
  · obtain rfl := Except.error.inj hresult
    exact ⟨hrun, hcommitted⟩
  · exact absurd rfl hplan

/-- Work that ends its transaction commits one table or none. -/
theorem Settles.published_runUnit {work : Work α} {t : Table} {r : Except Failure (α × Table)}
    (h : work.Settles t r) (plan : FaultPlan) :
    (work.runUnit t plan).2.published = [] ∧ (work.runUnit t plan).2.committed = t ∨
      (work.runUnit t plan).2.published = [(work.runUnit t plan).2.committed] := by
  rw [Work.published_runUnit, committed_runUnit]
  exact h.once _ (Session.settled_begin t plan) rfl

/-- Where no call fails, the result of a unit of work is what the work comes to. -/
theorem ComesTo.runUnit_fst {work : Work α} {t : Table} {r : Except Failure (α × Table)}
    (h : work.ComesTo t r) : (work.runUnit t .none).1 = r.map Prod.fst := by
  rw [Work.runUnit_fst]
  have hs := (Session.settled_begin t .none).toTidy
  rcases r with e | ⟨a, t'⟩
  · obtain ⟨s, hrun, -⟩ := h.run_of_error hs rfl rfl
    rw [hrun]
    rfl
  · obtain ⟨s, hrun, -⟩ := h.run_of_ok hs rfl rfl
    rw [hrun]
    rfl

end PushRegistry.Work
