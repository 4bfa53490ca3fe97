import PushRegistry.Store.Registrations

/-!
# What work comes to on a table

Work runs on a session, of which most is bookkeeping: calls are counted, questions and entries are
kept, some calls fail by plan. What the work does to the registrations depends on the table alone.
This file says so with a relation between work, a table and a result: on every session in order
that works on the table, the work comes to the result, unless a fault of a call gets in the way.

The relation is built up along `do`. It leaves the committed table alone; the ends of transactions
are the subject of `Work.Settles`, which relates work that commits to the result that others see.

## Main definitions

* `Session.Tidy`, `Session.Settled`: sessions between two calls and between two transactions.
* `Session.Within`: the states that a session may reach within one transaction.
* `Failure.Accidental`: the failures that faults of calls end in.
* `Work.ComesTo`: the result of work on a table.
* `Work.Settles`: the result of work that ends a transaction.
* `Work.Ends`, `Work.Closes`: what they say of a single run.

## Main results

* `Work.ComesTo.bind`, `Work.ComesTo.reporting`: results along `do` and under a report.
* `Work.ComesTo.commit`: work followed by a commit.
-/

namespace PushRegistry

/-! ### Sessions in order -/

namespace Session

/-- A session as it is between two calls: nothing is pending and no write has failed. -/
structure Tidy (s : Session) : Prop where
  pending : s.pending = []
  usable : s.unusable = false

/-- A session as it is between two transactions: nothing waits to be committed. -/
structure Settled (s : Session) : Prop extends Tidy s where
  working : s.working = s.committed

theorem settled_begin (t : Table) (plan : FaultPlan) : (Session.begin t plan).Settled :=
  ⟨⟨rfl, rfl⟩, rfl⟩

/-- A later state of a session that has recorded no error since. -/
structure Continues (s s' : Session) : Prop where
  plan : s'.plan = s.plan
  log : ∃ notes, s'.log = s.log ++ notes ∧ ∀ entry ∈ notes, entry.severity ≠ .error

/-- A later state of a session within one transaction. -/
structure Within (s s' : Session) : Prop extends Continues s s' where
  committed : s'.committed = s.committed
  published : s'.published = s.published
  rollbacks : s'.rollbacks = s.rollbacks

theorem Continues.of_log_eq {s s' : Session} (hplan : s'.plan = s.plan) (hlog : s'.log = s.log) :
    s.Continues s' :=
  ⟨hplan, [], by rw [hlog, List.append_nil], by simp⟩

theorem Continues.refl (s : Session) : s.Continues s := .of_log_eq rfl rfl

theorem Continues.trans {s s' s'' : Session} (h : s.Continues s') (h' : s'.Continues s'') :
    s.Continues s'' := by
  obtain ⟨notes, hlog, hnotes⟩ := h.log
  obtain ⟨notes', hlog', hnotes'⟩ := h'.log
  refine ⟨h'.plan.trans h.plan, notes ++ notes', by rw [hlog', hlog, List.append_assoc], ?_⟩
  intro entry hentry
  rcases List.mem_append.mp hentry with hentry | hentry
  · exact hnotes entry hentry
  · exact hnotes' entry hentry

theorem Within.refl (s : Session) : s.Within s := ⟨.refl s, rfl, rfl, rfl⟩

theorem Within.trans {s s' s'' : Session} (h : s.Within s') (h' : s'.Within s'') :
    s.Within s'' where
  toContinues := h.toContinues.trans h'.toContinues
  committed := h'.committed.trans h.committed
  published := h'.published.trans h.published
  rollbacks := h'.rollbacks.trans h.rollbacks

/-- A session in which something else than transactions, plan and log has changed. -/
theorem Within.of_eq {s s' : Session} (hplan : s'.plan = s.plan) (hlog : s'.log = s.log)
    (hcommitted : s'.committed = s.committed) (hpublished : s'.published = s.published)
    (hrollbacks : s'.rollbacks = s.rollbacks) : s.Within s' :=
  ⟨.of_log_eq hplan hlog, hcommitted, hpublished, hrollbacks⟩

/-- A later state of a session that has committed once at most since, namely the table that others
see then. -/
def Publishes (s s' : Session) : Prop :=
  s'.published = s.published ∧ s'.committed = s.committed ∨
    s'.published = s.published ++ [s'.committed]

theorem Within.publishes {s s' : Session} (h : s.Within s') : s.Publishes s' :=
  .inl ⟨h.published, h.committed⟩

theorem Within.trans_publishes {s s' s'' : Session} (h : s.Within s') (h' : s'.Publishes s'') :
    s.Publishes s'' := by
  rw [Publishes, ← h.published, ← h.committed]
  exact h'

/-- What holds of all tables that were committed holds after a commit of one more. -/
theorem Publishes.forall_published {s s' : Session} {p : Table → Prop} (h : s.Publishes s')
    (hs : ∀ t ∈ s.published, p t) (hs' : p s'.committed) : ∀ t ∈ s'.published, p t := by
  rcases h with ⟨hpublished, -⟩ | hpublished <;> rw [hpublished]
  · exact hs
  · exact List.forall_mem_append.mpr ⟨hs, List.forall_mem_singleton.mpr hs'⟩

/-- Calls fail only by a plan that fails some. -/
theorem plan_ne_none_of_fault {s : Session} {kind : CallKind} {fault : StoreFault}
    (h : s.fault? kind = some fault) : s.plan ≠ FaultPlan.none := by
  intro hplan
  rw [fault?, hplan] at h
  cases h

end Session

/-! ### Failures of calls -/

/-- The failures that faults of calls end in: faults, and the errors that report them. -/
inductive Failure.Accidental : Failure → Prop
  | store (fault : StoreFault) : Accidental (.store fault)
  | lookup : Accidental (.app .lookupFailed)
  | save (id : Option Int) : Accidental (.app (.saveFailed id))
  | binding (activationId : Option String) : Accidental (.app (.bindingTaken activationId))
  | deletion : Accidental (.app .deletionFailed)

/-- The failure that a result is, if it is one. -/
def failureOf? {α : Type} : Except Failure α → Option Failure
  | .ok _ => none
  | .error e => some e

theorem eq_error_of_failureOf? {α : Type} {r : Except Failure α} {e : Failure}
    (h : failureOf? r = some e) : r = .error e := by
  cases r
  case ok => cases h
  case error => rw [Option.some.inj h]

/-- A failure after faults of the store were made errors of the service. -/
def Failure.reported (report : StoreFault → AppError) : Failure → Failure
  | .store fault => .app (report fault)
  | failure => failure

namespace Work

variable {α β : Type} {t t' : Table} {work : Work α} {r : Except Failure (α × Table)}
  {s s₁ : Session} {run : Except Failure α × Session}

/-- On a table, work comes to a result: the value and the table with what was written, or the
failure that it ends in. On a session with faults it may also end in one of these. -/
structure ComesTo (work : Work α) (t : Table) (r : Except Failure (α × Table)) : Prop where
  within : ∀ s : Session, s.Tidy → s.working = t → s.Within (work s).2
  ok : ∀ (s : Session) a s', s.Tidy → s.working = t → work s = (.ok a, s') →
    s'.Tidy ∧ r = .ok (a, s'.working)
  error : ∀ (s : Session) e s', s.Tidy → s.working = t → work s = (.error e, s') →
    r = .error e ∨ s.plan ≠ FaultPlan.none ∧ e.Accidental

/-- The ends of a run of work inside a transaction, if the work comes to a result: a value, in a
session where more can be done, or a failure, which is that of the result or comes of a fault. -/
inductive Ends (r : Except Failure (α × Table)) (s : Session) : Except Failure α × Session → Prop
  | value {a : α} {s' : Session} (hwithin : s.Within s') (hs' : s'.Tidy)
      (hr : r = .ok (a, s'.working)) : Ends r s (.ok a, s')
  | failure {e : Failure} {s' : Session} (hwithin : s.Within s')
      (hr : r = .error e ∨ s.plan ≠ FaultPlan.none ∧ e.Accidental) : Ends r s (.error e, s')

theorem Ends.within (h : Ends r s run) : s.Within run.2 := by
  cases h with
  | value hwithin => exact hwithin
  | failure hwithin => exact hwithin

/-- What a run has done before belongs to its transaction. -/
theorem Ends.after (h : Ends r s₁ run) (hwithin : s.Within s₁) : Ends r s run := by
  cases h with
  | value hrest hs' hr => exact .value (hwithin.trans hrest) hs' hr
  | failure hrest hr => exact .failure (hwithin.trans hrest) (hwithin.plan ▸ hr)

theorem ComesTo.ends (h : work.ComesTo t r) (hs : s.Tidy) (ht : s.working = t) :
    Ends r s (work s) := by
  have hwithin := h.within s hs ht
  rcases hrun : work s with ⟨e | a, s'⟩ <;> rw [hrun] at hwithin
  · exact .failure hwithin (h.error s e s' hs ht hrun)
  · obtain ⟨hs', hr⟩ := h.ok s a s' hs ht hrun
    exact .value hwithin hs' hr

/-- Work comes to a result if all its runs end so. -/
theorem comesTo_of_ends (h : ∀ s : Session, s.Tidy → s.working = t → Ends r s (work s)) :
    work.ComesTo t r where
  within s hs ht := (h s hs ht).within
  ok s a s' hs ht hrun := by
    have hend := h s hs ht
    rw [hrun] at hend
    cases hend with
    | value _ hs' hr => exact ⟨hs', hr⟩
  error s e s' hs ht hrun := by
    have hend := h s hs ht
    rw [hrun] at hend
    cases hend with
    | failure _ hr => exact hr

/-! ### Results along `do` -/

theorem comesTo_pure (a : α) : (pure a : Work α).ComesTo t (.ok (a, t)) :=
  comesTo_of_ends fun s hs ht => .value (.refl s) hs (ht ▸ rfl)

theorem comesTo_fail (e : Failure) : (fail e : Work α).ComesTo t (.error e) :=
  comesTo_of_ends fun s _ _ => .failure (.refl s) (.inl rfl)

theorem bind_of_ok {a : α} (h : work s = (.ok a, s₁)) (next : α → Work β) :
    (work >>= next) s = next a s₁ := by
  rw [bind_apply, h]

theorem bind_of_error {e : Failure} (h : work s = (.error e, s₁)) (next : α → Work β) :
    (work >>= next) s = (.error e, s₁) := by
  rw [bind_apply, h]

/-- Work goes on from where the work before it has come to. -/
theorem ComesTo.bind {next : α → Work β} {k : α → Table → Except Failure (β × Table)}
    (hwork : work.ComesTo t r) (hnext : ∀ a t', r = .ok (a, t') → (next a).ComesTo t' (k a t')) :
    (work >>= next).ComesTo t (r >>= fun x => k x.1 x.2) := by
  refine comesTo_of_ends fun s hs ht => ?_
  have hend := hwork.ends hs ht
  rcases hrun : work s with ⟨e | a, s₁⟩ <;> rw [hrun] at hend
  · rw [bind_of_error hrun]
    cases hend with
    | failure hwithin hr => exact .failure hwithin (hr.imp_left fun hr => by rw [hr]; rfl)
  · rw [bind_of_ok hrun]
    cases hend with
    | value hwithin hs₁ hr =>
      subst hr
      exact ((hnext a _ rfl).ends hs₁ rfl).after hwithin

theorem ComesTo.bind_ok {next : α → Work β} {a : α} {r : Except Failure (β × Table)}
    (hwork : work.ComesTo t (.ok (a, t')))
    (hnext : (next a).ComesTo t' r) : (work >>= next).ComesTo t r := by
  refine hwork.bind (k := fun _ _ => r) fun b t₁ h => ?_
  cases h
  exact hnext

theorem ComesTo.bind_error {e : Failure} (hwork : work.ComesTo t (.error e))
    (next : α → Work β) : (work >>= next).ComesTo t (.error e) :=
  hwork.bind (k := fun _ _ => .error e) fun _ _ h => by cases h

/-- Work that comes to what a choice gives goes on from what was chosen. -/
theorem ComesTo.bind_map {γ : Type} {x : Except Failure γ} {g : γ → α × Table}
    {next : α → Work β} {k : γ → Except Failure (β × Table)} (hwork : work.ComesTo t (x.map g))
    (hnext : ∀ c, x = .ok c → (next (g c).1).ComesTo (g c).2 (k c)) :
    (work >>= next).ComesTo t (x >>= k) := by
  cases x with
  | error e => exact hwork.bind_error next
  | ok c => exact hwork.bind_ok (hnext c rfl)

/-- Where no call fails, work comes to the value that the table says and goes on from there. -/
theorem ComesTo.run_of_ok {a : α} (hwork : work.ComesTo t (.ok (a, t'))) (hs : s.Tidy)
    (ht : s.working = t) (hplan : s.plan = FaultPlan.none) :
    ∃ s', work s = (.ok a, s') ∧ s'.Tidy ∧ s'.working = t' ∧ s.Within s' := by
  have hend := hwork.ends hs ht
  rcases hrun : work s with ⟨e | b, s'⟩ <;> rw [hrun] at hend
  · cases hend with
    | failure _ hr => exact absurd hplan (hr.resolve_left nofun).1
  · cases hend with
    | value hwithin hs' hr =>
      cases hr
      exact ⟨s', rfl, hs', rfl, hwithin⟩

/-- Where no call fails, work fails as the table says. -/
theorem ComesTo.run_of_error {e : Failure} (hwork : work.ComesTo t (.error e)) (hs : s.Tidy)
    (ht : s.working = t) (hplan : s.plan = FaultPlan.none) :
    ∃ s', work s = (.error e, s') ∧ s.Within s' := by
  have hend := hwork.ends hs ht
  rcases hrun : work s with ⟨e' | b, s'⟩ <;> rw [hrun] at hend
  · cases hend with
    | failure hwithin hr =>
      cases hr.resolve_right fun hfault => hfault.1 hplan
      exact ⟨s', rfl, hwithin⟩
  · cases hend with
    | value _ _ hr => cases hr

/-- Faults of the store are reported, those that were planned and those that the table causes. -/
theorem ComesTo.reporting {report : StoreFault → AppError} (hwork : work.ComesTo t r)
    (hreport : ∀ fault, (Failure.app (report fault)).Accidental) :
    (Work.reporting report work).ComesTo t (r.mapError (Failure.reported report)) := by
  refine comesTo_of_ends fun s hs ht => ?_
  have hend := hwork.ends hs ht
  rw [Work.reporting]
  generalize work s = run at hend
  cases hend with
  | value hwithin hs' hr => exact .value hwithin hs' (by rw [hr]; rfl)
  | @failure e s' hwithin hr =>
    cases e with
    | app error => exact .failure hwithin (hr.imp_left fun hr => by rw [hr]; rfl)
    | store fault =>
      exact .failure hwithin (hr.imp (fun hr => by rw [hr]; rfl) fun h => ⟨h.1, hreport fault⟩)
    | defect d => exact .failure hwithin (hr.imp_left fun hr => by rw [hr]; rfl)

/-! ### Steps that leave the table alone -/

/-- Work that reads the session sees of it what the table says. -/
theorem comesTo_read {f : Session → Except Failure α} {r : Except Failure α}
    (h : ∀ s : Session, s.Tidy → s.working = t → f s = r) :
    (read f).ComesTo t (r.map fun a => (a, t)) := by
  refine comesTo_of_ends fun s hs ht => ?_
  rw [read, h s hs ht]
  cases r with
  | error e => exact .failure (.refl s) (.inl rfl)
  | ok a => exact .value (.refl s) hs (ht ▸ rfl)

/-- Work that changes what a transaction does not depend on. -/
theorem comesTo_update {f : Session → Session}
    (h : ∀ s : Session, s.Within (f s) ∧ (f s).pending = s.pending ∧ (f s).unusable = s.unusable ∧
      (f s).working = s.working) :
    (update f).ComesTo t (.ok ((), t)) := by
  refine comesTo_of_ends fun s hs ht => ?_
  obtain ⟨hwithin, hpending, husable, hworking⟩ := h s
  exact .value hwithin ⟨hpending.trans hs.pending, husable.trans hs.usable⟩
    (by rw [hworking, ht])

theorem comesTo_record {entry : LogEntry} (h : entry.severity ≠ .error) :
    (record entry).ComesTo t (.ok ((), t)) :=
  comesTo_update fun _ =>
    ⟨⟨⟨rfl, [entry], rfl, by simpa using h⟩, rfl, rfl, rfl⟩, rfl, rfl, rfl⟩

theorem comesTo_attempt (kind : CallKind) : (attempt kind).ComesTo t (.ok ((), t)) := by
  refine comesTo_of_ends fun s hs ht => ?_
  have hwithin : s.Within (s.countCall kind) := .of_eq rfl rfl rfl rfl rfl
  rw [attempt]
  split
  · next fault hfault =>
    exact .failure hwithin (.inr ⟨Session.plan_ne_none_of_fault hfault, .store fault⟩)
  · exact .value hwithin ⟨hs.pending, hs.usable⟩ (ht ▸ rfl)

theorem comesTo_requireUsable : requireUsable.ComesTo t (.ok ((), t)) := by
  refine comesTo_of_ends fun s hs ht => ?_
  rw [requireUsable, hs.usable]
  exact .value (.refl s) hs (ht ▸ rfl)

theorem writePending_of_tidy (hs : s.Tidy) : writePending s = (.ok [], s) := by
  obtain ⟨committed, working, pending, unusable, plan, calls, published, rollbacks, asked, log⟩ := s
  obtain rfl : pending = [] := hs.pending
  rw [writePending, Change.inOrder_nil]
  rfl

theorem comesTo_writePending : writePending.ComesTo t (.ok ([], t)) := by
  refine comesTo_of_ends fun s hs ht => ?_
  rw [writePending_of_tidy hs]
  exact .value (.refl s) hs (ht ▸ rfl)

/-- A call of the store begins without effect on the table. -/
theorem comesTo_prepare (kind : CallKind) : (prepare kind).ComesTo t (.ok ((), t)) :=
  (comesTo_attempt kind).bind_ok <| comesTo_requireUsable.bind_ok <|
    comesTo_writePending.bind_ok (comesTo_pure ())

/-! ### Transactions -/

/-- On a committed table, work that ends its transaction comes to a result: the value and the
table that others see then, or the failure that it ends in, with the committed table as it was.
It commits at most once. -/
structure Settles (work : Work α) (t : Table) (r : Except Failure (α × Table)) : Prop where
  continues : ∀ s : Session, s.Settled → s.committed = t → s.Continues (work s).2
  once : ∀ s : Session, s.Settled → s.committed = t → s.Publishes (work s).2
  ok : ∀ (s : Session) a s', s.Settled → s.committed = t → work s = (.ok a, s') →
    s'.Settled ∧ r = .ok (a, s'.committed)
  error : ∀ (s : Session) e s', s.Settled → s.committed = t → work s = (.error e, s') →
    s'.committed = t ∧ (r = .error e ∨ s.plan ≠ FaultPlan.none ∧ e.Accidental)

/-- The ends of a run of work that ends its transaction, if the work settles on a result: a value,
with what was written committed, or a failure, with the committed table as it was. -/
inductive Closes (r : Except Failure (α × Table)) (s : Session) : Except Failure α × Session → Prop
  | value {a : α} {s' : Session} (hcontinues : s.Continues s') (honce : s.Publishes s')
      (hs' : s'.Settled) (hr : r = .ok (a, s'.committed)) : Closes r s (.ok a, s')
  | failure {e : Failure} {s' : Session} (hcontinues : s.Continues s') (honce : s.Publishes s')
      (hcommitted : s'.committed = s.committed)
      (hr : r = .error e ∨ s.plan ≠ FaultPlan.none ∧ e.Accidental) : Closes r s (.error e, s')

/-- A run that fails inside its transaction leaves the committed table as it was. -/
theorem Closes.of_within {e : Failure} (hwithin : s.Within s₁)
    (hr : r = .error e ∨ s.plan ≠ FaultPlan.none ∧ e.Accidental) : Closes r s (.error e, s₁) :=
  .failure hwithin.toContinues hwithin.publishes hwithin.committed hr

theorem Closes.continues (h : Closes r s run) : s.Continues run.2 := by
  cases h with
  | value hcontinues => exact hcontinues
  | failure hcontinues => exact hcontinues

theorem Closes.publishes (h : Closes r s run) : s.Publishes run.2 := by
  cases h with
  | value _ honce => exact honce
  | failure _ honce => exact honce

/-- What a run has done before belongs to its transaction. -/
theorem Closes.after (h : Closes r s₁ run) (hwithin : s.Within s₁) : Closes r s run := by
  cases h with
  | value hcontinues honce hs' hr =>
    exact .value (hwithin.toContinues.trans hcontinues) (hwithin.trans_publishes honce) hs' hr
  | failure hcontinues honce hcommitted hr =>
    exact .failure (hwithin.toContinues.trans hcontinues) (hwithin.trans_publishes honce)
      (hcommitted.trans hwithin.committed) (hwithin.plan ▸ hr)

theorem Settles.closes (h : work.Settles t r) (hs : s.Settled) (ht : s.committed = t) :
    Closes r s (work s) := by
  have hcontinues := h.continues s hs ht
  have honce := h.once s hs ht
  rcases hrun : work s with ⟨e | a, s'⟩ <;> rw [hrun] at hcontinues honce
  · obtain ⟨hcommitted, hr⟩ := h.error s e s' hs ht hrun
    exact .failure hcontinues honce (hcommitted.trans ht.symm) hr
  · obtain ⟨hs', hr⟩ := h.ok s a s' hs ht hrun
    exact .value hcontinues honce hs' hr

/-- Work settles on a result if all its runs end so. -/
theorem settles_of_closes (h : ∀ s : Session, s.Settled → s.committed = t → Closes r s (work s)) :
    work.Settles t r where
  continues s hs ht := (h s hs ht).continues
  once s hs ht := (h s hs ht).publishes
  ok s a s' hs ht hrun := by
    have hclose := h s hs ht
    rw [hrun] at hclose
    cases hclose with
    | value _ _ hs' hr => exact ⟨hs', hr⟩
  error s e s' hs ht hrun := by
    have hclose := h s hs ht
    rw [hrun] at hclose
    cases hclose with
    | failure _ _ hcommitted hr => exact ⟨hcommitted.trans ht, hr⟩

theorem settles_pure (a : α) : (pure a : Work α).Settles t (.ok (a, t)) :=
  settles_of_closes fun s hs ht => .value (.refl s) (.inl ⟨rfl, rfl⟩) hs (ht ▸ rfl)

/-- Work that ends early ends its transaction with nothing committed. -/
theorem ComesTo.settles_error {e : Failure} (hwork : work.ComesTo t (.error e)) :
    work.Settles t (.error e) := by
  refine settles_of_closes fun s hs ht => ?_
  have hend := hwork.ends hs.toTidy (hs.working.trans ht)
  rcases hrun : work s with ⟨e' | a, s'⟩ <;> rw [hrun] at hend
  · cases hend with
    | failure hwithin hr => exact .of_within hwithin hr
  · cases hend with
    | value _ _ hr => cases hr

/-- Work that has written nothing may be followed by work that ends the transaction. -/
theorem ComesTo.bind_settles {next : α → Work β} {a : α} {r : Except Failure (β × Table)}
    (hwork : work.ComesTo t (.ok (a, t)))
    (hnext : (next a).Settles t r) : (work >>= next).Settles t r := by
  refine settles_of_closes fun s hs ht => ?_
  have hend := hwork.ends hs.toTidy (hs.working.trans ht)
  rcases hrun : work s with ⟨e | b, s₁⟩ <;> rw [hrun] at hend
  · rw [bind_of_error hrun]
    cases hend with
    | failure hwithin hr => exact .of_within hwithin (.inr (hr.resolve_left nofun))
  · rw [bind_of_ok hrun]
    cases hend with
    | value hwithin hs₁ hr =>
      obtain ⟨rfl, hworking⟩ := Prod.mk.inj (Except.ok.inj hr)
      have hcommitted : s₁.committed = t := hwithin.committed.trans ht
      exact (hnext.closes ⟨hs₁, hworking.symm.trans hcommitted.symm⟩ hcommitted).after hwithin

/-- A commit publishes what was written, unless it does not get through. -/
theorem commit_of_tidy (hs : s.Tidy) (b : β) :
    (commit >>= fun _ => pure b) s =
      match s.fault? .commit with
      | some fault => (.error (.store fault), s.countCall .commit)
      | none => (.ok b, (s.countCall .commit).committedOnce) := by
  have hcounted : (s.countCall .commit).Tidy := ⟨hs.pending, hs.usable⟩
  simp only [commit, prepare, bind_apply, attempt]
  cases s.fault? .commit with
  | some fault => rfl
  | none => simp [requireUsable, hcounted.usable, writePending_of_tidy hcounted, update]

/-- Where no call fails, a commit gets through. -/
theorem run_commit (hs : s.Tidy) (hplan : s.plan = FaultPlan.none) (b : β) :
    (commit >>= fun _ => pure b) s = (.ok b, (s.countCall .commit).committedOnce) := by
  rw [commit_of_tidy hs, Session.fault?, hplan]
  rfl

/-- What work has written is seen by others after a commit, and nothing of it if the work or the
commit fails. -/
theorem ComesTo.commit (hwork : work.ComesTo t r) (f : α → β) :
    (work >>= fun a => Work.commit >>= fun _ => pure (f a)).Settles t
      (r.map fun x => (f x.1, x.2)) := by
  refine settles_of_closes fun s hs ht => ?_
  have hend := hwork.ends hs.toTidy (hs.working.trans ht)
  rcases hrun : work s with ⟨e | a, s₁⟩ <;> rw [hrun] at hend
  · rw [bind_of_error hrun]
    cases hend with
    | failure hwithin hr => exact .of_within hwithin (hr.imp_left fun hr => by rw [hr]; rfl)
  · rw [bind_of_ok hrun]
    cases hend with
    | value hwithin hs₁ hr =>
      refine Closes.after ?_ hwithin
      rw [commit_of_tidy hs₁]
      split
      · next fault hfault =>
        exact .of_within (.of_eq rfl rfl rfl rfl rfl)
          (.inr ⟨Session.plan_ne_none_of_fault hfault, .store fault⟩)
      · exact .value (.of_log_eq rfl rfl) (.inr rfl) ⟨⟨hs₁.pending, hs₁.usable⟩, rfl⟩
          (by rw [hr]; rfl)

/-- Work followed by a commit takes nothing back, and it publishes what it has written just if it
comes to a value. -/
theorem ComesTo.tally_commit {s' : Session} (hwork : work.ComesTo t r) (f : α → β)
    (hs : s.Settled) (ht : s.committed = t) {result : Except Failure β}
    (h : (work >>= fun a => Work.commit >>= fun _ => pure (f a)) s = (result, s')) :
    s'.rollbacks = s.rollbacks ∧
      s'.published = s.published ++ if result.isOk then [s'.committed] else [] := by
  have hend := hwork.ends hs.toTidy (hs.working.trans ht)
  have hwithin := hend.within
  rcases hrun : work s with ⟨e | a, s₁⟩ <;> rw [hrun] at hend hwithin
  · rw [bind_of_error hrun] at h
    cases h
    exact ⟨hwithin.rollbacks, hwithin.published.trans (List.append_nil _).symm⟩
  · cases hend with
    | value _ hs₁ =>
      rw [bind_of_ok hrun, commit_of_tidy hs₁] at h
      split at h <;> cases h
      · exact ⟨hwithin.rollbacks, hwithin.published.trans (List.append_nil _).symm⟩
      · exact ⟨hwithin.rollbacks, congrArg (· ++ [s₁.working]) hwithin.published⟩

end Work

end PushRegistry
