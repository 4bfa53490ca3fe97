import PushRegistry.Proofs.Store.Results

/-!
# Work that stays within its transaction

A call of the store changes the transaction that it is made in and the count of the calls, and
nothing else of the session: the table that others see, what was committed or rolled back, what was
asked and what was recorded are as before. This holds on every session, also on one that a failed
write has made unusable, and however the call ends.

## Main definitions

* `Session.SameOutside`: sessions that agree on all but the transaction that runs.
* `Work.Silent`: work that changes nothing else.

## Main results

* `Work.Silent.bind`, `Work.Silent.reporting`: silent work in sequence and under a report.
* `Work.silent_findWhere`, `Work.silent_save`, `Work.silent_deleteAll`: the calls of the store.
-/

namespace PushRegistry

/-- A later state of a session that differs only in the transaction that runs and in the calls that
were counted. -/
structure Session.SameOutside (s s' : Session) : Prop where
  committed : s'.committed = s.committed
  plan : s'.plan = s.plan
  published : s'.published = s.published
  rollbacks : s'.rollbacks = s.rollbacks
  asked : s'.asked = s.asked
  log : s'.log = s.log

namespace Session.SameOutside

variable {s s' s'' : Session}

theorem refl (s : Session) : s.SameOutside s := ⟨rfl, rfl, rfl, rfl, rfl, rfl⟩

theorem trans (h : s.SameOutside s') (h' : s'.SameOutside s'') : s.SameOutside s'' where
  committed := h'.committed.trans h.committed
  plan := h'.plan.trans h.plan
  published := h'.published.trans h.published
  rollbacks := h'.rollbacks.trans h.rollbacks
  asked := h'.asked.trans h.asked
  log := h'.log.trans h.log

theorem within (h : s.SameOutside s') : s.Within s' :=
  .of_eq h.plan h.log h.committed h.published h.rollbacks

end Session.SameOutside

namespace Work

variable {α β : Type} {work : Work α} {next : α → Work β}

/-- Whether work changes nothing but the transaction that it runs in. -/
def Silent (work : Work α) : Prop := ∀ s : Session, s.SameOutside (work s).2

/-! ### Silent work along `do` -/

theorem silent_pure (a : α) : (pure a : Work α).Silent := fun s => .refl s

theorem silent_fail (e : Failure) : (fail e : Work α).Silent := fun s => .refl s

theorem silent_read (f : Session → Except Failure α) : (read f).Silent := fun s => .refl s

theorem silent_check (result : Except AppError α) : (check result).Silent := by
  cases result
  case ok a => exact silent_pure a
  case error e => exact silent_fail _

theorem Silent.bind (hwork : work.Silent) (hnext : ∀ a, (next a).Silent) :
    (work >>= next).Silent := by
  intro s
  have hsame := hwork s
  rw [bind_apply]
  rcases hrun : work s with ⟨e | a, s₁⟩ <;> rw [hrun] at hsame
  · exact hsame
  · exact hsame.trans (hnext a s₁)

theorem Silent.reporting (hwork : work.Silent) (report : StoreFault → AppError) :
    (Work.reporting report work).Silent := by
  intro s
  have hsame := hwork s
  rw [Work.reporting]
  rcases hrun : work s with ⟨(e | fault | d) | a, s₁⟩ <;> rw [hrun] at hsame <;> exact hsame

/-! ### The steps that calls begin with -/

theorem silent_attempt (kind : CallKind) : (attempt kind).Silent := by
  intro s
  rw [attempt]
  split <;> exact ⟨rfl, rfl, rfl, rfl, rfl, rfl⟩

theorem silent_requireUsable : requireUsable.Silent := by
  intro s
  rw [requireUsable]
  split <;> exact .refl s

/-- What is written or lost by a failed write belongs to the transaction. -/
theorem silent_writePending : writePending.Silent := by
  intro s
  rw [writePending]
  split <;> exact ⟨rfl, rfl, rfl, rfl, rfl, rfl⟩

theorem silent_prepare (kind : CallKind) : (prepare kind).Silent :=
  (silent_attempt kind).bind fun _ => silent_requireUsable.bind fun _ =>
    silent_writePending.bind fun _ => silent_pure ()

/-! ### The calls of the store -/

theorem silent_findWhere (inRange : Bool) (p : Row → Bool) : (findWhere inRange p).Silent := by
  refine ((silent_prepare .find).reporting _).bind fun _ => ?_
  cases inRange
  · exact silent_fail _
  · exact silent_read _

theorem silent_hasRow (id : Int) : (hasRow id).Silent := by
  refine (silent_attempt .get).bind fun _ => (silent_read _).bind fun pending => ?_
  cases pending
  · refine silent_requireUsable.bind fun _ => silent_writePending.bind fun _ => ?_
    split
    · exact silent_read _
    · exact silent_fail _
  · exact silent_pure true

theorem silent_flush (change : Change) : (flush change).Silent := by
  have hadd : (update fun s => { s with pending := change.add s.pending }).Silent :=
    fun _ => ⟨rfl, rfl, rfl, rfl, rfl, rfl⟩
  exact hadd.bind fun _ => (silent_attempt .flush).bind fun _ => silent_requireUsable.bind fun _ =>
    silent_writePending.bind fun rows => silent_pure rows.getLast?

theorem silent_save (r : Registration) : (save r).Silent := by
  rw [save]
  cases r.id with
  | none => exact ((silent_flush _).reporting _).bind fun _ => silent_pure _
  | some id =>
    refine ((silent_hasRow id).reporting _).bind fun found => ?_
    cases found
    · exact silent_fail _
    · exact ((silent_flush _).reporting _).bind fun _ => silent_pure r

theorem silent_deleteAll (rs : List Registration) : (deleteAll rs).Silent := by
  rw [deleteAll]
  split
  · exact silent_pure 0
  · refine ((silent_prepare .delete).reporting _).bind fun _ => ?_
    split
    · exact fun _ => ⟨rfl, rfl, rfl, rfl, rfl, rfl⟩
    · exact silent_fail _

end Work

end PushRegistry
