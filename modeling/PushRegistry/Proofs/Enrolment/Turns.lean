import PushRegistry.Proofs.Enrolment.Attempts

/-!
# The turns of a batch

A batch is taken apart into the turns of its activations, so that what happened can be told also if
the batch fails or is aborted. A turn is known by its activation, by how it ended and by the session
that it left; the last turn is that of the last activation, or that of the one that was aborted.

On any table and with any faults, a row that was written in a turn is claimed, and no later turn
writes to it or removes it. Its number is not given again, even where the numbers of removed rows
are.

## Main definitions

* `Turn`, `Enrolment.turns`: the turns of a batch.
* `Table.Claiming`: what a turn leaves that has written a row.

## Main results

* `Enrolment.enrolAll_eq_turns`: a batch is the sequence of its turns.
* `Table.claiming_of_reconciledInBatch`: what an activation does to claimed rows on any table.
* `Enrolment.turns_keep_claimed`: what the turns of a batch keep.
* `Enrolment.registerBatch_keeps_registered`: registrations have different rows, which stay as they
  were written.
-/

namespace PushRegistry

/-! ### Turns -/

/-- What became of an activation in its turn, and the session after it. -/
structure Turn where
  activationId : String
  result : Except Failure Outcome
  after : Session

namespace Turn

/-- Whether the activation was registered. -/
def succeeded (turn : Turn) : Bool :=
  match turn.result with
  | .ok o => o.succeeded
  | .error _ => false

/-- The number of the registration, if there is one. -/
def registrationId? (turn : Turn) : Option Int :=
  match turn.result with
  | .ok o => o.registrationId?
  | .error _ => none

/-- The outcome of a turn that has not ended the batch. -/
def outcome? (turn : Turn) : Option Outcome := turn.result.toOption

/-- Turns that come to outcomes have no other outcomes. -/
theorem filterMap_outcome? {turns : List Turn} {os : List Outcome}
    (h : turns.mapM Turn.result = .ok os) : turns.filterMap Turn.outcome? = os := by
  induction turns generalizing os with
  | nil =>
    cases h
    rfl
  | cons turn rest ih =>
    rw [List.mapM_cons] at h
    obtain ⟨o, hturn, h⟩ := bind_eq_ok_iff.mp h
    obtain ⟨os', hrest, ⟨⟩⟩ := bind_eq_ok_iff.mp h
    rw [List.filterMap_cons_some (show turn.outcome? = some o by rw [outcome?, hturn]; rfl),
      ih hrest]

end Turn

namespace Enrolment

open Work

variable {oracle : Oracle} {now : Int} {device : Device} {claimed : List Int} {a : String}

/-- The turns of the activations of a batch, of which a defect ends the last one. -/
def turns (oracle : Oracle) (now : Int) (device : Device) (claimed : List Int) :
    List String → Session → List Turn
  | [], _ => []
  | activationId :: rest, s =>
    match attemptInBatch oracle now device claimed activationId s with
    | (.ok o, s') =>
      ⟨activationId, .ok o, s'⟩ ::
        turns oracle now device (o.registrationId?.toList ++ claimed) rest s'
    | (.error e, s') => [⟨activationId, .error e, s'⟩]

theorem turns_cons_of_ok {s s' : Session} {o : Outcome}
    (h : attemptInBatch oracle now device claimed a s = (.ok o, s')) (rest : List String) :
    turns oracle now device claimed (a :: rest) s =
      ⟨a, .ok o, s'⟩ :: turns oracle now device (o.registrationId?.toList ++ claimed) rest s' := by
  rw [turns, h]

theorem turns_cons_of_error {s s' : Session} {e : Failure}
    (h : attemptInBatch oracle now device claimed a s = (.error e, s')) (rest : List String) :
    turns oracle now device claimed (a :: rest) s = [⟨a, .error e, s'⟩] := by
  rw [turns, h]

/-- A batch comes to the outcomes of its turns, and to the session after the last one. -/
theorem enrolAll_eq_turns (ids : List String) (s : Session) :
    enrolAll oracle now device claimed ids s =
      ((turns oracle now device claimed ids s).mapM Turn.result,
        ((turns oracle now device claimed ids s).getLast?.map Turn.after).getD s) := by
  induction ids generalizing claimed s with
  | nil => rfl
  | cons a rest ih =>
    rcases hrun : attemptInBatch oracle now device claimed a s with ⟨e | o, s₁⟩
    · rw [enrolAll_cons_of_error hrun, turns_cons_of_error hrun]
      rfl
    · rw [enrolAll, bind_of_ok hrun, bind_apply, ih, turns_cons_of_ok hrun, List.mapM_cons]
      cases hlater : turns oracle now device (o.registrationId?.toList ++ claimed) rest s₁ with
      | nil => rfl
      | cons turn later =>
        rw [List.getLast?_cons_cons, List.getLast?_eq_some_getLast (List.cons_ne_nil turn later)]
        cases (turn :: later).mapM Turn.result <;> rfl

end Enrolment

/-! ### One activation on any table -/

namespace Table

/-- What an activation of a batch leaves that was registered: its row, with device and time as the
batch says, and beside it the claimed rows as they were. -/
structure Claiming (t : Table) (device : Device) (now : Int) (claimed : List Int) (row : Row)
    (t' : Table) : Prop where
  written : row ∈ t'.rows
  heard : row.heard device.appId device now = row
  kept : ∀ x ∈ t.rows, x.id ∈ claimed → x.id ≠ row.id ∧ x ∈ t'.rows

variable {t t' : Table} {oracle : Oracle} {now : Int} {device : Device} {claimed : List Int}
  {a : String} {saved : Registration} {x : Row}

/-- A row that an activation of a batch has left was there before or is the row of the
activation. -/
theorem mem_reconciledInBatch
    (h : t.reconciledInBatch oracle now device claimed a = .ok (saved, t')) (hx : x ∈ t'.rows) :
    x ∈ t.rows ∧ saved.id ≠ some x.id ∨
      saved.id = some x.id ∧ x.heard device.appId device now = x := by
  obtain ⟨rows, t₁, answer, hrows, hcleared, -, hid, hadmits, rfl⟩ := reconciledInBatch_eq_ok h
  rcases (mem_put hadmits).mp hx with rfl | ⟨hx, hne⟩
  · exact .inr ⟨hid, heard_enrolledRow⟩
  · refine .inl ⟨((mem_cleared hcleared fun row hrow => mem_of_located hrows hrow).mp hx).1, ?_⟩
    rw [hid]
    exact fun heq => hne (Option.some.inj heq).symm

theorem indexed_reconciledInBatch
    (h : t.reconciledInBatch oracle now device claimed a = .ok (saved, t')) :
    t'.indexed = t.indexed := by
  obtain ⟨rows, t₁, answer, -, hcleared, -, -, hadmits, rfl⟩ := reconciledInBatch_eq_ok h
  exact (indexed_put hadmits).trans (indexed_cleared hcleared)

/-- An activation of a batch leaves rows that can be read. -/
theorem readable_reconciledInBatch (ht : ∀ row ∈ t.rows, row.Readable)
    (h : t.reconciledInBatch oracle now device claimed a = .ok (saved, t')) :
    ∀ row ∈ t'.rows, row.Readable := by
  intro x hx
  rcases mem_reconciledInBatch h hx with ⟨hold, -⟩ | ⟨-, hheard⟩
  · exact ht x hold
  · exact hheard ▸ Row.readable_heard x device.appId device now

/-- An activation of a batch leaves the claimed rows with the device, and its own row too. -/
theorem Claims.reconciledInBatch (ht : t.Claims device claimed)
    (h : t.reconciledInBatch oracle now device claimed a = .ok (saved, t')) :
    t'.Claims device (saved.id.toList ++ claimed) := by
  intro x hx hclaimed
  rcases mem_reconciledInBatch h hx with ⟨hold, hid⟩ | ⟨-, hheard⟩
  · refine ht x hold ((List.mem_append.mp hclaimed).resolve_left fun hnew => hid ?_)
    exact Option.mem_toList.mp hnew
  · exact ⟨congrArg Row.appId hheard.symm, congrArg Row.token hheard.symm⟩

/-- The row of an activation that is registered is not claimed, and claimed rows are left. -/
theorem claiming_of_reconciledInBatch
    (h : t.reconciledInBatch oracle now device claimed a = .ok (saved, t')) :
    ∃ row, saved.id = some row.id ∧ t.Claiming device now claimed row t' := by
  obtain ⟨rows, t₁, answer, hrows, hcleared, -, hid, hadmits, rfl⟩ := reconciledInBatch_eq_ok h
  refine ⟨_, hid, (mem_put hadmits).mpr (.inl rfl), heard_enrolledRow, fun x hx hclaimed => ?_⟩
  have hkept : x ∈ t₁.rows :=
    (mem_cleared hcleared fun row hrow => mem_of_located hrows hrow).mpr ⟨hx, fun _ _ => hclaimed⟩
  have hne : x.id ≠ (t₁.enrolledRow device.appId device now (Row.unclaimed? claimed rows)
      answer).id :=
    id_ne_enrolledRow hkept fun row hchosen heq =>
      (Row.eq_singleton_of_unclaimed? hchosen).2 (heq ▸ hclaimed)
  exact ⟨hne, (mem_put hadmits).mpr (.inr ⟨hkept, hne⟩)⟩

end Table

namespace Enrolment

open Work

variable {oracle : Oracle} {now : Int} {device : Device} {claimed : List Int} {a : String}

/-- How a turn ends on any table: with a row written, with nothing written, or with the batch. -/
theorem turn_cases {s s₁ : Session} {res : Except Failure Outcome} (hs : s.Settled)
    (hrun : attemptInBatch oracle now device claimed a s = (res, s₁)) :
    (∃ row, res = .ok ⟨a, .ok (some row.id)⟩ ∧ s₁.Settled ∧
        s.committed.Claiming device now claimed row s₁.committed) ∨
      s₁.committed = s.committed ∧ ((∃ e, res = .ok ⟨a, .error e⟩ ∧ s₁.Settled) ∨
        ∃ e, res = .error e) := by
  have hattempt := attempt_of_settles hs
    (settles_reconciledInBatch s.committed oracle now device claimed a)
  rw [hrun] at hattempt
  cases hattempt with
  | registered hresult hsettled _ =>
    obtain ⟨row, hid, hclaiming⟩ := Table.claiming_of_reconciledInBatch hresult
    exact .inl ⟨row, by rw [hid], hsettled, hclaiming⟩
  | failed _ _ hsettled hcommitted _ _ => exact .inr ⟨hcommitted, .inl ⟨_, rfl, hsettled⟩⟩
  | aborted _ hcommitted _ => exact .inr ⟨hcommitted, .inr ⟨_, rfl⟩⟩

/-- A turn that comes to an outcome comes to that of its activation, between two transactions. -/
theorem settled_attemptInBatch {s s' : Session} {o : Outcome} (hs : s.Settled)
    (h : attemptInBatch oracle now device claimed a s = (.ok o, s')) :
    s'.Settled ∧ o.activationId = a := by
  rcases turn_cases hs h with ⟨row, ho, hs', -⟩ | ⟨-, ⟨e, ho, hs'⟩ | ⟨e, ho⟩⟩ <;> cases ho
  · exact ⟨hs', rfl⟩
  · exact ⟨hs', rfl⟩

/-- The outcomes of a batch are those of its activations, in order. -/
theorem activationId_enrolAll {ids : List String} {os : List Outcome} {s s' : Session}
    (hs : s.Settled)
    (h : enrolAll oracle now device claimed ids s = (.ok os, s')) :
    os.map Outcome.activationId = ids := by
  induction ids generalizing claimed s os with
  | nil =>
    cases h
    rfl
  | cons a rest ih =>
    obtain ⟨o, s₁, os₁, hrun, hrest, rfl⟩ := enrolAll_cons_eq_ok_iff.mp h
    obtain ⟨hs₁, ho⟩ := settled_attemptInBatch hs hrun
    rw [List.map_cons, ih hs₁ hrest, ho]

end Enrolment

/-! ### Claimed rows on any table -/

/-- Whether all claimed numbers are those of rows. -/
def Table.Holds (t : Table) (claimed : List Int) : Prop := ∀ n ∈ claimed, ∃ x ∈ t.rows, x.id = n

/-- The claimed rows and the row of a turn are there after the turn. -/
theorem Table.Claiming.holds {t t' : Table} {device : Device} {now : Int} {claimed : List Int}
    {row : Row} (h : t.Claiming device now claimed row t') (ht : t.Holds claimed) :
    row.id ∉ claimed ∧ t'.Holds (row.id :: claimed) := by
  refine ⟨fun hmem => ?_, List.forall_mem_cons.mpr ⟨⟨row, h.written, rfl⟩, fun n hn => ?_⟩⟩
  · obtain ⟨x, hx, hid⟩ := ht row.id hmem
    exact (h.kept x hx (hid ▸ hmem)).1 hid
  · obtain ⟨x, hx, rfl⟩ := ht n hn
    exact ⟨x, (h.kept x hx hn).2, rfl⟩

namespace Enrolment

open Work

variable {oracle : Oracle} {now : Int} {device : Device} {claimed : List Int}

/-- A claimed row is there after the batch as it was. -/
theorem mem_enrolAll_of_claimed (ids : List String) {s : Session} {x : Row} (hs : s.Settled)
    (hx : x ∈ s.committed.rows) (hclaimed : x.id ∈ claimed) :
    x ∈ (enrolAll oracle now device claimed ids s).2.committed.rows := by
  induction ids generalizing claimed s with
  | nil => exact hx
  | cons a rest ih =>
    rcases hrun : attemptInBatch oracle now device claimed a s with ⟨res, s₁⟩
    rcases turn_cases hs hrun with ⟨row, rfl, hs₁, hclaiming⟩ |
      ⟨hcommitted, ⟨e, rfl, hs₁⟩ | ⟨e, rfl⟩⟩
    · rw [enrolAll_cons_snd_of_ok hrun]
      exact ih hs₁ (hclaiming.kept x hx hclaimed).2 (List.mem_cons_of_mem _ hclaimed)
    · rw [enrolAll_cons_snd_of_ok hrun]
      exact ih hs₁ (hcommitted ▸ hx) hclaimed
    · rw [enrolAll_cons_of_error hrun, hcommitted]
      exact hx

/-- The turns of a batch give different numbers to those that they register, none of them claimed
before, and the rows are there after the batch as they were after their turns. -/
theorem turns_keep_claimed (oracle : Oracle) (now : Int) (device : Device) (ids : List String)
    {s : Session} (hs : s.Settled) (hholds : s.committed.Holds claimed) :
    (((turns oracle now device claimed ids s).filter Turn.succeeded).map
        Turn.registrationId?).Nodup ∧
      ∀ turn ∈ turns oracle now device claimed ids s, turn.succeeded = true →
        ∃ row ∈ (enrolAll oracle now device claimed ids s).2.committed.rows,
          turn.registrationId? = some row.id ∧ row.id ∉ claimed ∧
            row ∈ turn.after.committed.rows ∧ row.heard device.appId device now = row := by
  induction ids generalizing claimed s with
  | nil => exact ⟨List.nodup_nil, fun _ hturn => absurd hturn List.not_mem_nil⟩
  | cons a rest ih =>
    rcases hrun : attemptInBatch oracle now device claimed a s with ⟨res, s₁⟩
    rcases turn_cases hs hrun with ⟨row, rfl, hs₁, hclaiming⟩ |
      ⟨hcommitted, ⟨e, rfl, hs₁⟩ | ⟨e, rfl⟩⟩
    · obtain ⟨hfresh, hholds₁⟩ := hclaiming.holds hholds
      obtain ⟨hnodup, hrows⟩ := ih hs₁ hholds₁
      rw [turns_cons_of_ok hrun, enrolAll_cons_snd_of_ok hrun]
      refine ⟨List.nodup_cons.mpr ⟨fun hmem => ?_, hnodup⟩, List.forall_mem_cons.mpr ⟨fun _ => ?_,
        fun turn hturn hsucceeded => ?_⟩⟩
      · obtain ⟨turn, hturn, hid⟩ := List.mem_map.mp hmem
        obtain ⟨hturn, hsucceeded⟩ := List.mem_filter.mp hturn
        obtain ⟨later, -, hlater, hnew, -⟩ := hrows turn hturn hsucceeded
        have hsame : later.id = row.id := Option.some.inj (hlater.symm.trans hid)
        exact hnew (hsame ▸ List.mem_cons_self)
      · refine ⟨row, ?_, rfl, hfresh, hclaiming.written, hclaiming.heard⟩
        exact mem_enrolAll_of_claimed rest hs₁ hclaiming.written List.mem_cons_self
      · obtain ⟨later, hmem, hid, hnew, hlater⟩ := hrows turn hturn hsucceeded
        exact ⟨later, hmem, hid, fun h => hnew (List.mem_cons_of_mem _ h), hlater⟩
    · rw [turns_cons_of_ok hrun, enrolAll_cons_snd_of_ok hrun]
      obtain ⟨hnodup, hrows⟩ := ih hs₁ (hcommitted ▸ hholds)
      exact ⟨hnodup, List.forall_mem_cons.mpr ⟨nofun, hrows⟩⟩
    · rw [turns_cons_of_error hrun]
      exact ⟨List.nodup_nil, List.forall_mem_singleton.mpr nofun⟩

/-- On any table and with any faults, the activations that a batch registers have different numbers,
and their rows are there after the batch as their turns have written them, however it ends. -/
theorem registerBatch_keeps_registered (oracle : Oracle) (now : Int) (t : Table) (plan : FaultPlan)
    {request : BatchRequest} {ids : List String}
    (hchecked : request.checked = .ok (device, ids)) :
    let batch := turns oracle now device [] ids (Session.begin t plan)
    let after := ((registerBatch oracle now true request).runUnit t plan).2.committed
    ((batch.filter Turn.succeeded).map Turn.registrationId?).Nodup ∧
      ∀ turn ∈ batch, turn.succeeded = true →
        ∃ row ∈ after.rows, turn.registrationId? = some row.id ∧
          row ∈ turn.after.committed.rows ∧ row.heard device.appId device now = row := by
  intro batch after
  have hafter : after = (enrolAll oracle now device [] ids (Session.begin t plan)).2.committed :=
    (runUnit_registerBatch_apply hchecked t plan).2
  have hnone : (Session.begin t plan).committed.Holds [] := nofun
  obtain ⟨hnodup, hrows⟩ :=
    turns_keep_claimed oracle now device ids (Session.settled_begin t plan) hnone
  refine ⟨hnodup, fun turn hturn hsucceeded => ?_⟩
  obtain ⟨row, hrow, hid, -, hwritten⟩ := hrows turn hturn hsucceeded
  exact ⟨row, hafter ▸ hrow, hid, hwritten⟩

end Enrolment

/-! ### A batch on a table that is not in order -/

/-- A table without its index, in which two rows share activation and token, and the last two rows
share the token `T`. -/
def Table.tangled : Table where
  rows := [⟨1, 2, "Q", "ios", some "q", none, true, 0⟩, ⟨2, 2, "Q", "ios", some "q", none, true, 0⟩,
    ⟨3, 1, "T", "ios", none, none, false, 0⟩, ⟨4, 1, "T", "ios", some "x", none, true, 0⟩]
  indexed := false
  ordered := by decide
  unique := by decide

/-- The service that reports `z` whatever activation it is asked about. -/
def Oracle.confused : Oracle := fun _ => .ok (some ⟨"z", .active, .null⟩)

/-- The plan by which the second commit does not get through. -/
def FaultPlan.secondCommit : FaultPlan := fun kind n =>
  if kind = .commit ∧ n = 2 then some .operational else Option.none

/-- The number of the first row that made place is given to the first activation, which is
registered, and not again; the second activation is lost. -/
theorem registerBatch_keeps_registered_tangled :
    let request : BatchRequest :=
      ⟨some 1, some "T", some "ios", some [some "a", some "b", some "c"]⟩
    let batch := Enrolment.turns .confused 5 ⟨1, "T", .ios⟩ [] ["a", "b", "c"]
      (Session.begin .tangled .secondCommit)
    let after := ((Enrolment.registerBatch .confused 5 true request).runUnit .tangled
      .secondCommit).2.committed
    batch.map Turn.registrationId? = [some 3, none, some 4] ∧
      ((batch.filter Turn.succeeded).map Turn.registrationId?).Nodup ∧
      ∀ turn ∈ batch, turn.succeeded = true →
        ∃ row ∈ after.rows, turn.registrationId? = some row.id ∧
          row ∈ turn.after.committed.rows ∧ row.heard 1 ⟨1, "T", .ios⟩ 5 = row := by
  intro request batch after
  have hnumbers : batch.map Turn.registrationId? = [some 3, none, some 4] := by decide +kernel
  obtain ⟨hnodup, hrows⟩ := Enrolment.registerBatch_keeps_registered .confused 5 .tangled
    .secondCommit (show request.checked = .ok (⟨1, "T", .ios⟩, ["a", "b", "c"]) by rfl)
  exact ⟨hnumbers, hnodup, hrows⟩

end PushRegistry
