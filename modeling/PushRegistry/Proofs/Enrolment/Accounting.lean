import PushRegistry.Proofs.Enrolment.Questions
import PushRegistry.Proofs.Enrolment.Turns

/-!
# The account of a batch

A batch on a table that can be read, with an activation service that replies, is never ended by a
defect, whatever calls of the store fail and whatever duplicates it finds: every activation has its
turn. The counts of the session then follow from the turns. A registered activation has committed
once, a failed one was taken back once, and the service was asked about an activation just if a
registration was chosen for it.

## Main definitions

* `Oracle.Replies`: the service answers with a usable user or refuses.
* `Table.Workable`: tables that a batch can work on.
* `Enrolment.choices`: what was chosen for the activations in their turns.

## Main results

* `Table.Workable.ne_defect`: an activation of a batch does not end with a defect.
* `Enrolment.published_enrolAll`, `Enrolment.asked_enrolAll`, `Enrolment.rollbacks_enrolAll`: the
  account of a batch.
* `Enrolment.registerBatch_accounts`: the account of a request.
-/

namespace PushRegistry

/-- Whether the service answers about an activation, with a user that has a form in the table, or
refuses to answer. -/
def Oracle.Replies (oracle : Oracle) (activationId : String) : Prop :=
  match oracle activationId with
  | .ok answer => ∀ report, answer = some report → report.userId.IsUser
  | .error e => ∃ error, e = .app error

theorem Failure.app_ne_defect (error : AppError) (d : Defect) : Failure.app error ≠ .defect d := by
  intro h
  cases h

/-! ### Tables that a batch can work on -/

namespace Table

variable {t t' : Table} {oracle : Oracle} {now : Int} {device : Device} {claimed : List Int}
  {a : String} {saved : Registration} {e : Failure} {rows : List Row}

/-- Whether all rows can be read, and all numbers have a form in the store as far as a batch refers
to them. -/
structure Workable (t : Table) (device : Device) (claimed : List Int) : Prop
    extends Fits t device.appId claimed where
  readable : ∀ row ∈ t.rows, row.Readable

/-- Rows fail to make place if one of them is out of range. -/
theorem cleared_eq_error (h : t.cleared claimed rows = .error e) :
    ∃ row ∈ rows, row.id ∉ claimed ∧ fitsStore row.id = false := by
  by_cases hsole : ∃ row, rows = [row]
  · obtain ⟨row, rfl⟩ := hsole
    cases h
  · rw [cleared_of_ne fun row hrow => hsole ⟨row, hrow⟩] at h
    split at h
    · cases h
    · next hall =>
      simp only [List.all_eq_true, Classical.not_forall, Bool.not_eq_true] at hall
      obtain ⟨row, hrow, hout⟩ := hall
      obtain ⟨hmem, hfree⟩ := List.mem_filter.mp hrow
      exact ⟨row, hmem, of_decide_eq_true hfree, hout⟩

/-- An activation that is registered leaves a table to work on. -/
theorem Workable.reconciledInBatch (ht : t.Workable device claimed)
    (h : t.reconciledInBatch oracle now device claimed a = .ok (saved, t')) :
    t'.Workable device (saved.id.toList ++ claimed) where
  app := ht.app
  ids x hx hfree := by
    rcases mem_reconciledInBatch h hx with ⟨hold, -⟩ | ⟨hid, -⟩
    · exact ht.ids x hold fun hclaimed => hfree (List.mem_append_right _ hclaimed)
    · rw [hid] at hfree
      exact absurd (List.mem_append_left _ (List.mem_singleton.mpr rfl)) hfree
  readable := readable_reconciledInBatch ht.readable h

/-- An enrolment with a reply does not end with a defect. -/
theorem enrolled_ne_defect {appId : Int} {chosen : Option Row} (hfits : fitsStore appId = true)
    (hreplies : oracle.Replies a)
    (h : t.enrolled oracle now appId device chosen a = .error e) (d : Defect) : e ≠ .defect d := by
  rw [Oracle.Replies] at hreplies
  cases hanswer : oracle a with
  | error e' =>
    rw [hanswer] at hreplies
    obtain ⟨error, rfl⟩ := hreplies
    rw [enrolled, hanswer] at h
    cases h
    exact Failure.app_ne_defect error d
  | ok answer =>
    rw [hanswer] at hreplies
    cases hforbids : t.forbids (t.enrolledRow appId device now chosen answer) with
    | false =>
      cases (enrolled_of_admitted hanswer hfits hreplies hforbids).symm.trans h
    | true =>
      obtain ⟨activationId, htaken⟩ := enrolled_of_forbidden hanswer hfits hreplies hforbids
      cases htaken.symm.trans h
      exact Failure.app_ne_defect _ d

/-- On a table to work on, an activation of a batch does not end with a defect. -/
theorem Workable.ne_defect (ht : t.Workable device claimed) (hreplies : oracle.Replies a)
    (h : t.reconciledInBatch oracle now device claimed a = .error e) (d : Defect) :
    e ≠ .defect d := by
  rcases bind_eq_error_iff.mp h with hrows | ⟨rows, hrows, h⟩
  · obtain ⟨n, rfl | rfl⟩ := located_eq_error ht.readable ht.app hrows <;>
      exact Failure.app_ne_defect _ d
  · have hmem : ∀ row ∈ rows, row ∈ t.rows := fun row hrow => mem_of_located hrows hrow
    rcases bind_eq_error_iff.mp h with hcleared | ⟨t₁, -, h⟩
    · obtain ⟨row, hrow, hfree, hout⟩ := cleared_eq_error hcleared
      cases hout.symm.trans (ht.ids row (hmem row hrow) hfree)
    · rw [enrolledInRange_eq] at h
      · exact enrolled_ne_defect ht.app hreplies h d
      · intro row hrow
        obtain ⟨rfl, hfree⟩ := Row.eq_singleton_of_unclaimed? hrow
        exact ht.ids row (hmem row (List.mem_singleton.mpr rfl)) hfree

end Table

namespace Enrolment

open Work

variable {oracle : Oracle} {now : Int} {device : Device} {claimed : List Int} {a : String}
  {ids : List String} {os : List Outcome}

/-! ### One turn -/

/-- An enrolment that is committed has published the table that it leaves; no enrolment takes
anything back by itself. -/
theorem tally_enrolInBatch {s s' : Session} {result : Except Failure Registration}
    (hs : s.Settled) (hrun : enrolInBatch oracle now device claimed a s = (result, s')) :
    s'.rollbacks = s.rollbacks ∧
      s'.published = s.published ++ if result.isOk then [s'.committed] else [] := by
  rw [enrolInBatch_eq_commit] at hrun
  exact (comesTo_reconciledInBatch s.committed oracle now device claimed a).tally_commit id hs rfl
    hrun

/-- A registered activation has committed the table that it leaves, and no other turn commits. -/
theorem published_attemptInBatch {s s₁ : Session} {res : Except Failure Outcome} (hs : s.Settled)
    (hrun : attemptInBatch oracle now device claimed a s = (res, s₁)) :
    s₁.published = s.published ++ if (Turn.mk a res s₁).succeeded then [s₁.committed] else [] := by
  rcases attemptInBatch_cases hrun with ⟨_, hwork, rfl⟩ | ⟨_, hwork, rfl⟩ | ⟨_, _, hwork, rfl, rfl⟩
  all_goals exact (tally_enrolInBatch hs hwork).2

/-- An activation that fails is taken back once. -/
theorem rollbacks_attemptInBatch {s s₁ : Session} {o : Outcome} (hs : s.Settled)
    (hrun : attemptInBatch oracle now device claimed a s = (.ok o, s₁)) :
    s₁.rollbacks = s.rollbacks + if o.succeeded then 0 else 1 := by
  rcases attemptInBatch_cases hrun with ⟨_, hwork, hres⟩ | ⟨_, hwork, hres⟩ |
    ⟨_, _, hwork, hres, rfl⟩ <;> cases hres
  · exact (tally_enrolInBatch hs hwork).1
  · exact congrArg (· + 1) (tally_enrolInBatch hs hwork).1

/-- A turn asks about its activation just if a registration was chosen for it. -/
theorem asked_attemptInBatch (oracle : Oracle) (now : Int) (device : Device) (claimed : List Int)
    (a : String) (s : Session) :
    (attemptInBatch oracle now device claimed a s).2.asked =
      s.asked ++ if (chooseInBatch device a now claimed s).1.isOk then [a] else [] := by
  have hasked := asked_enrolInBatch oracle now device claimed a s
  rcases hrun : attemptInBatch oracle now device claimed a s with ⟨res, s₁⟩
  rcases attemptInBatch_cases hrun with ⟨_, hwork, -⟩ | ⟨_, hwork, -⟩ | ⟨_, _, hwork, -, rfl⟩ <;>
    rw [hwork] at hasked <;> exact hasked

/-- On a table to work on, a turn ends with an outcome and leaves such a table, whatever calls of
the store fail. -/
theorem workable_attemptInBatch {s s₁ : Session} {res : Except Failure Outcome} (hs : s.Settled)
    (ht : s.committed.Workable device claimed) (hreplies : oracle.Replies a)
    (hrun : attemptInBatch oracle now device claimed a s = (res, s₁)) :
    ∃ o, res = .ok o ∧ s₁.Settled ∧
      s₁.committed.Workable device (o.registrationId?.toList ++ claimed) := by
  have hattempt := attempt_of_settles hs
    (settles_reconciledInBatch s.committed oracle now device claimed a)
  rw [hrun] at hattempt
  cases hattempt with
  | registered hresult hsettled _ => exact ⟨_, rfl, hsettled, ht.reconciledInBatch hresult⟩
  | failed _ _ hsettled hcommitted _ _ => exact ⟨_, rfl, hsettled, hcommitted ▸ ht⟩
  | aborted hcause _ _ => exact absurd rfl (ht.ne_defect hreplies hcause _)

/-! ### All turns -/

/-- What was chosen for the activations of a batch in their turns. -/
def choices (oracle : Oracle) (now : Int) (device : Device) (claimed : List Int) :
    List String → Session → List (String × Except Failure Registration)
  | [], _ => []
  | activationId :: rest, s =>
    (activationId, (chooseInBatch device activationId now claimed s).1) ::
      match attemptInBatch oracle now device claimed activationId s with
      | (.ok o, s') => choices oracle now device (o.registrationId?.toList ++ claimed) rest s'
      | (.error _, _) => []

/-- The activations for which a registration was chosen. -/
def chosenActivations (choices : List (String × Except Failure Registration)) : List String :=
  (choices.filter (·.2.isOk)).map Prod.fst

theorem chosenActivations_cons (a : String) (choice : Except Failure Registration)
    (rest : List (String × Except Failure Registration)) :
    chosenActivations ((a, choice) :: rest) =
      (if choice.isOk then [a] else []) ++ chosenActivations rest := by
  cases choice <;> rfl

/-- A batch asks about the activations for which a registration was chosen, in order. -/
theorem asked_enrolAll (oracle : Oracle) (now : Int) (device : Device) (claimed : List Int)
    (ids : List String) (s : Session) :
    (enrolAll oracle now device claimed ids s).2.asked =
      s.asked ++ chosenActivations (choices oracle now device claimed ids s) := by
  induction ids generalizing claimed s with
  | nil => exact (List.append_nil _).symm
  | cons a rest ih =>
    have hasked := asked_attemptInBatch oracle now device claimed a s
    rw [choices, chosenActivations_cons, ← List.append_assoc, ← hasked]
    rcases hrun : attemptInBatch oracle now device claimed a s with ⟨e | o, s₁⟩
    · rw [enrolAll_cons_of_error hrun]
      exact (List.append_nil _).symm
    · rw [enrolAll_cons_snd_of_ok hrun]
      exact ih _ s₁

/-- A batch commits what the turns of its registered activations have left, in order. -/
theorem published_enrolAll (oracle : Oracle) (now : Int) (device : Device) (claimed : List Int)
    (ids : List String) {s : Session} (hs : s.Settled) :
    (enrolAll oracle now device claimed ids s).2.published =
      s.published ++ ((turns oracle now device claimed ids s).filter Turn.succeeded).map
        fun turn => turn.after.committed := by
  induction ids generalizing claimed s with
  | nil => exact (List.append_nil _).symm
  | cons a rest ih =>
    rcases hrun : attemptInBatch oracle now device claimed a s with ⟨e | o, s₁⟩
    · rw [enrolAll_cons_of_error hrun, turns_cons_of_error hrun]
      exact published_attemptInBatch hs hrun
    · rw [enrolAll_cons_snd_of_ok hrun, turns_cons_of_ok hrun,
        ih _ (settled_attemptInBatch hs hrun).1, published_attemptInBatch hs hrun, List.filter_cons]
      split
      · rw [List.append_assoc]
        rfl
      · rw [List.append_nil]

theorem failedActivations_cons (o : Outcome) (os : List Outcome) :
    failedActivations (o :: os) =
      (if o.succeeded then [] else [o.activationId]) ++ failedActivations os := by
  rw [failedActivations, List.filter_cons]
  cases o.succeeded <;> rfl

/-- In a batch that ends with outcomes, every activation has its turn, and those fail whose turns
do. -/
theorem turns_of_enrolAll {s s' : Session} (hs : s.Settled)
    (h : enrolAll oracle now device claimed ids s = (.ok os, s')) :
    (turns oracle now device claimed ids s).map Turn.activationId = ids ∧
      (choices oracle now device claimed ids s).map Prod.fst = ids ∧
      ((turns oracle now device claimed ids s).filter (!·.succeeded)).map Turn.activationId =
        failedActivations os := by
  induction ids generalizing claimed s os with
  | nil =>
    cases h
    exact ⟨rfl, rfl, rfl⟩
  | cons a rest ih =>
    obtain ⟨o, s₁, os₁, hrun, hrest, rfl⟩ := enrolAll_cons_eq_ok_iff.mp h
    obtain ⟨hs₁, rfl⟩ := settled_attemptInBatch hs hrun
    obtain ⟨hturns, hchoices, hfailed⟩ := ih hs₁ hrest
    rw [turns_cons_of_ok hrun, choices, hrun, List.map_cons, List.map_cons, hturns, hchoices,
      failedActivations_cons, ← hfailed, List.filter_cons]
    refine ⟨rfl, rfl, ?_⟩
    change (if !o.succeeded then _ else _ : List Turn).map _ = _
    cases o.succeeded <;> rfl

/-- A batch takes back each activation that fails. -/
theorem rollbacks_enrolAll {s s' : Session} (hs : s.Settled)
    (h : enrolAll oracle now device claimed ids s = (.ok os, s')) :
    s'.rollbacks = s.rollbacks + (failedActivations os).length := by
  induction ids generalizing claimed s os with
  | nil =>
    cases h
    rfl
  | cons a rest ih =>
    obtain ⟨o, s₁, os₁, hrun, hrest, rfl⟩ := enrolAll_cons_eq_ok_iff.mp h
    rw [ih (settled_attemptInBatch hs hrun).1 hrest, rollbacks_attemptInBatch hs hrun,
      failedActivations_cons, List.length_append, ← Nat.add_assoc]
    cases o.succeeded <;> rfl

/-- On a table to work on, a batch ends with outcomes, whatever calls of the store fail. -/
theorem exists_enrolAll_eq_ok (now : Int) {s : Session} (hs : s.Settled)
    (ht : s.committed.Workable device claimed) (hreplies : ∀ a ∈ ids, oracle.Replies a) :
    ∃ os s', enrolAll oracle now device claimed ids s = (.ok os, s') := by
  induction ids generalizing claimed s with
  | nil => exact ⟨[], s, rfl⟩
  | cons a rest ih =>
    obtain ⟨ha, hrest⟩ := List.forall_mem_cons.mp hreplies
    rcases hrun : attemptInBatch oracle now device claimed a s with ⟨res, s₁⟩
    obtain ⟨o, rfl, hs₁, ht₁⟩ := workable_attemptInBatch hs ht ha hrun
    obtain ⟨os, s', hall⟩ := ih hs₁ ht₁ hrest
    exact ⟨o :: os, s', enrolAll_cons_eq_ok_iff.mpr ⟨o, s₁, os, hrun, hall, rfl⟩⟩

/-- On every table that can be read, duplicates or not, and whatever calls of the store fail, each
activation of a batch has its turn. The request ends with one outcome for each of them, or it
complains about those that failed and about nothing else. It commits once for each activation that
is registered, takes back once for each that fails and once more if there are any, and asks about
those for which a registration was chosen. -/
theorem registerBatch_accounts (oracle : Oracle) (now : Int) (t : Table) (plan : FaultPlan)
    {request : BatchRequest} (hchecked : request.checked = .ok (device, ids))
    (ht : t.Workable device []) (hreplies : ∀ a ∈ ids, oracle.Replies a) :
    let batch := turns oracle now device [] ids (Session.begin t plan)
    let chosen := choices oracle now device [] ids (Session.begin t plan)
    let failed := (batch.filter (!·.succeeded)).map Turn.activationId
    let run := (registerBatch oracle now true request).runUnit t plan
    batch.map Turn.activationId = ids ∧
      (failed = [] → ∃ os, run.1 = .ok os ∧ os.map Outcome.activationId = ids ∧
        ∀ o ∈ os, o.succeeded = true) ∧
      (failed ≠ [] → run.1 = .error (.app (.batchFailed failed))) ∧
      run.2.commits = (batch.filter Turn.succeeded).length ∧
      run.2.rollbacks = failed.length + (if failed = [] then 0 else 1) ∧
      chosen.map Prod.fst = ids ∧ run.2.asked = chosenActivations chosen := by
  intro batch chosen failed run
  have hs := Session.settled_begin t plan
  obtain ⟨os, s', henrol⟩ := exists_enrolAll_eq_ok now hs ht hreplies
  obtain ⟨hturns, hchoices, hfailed⟩ := turns_of_enrolAll hs henrol
  have happly := registerBatch_of_enrolAll hchecked henrol
  have hanswer := runUnit_fst (registerBatch oracle now true request) t plan
  have hcommitted := published_runUnit (registerBatch oracle now true request) t plan
  have hrolledBack := rollbacks_runUnit (registerBatch oracle now true request) t plan
  have hquestions := asked_runUnit (registerBatch oracle now true request) t plan
  have hpublished := published_enrolAll oracle now device [] ids hs
  have hrollbacks := rollbacks_enrolAll hs henrol
  have hasked := asked_enrolAll oracle now device [] ids (Session.begin t plan)
  rw [happly] at hanswer hcommitted hrolledBack hquestions
  rw [henrol] at hpublished hasked
  have hfailed : failed = failedActivations os := hfailed
  refine ⟨hturns, fun hnone => ⟨os, ?_, activationId_enrolAll hs henrol, ?_⟩, fun hsome => ?_,
    ?_, ?_, hchoices, hquestions.trans hasked⟩
  · exact hanswer.trans (if_pos (hfailed ▸ hnone))
  · exact failedActivations_eq_nil_iff.mp (hfailed ▸ hnone)
  · rw [hfailed] at hsome ⊢
    exact hanswer.trans (if_neg hsome)
  · exact (congrArg List.length (hcommitted.trans hpublished)).trans (List.length_map _)
  · rw [hfailed]
    refine hrolledBack.trans ?_
    rw [hrollbacks, show (Session.begin t plan).rollbacks = 0 from rfl, Nat.zero_add]
    split <;> rfl

end Enrolment

/-! ### A batch that fails in several ways -/

/-- The plan by which the first removal and the first commit do not get through. -/
def FaultPlan.scattered : FaultPlan := fun kind n =>
  if kind = .delete ∧ n = 1 then some .integrity
  else if kind = .commit ∧ n = 1 then some .operational
  else Option.none

/-- The first activation has two rows, rows fail to make place for the second one, the third one is
lost when it is committed, and the last one is registered. -/
theorem registerBatch_accounts_tangled :
    let request : BatchRequest :=
      ⟨some 1, some "T", some "ios", some [some "q", some "b", some "c", some "d"]⟩
    let run := (Enrolment.registerBatch .allActive 5 true request).runUnit .tangled .scattered
    Table.tangled.Workable ⟨1, "T", .ios⟩ [] ∧
      (∀ a ∈ ["q", "b", "c", "d"], Oracle.allActive.Replies a) ∧
      run.1 = .error (.app (.batchFailed ["q", "b", "c"])) ∧ run.2.commits = 1 ∧
      run.2.rollbacks = 4 ∧ run.2.asked = ["c", "d"] := by
  intro request run
  have hios : ∀ row ∈ Table.tangled.rows, row.platform = Platform.ios.name := by decide
  have ht : Table.tangled.Workable ⟨1, "T", .ios⟩ [] :=
    ⟨⟨by decide, by decide⟩, fun row hrow => ⟨.ios, hios row hrow⟩⟩
  have hreplies : ∀ a ∈ ["q", "b", "c", "d"], Oracle.allActive.Replies a := by
    rintro a - _ ⟨⟩
    exact .inl rfl
  have hfailed : ((Enrolment.turns .allActive 5 ⟨1, "T", .ios⟩ [] ["q", "b", "c", "d"]
      (Session.begin .tangled .scattered)).filter (!·.succeeded)).map Turn.activationId =
        ["q", "b", "c"] := by decide +kernel
  have hregistered : ((Enrolment.turns .allActive 5 ⟨1, "T", .ios⟩ [] ["q", "b", "c", "d"]
      (Session.begin .tangled .scattered)).filter Turn.succeeded).length = 1 := by decide +kernel
  have hchosen : Enrolment.chosenActivations (Enrolment.choices .allActive 5 ⟨1, "T", .ios⟩ []
      ["q", "b", "c", "d"] (Session.begin .tangled .scattered)) = ["c", "d"] := by decide +kernel
  obtain ⟨-, -, hanswer, hcommits, hrollbacks, -, hasked⟩ :=
    Enrolment.registerBatch_accounts .allActive 5 .tangled .scattered
      (show request.checked = .ok (⟨1, "T", .ios⟩, ["q", "b", "c", "d"]) by rfl) ht hreplies
  rw [hfailed] at hanswer hrollbacks
  exact ⟨ht, hreplies, hanswer (by simp), hcommits.trans hregistered, hrollbacks,
    hasked.trans hchosen⟩

end PushRegistry
