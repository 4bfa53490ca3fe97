import PushRegistry.Proofs.Enrolment.BatchRun

/-!
# When a batch fails

Without faults and with usable answers, an activation of a batch fails only if it can be bound to
and its row was claimed before its turn. The rows that are claimed are bound to the activations
that were registered, except that the first activation of a batch may take over the only row of the
token without binding it. If that row belongs to a later activation of the batch, the later
activation gets a new row, which the index refuses.

## Main definitions

* `Table.Strands`: the tables on which a batch fails, and the activation that it fails for.
* `Table.Following`: tables in the course of a batch after its first activation.

## Main results

* `Table.Following.enrolledAll`: the activations that fail after the first one.
* `Enrolment.registerBatch_succeeds_iff`: when a batch succeeds, and for which activation it fails
  otherwise.
-/

namespace PushRegistry

namespace Table

variable {t t' : Table} {oracle : Oracle} {now : Int} {device : Device} {claimed : List Int}
  {done rest : List String} {stray : Option String} {a b : String} {saved : Registration}
  {row : Row}

/-- Whether the first activation of a batch takes over the row of a later one: it cannot be bound
to and has no row, and the only row of the device is bound to the later activation, which can be
bound to. -/
def Strands (t : Table) (oracle : Oracle) (device : Device) (ids : List String)
    (activationId : String) : Prop :=
  ∃ first rest row, ids = first :: rest ∧ oracle.admits first = false ∧ t.boundTo first = [] ∧
    t.keyedBy device.appId device.token = [row] ∧ row.activationId = some activationId ∧
    activationId ∈ rest ∧ oracle.admits activationId = true

/-- What holds in the course of a batch after its first activation. The claimed rows are bound to
activations that are done, or one of them to a stray activation. -/
structure Following (t : Table) (device : Device) (claimed : List Int) (done : List String)
    (stray : Option String) : Prop extends Underway t device claimed where
  occupied : ∃ x ∈ t.rows, x.id ∈ claimed
  bound : ∀ x ∈ t.rows, x.id ∈ claimed → ∀ c, x.activationId = some c → c ∈ done ∨ stray = some c
  astray : ∀ c, stray = some c → ∃ x ∈ t.rows, x.id ∈ claimed ∧ x.activationId = some c

/-! ### The first activation -/

/-- The first activation of a batch does not fail. -/
theorem registeredInBatch_first (now : Int) (ht : t.Underway device [])
    (hanswers : oracle.Answers b) :
    ∃ saved t', t.registeredInBatch oracle now device [] b = .ok (saved, t') :=
  registeredInBatch_of_unclaimed now ht hanswers fun _ x _ _ => by simp

/-- After the first activation, its row is the only one claimed. -/
theorem following_first {answer : Option ActivationReport} (ht : t.Underway device [])
    (hanswers : oracle.Answers b) (hanswer : oracle b = .ok answer)
    (h : t.registeredInBatch oracle now device [] b = .ok (saved, t')) :
    t'.Following device (saved.id.toList ++ []) [b]
      (t.batchRow device now [] b answer).activationId := by
  have hunderway := ht.registeredInBatch hanswers.reportsAsked h
  obtain ⟨answer', hanswer', hid, hrows⟩ := registeredInBatch_eq_ok h
  obtain rfl : answer = answer' := Except.ok.inj (hanswer.symm.trans hanswer')
  have hrow : t.batchRow device now [] b answer ∈ t'.rows := (hrows _).mpr (.inl rfl)
  have hclaimed : ∀ x ∈ t'.rows, x.id ∈ saved.id.toList ++ [] ↔
      x = t.batchRow device now [] b answer := by
    intro x hx
    rw [hid, List.append_nil, Option.toList_some, List.mem_singleton]
    exact ⟨eq_of_id_eq hx hrow, congrArg Row.id⟩
  exact
    { toUnderway := hunderway
      occupied := ⟨_, hrow, (hclaimed _ hrow).mpr rfl⟩
      bound := fun x hx hxclaimed c hc => .inr ((hclaimed x hx).mp hxclaimed ▸ hc)
      astray := fun c hc => ⟨_, hrow, (hclaimed _ hrow).mpr rfl, hc⟩ }

/-! ### The other activations -/

/-- After the first activation of a batch, a row is taken over only by its own activation. -/
theorem Following.activationId_of_chosen (ht : t.Following device claimed done stray)
    (h : t.chosenInBatch device claimed a = some row) : row.activationId = some a := by
  obtain ⟨hcandidates, -, hunclaimed⟩ := mem_of_chosenInBatch h
  rcases ht.healthy.boundTo_cases a with hnil | ⟨x, -, hxa, hrows⟩
  · obtain ⟨x, hx, hclaimed⟩ := ht.occupied
    rw [candidates_of_unbound hnil] at hcandidates
    have hmem := mem_keyedBy.mpr ⟨hx, ht.claims x hx hclaimed⟩
    rw [hcandidates, List.mem_singleton] at hmem
    exact absurd (hmem ▸ hclaimed) hunclaimed
  · rw [candidates_of_bound hrows] at hcandidates
    exact List.singleton_inj.mp hcandidates ▸ hxa

/-- An activation that is registered leaves the claimed rows and binds its own. -/
theorem Following.registeredInBatch (ht : t.Following device claimed done stray)
    (hanswers : oracle.Answers a)
    (h : t.registeredInBatch oracle now device claimed a = .ok (saved, t')) :
    t'.Following device (saved.id.toList ++ claimed) (a :: done) stray := by
  have hunderway := ht.toUnderway.registeredInBatch hanswers.reportsAsked h
  obtain ⟨answer, hanswer, hid, hrows⟩ := registeredInBatch_eq_ok h
  have hrow : t.batchRow device now claimed a answer ∈ t'.rows := (hrows _).mpr (.inl rfl)
  have hclaimed : ∀ n, n ∈ saved.id.toList ++ claimed ↔
      n = (t.batchRow device now claimed a answer).id ∨ n ∈ claimed := by
    intro n
    rw [hid, Option.toList_some, List.singleton_append, List.mem_cons]
  refine { toUnderway := hunderway, occupied := ?_, bound := ?_, astray := ?_ }
  · exact ⟨_, hrow, (hclaimed _).mpr (.inl rfl)⟩
  · intro x hx hxclaimed c hc
    rcases (hrows x).mp hx with rfl | ⟨hold, hne⟩
    · refine .inl (List.mem_cons.mpr (.inl ?_))
      rcases activationId_enrolledRow_of_reports (t.vacated device claimed a) device.appId device
        now (t.chosenInBatch device claimed a) hanswers.reportsAsked hanswer with hkept | hasked
      · obtain ⟨row, hchosen, hrowc⟩ := Option.bind_eq_some_iff.mp (hkept.symm.trans hc)
        exact Option.some.inj (hrowc.symm.trans (ht.activationId_of_chosen hchosen))
      · exact Option.some.inj (hc.symm.trans hasked)
    · have hxold := ((hclaimed x.id).mp hxclaimed).resolve_left hne
      exact (ht.bound x (mem_vacated.mp hold).1 hxold c hc).imp_left (List.mem_cons_of_mem a)
  · intro c hc
    obtain ⟨x, hx, hxclaimed, hxc⟩ := ht.astray c hc
    exact ⟨x, mem_of_claimed hx hxclaimed h, (hclaimed x.id).mpr (.inr hxclaimed), hxc⟩

/-- An activation that fails leaves everything as it is. -/
theorem Following.mono (ht : t.Following device claimed done stray) (a : String) :
    t.Following device claimed (a :: done) stray :=
  { ht with
    bound := fun x hx hclaimed c hc =>
      (ht.bound x hx hclaimed c hc).imp_left (List.mem_cons_of_mem a) }

/-- After the first activation of a batch just the stray activation fails, if it can be bound to. -/
theorem Following.enrolledAll (ht : t.Following device claimed done stray)
    (hanswers : ∀ a ∈ rest, oracle.Answers a) (hnodup : rest.Nodup)
    (hfresh : ∀ a ∈ rest, a ∉ done) :
    ∃ os t', t.enrolledAll oracle now device claimed rest = .ok (os, t') ∧
      os.map Outcome.activationId = rest ∧
      Enrolment.failedActivations os =
        rest.filter fun a => decide (stray = some a) && oracle.admits a := by
  induction rest generalizing t claimed done with
  | nil => exact ⟨[], t, rfl, rfl, rfl⟩
  | cons a rest ih =>
    obtain ⟨ha, hrest⟩ := List.forall_mem_cons.mp hanswers
    obtain ⟨hadone, hnodup, hfresh⟩ := fresh_of_cons hnodup hfresh
    by_cases hfails : stray = some a ∧ oracle.admits a = true
    · obtain ⟨hstray, hadmits⟩ := hfails
      obtain ⟨x, hx, hclaimed, hxa⟩ := ht.astray a hstray
      obtain ⟨activationId, hresult⟩ :=
        registeredInBatch_of_claimed now ht.toUnderway ha hadmits hx hxa hclaimed
      have hattempted := attempted_of_failure (fun d => by simp) hresult
      obtain ⟨os, t', hos, hids, hfailed⟩ := ih (ht.mono a) hrest hnodup hfresh
      refine ⟨_ :: os, t', enrolledAll_cons_eq_ok.mpr ⟨_, t, os, hattempted, hos, rfl⟩, ?_, ?_⟩
      · rw [List.map_cons, hids]
      · rw [List.filter_cons_of_pos (by simp [hstray, hadmits]), ← hfailed]
        rfl
    · obtain ⟨saved, t₁, hresult⟩ := registeredInBatch_of_unclaimed now ht.toUnderway ha
        fun hadmits x hx hxa hclaimed =>
          (ht.bound x hx hclaimed a hxa).elim hadone fun hstray => hfails ⟨hstray, hadmits⟩
      have hattempted := attempted_of_ok hresult
      obtain ⟨os, t', hos, hids, hfailed⟩ :=
        ih (ht.registeredInBatch ha hresult) hrest hnodup hfresh
      refine ⟨_ :: os, t', enrolledAll_cons_eq_ok.mpr ⟨_, t₁, os, hattempted, hos, rfl⟩, ?_, ?_⟩
      · rw [List.map_cons, hids]
      · rw [List.filter_cons_of_neg (by simpa using hfails), ← hfailed]
        rfl

/-- The stray activation is the one that the table strands. -/
theorem strands_cons_iff {answer : Option ActivationReport} (ht : t.Healthy)
    (hanswer : oracle b = .ok answer) (hreports : oracle.ReportsAsked b) (hb : b ∉ rest) :
    t.Strands oracle device (b :: rest) a ↔
      a ∈ rest ∧ (t.batchRow device now [] b answer).activationId = some a ∧
        oracle.admits a = true := by
  constructor
  · rintro ⟨first, rest', row, heq, hfirst, hnil, hrows, hrowa, ha, hadmits⟩
    obtain ⟨rfl, rfl⟩ := List.cons.inj heq
    refine ⟨ha, ?_, hadmits⟩
    have hchosen : t.chosenInBatch device [] b = some row := by
      rw [chosenInBatch_of_singleton ((candidates_of_unbound hnil).trans hrows)]
      rfl
    rw [activationId_batchRow_of_not_admits hanswer hfirst, hchosen]
    exact hrowa
  · rintro ⟨ha, hbound, hadmits⟩
    have hfirst : oracle.admits b = false := by
      rw [Bool.eq_false_iff]
      intro hb'
      rw [activationId_batchRow_of_admits hanswer hreports hb'] at hbound
      exact hb (Option.some.inj hbound ▸ ha)
    rw [activationId_batchRow_of_not_admits hanswer hfirst] at hbound
    obtain ⟨row, hchosen, hrowa⟩ := Option.bind_eq_some_iff.mp hbound
    obtain ⟨hcandidates, -, -⟩ := mem_of_chosenInBatch hchosen
    rcases ht.boundTo_cases b with hnil | ⟨x, -, hxb, hrows⟩
    · rw [candidates_of_unbound hnil] at hcandidates
      exact ⟨b, rest, row, rfl, hfirst, hnil, hcandidates, hrowa, ha, hadmits⟩
    · rw [candidates_of_bound hrows] at hcandidates
      obtain rfl := List.singleton_inj.mp hcandidates
      exact absurd (Option.some.inj (hxb.symm.trans hrowa) ▸ ha) hb

/-- A table strands one activation at most. -/
theorem Strands.eq {ids : List String} {c : String} (h : t.Strands oracle device ids a)
    (h' : t.Strands oracle device ids c) : a = c := by
  obtain ⟨first, rest, row, -, -, -, hrows, hrow, -⟩ := h
  obtain ⟨first', rest', row', -, -, -, hrows', hrow', -⟩ := h'
  obtain rfl := List.singleton_inj.mp (hrows.symm.trans hrows')
  exact Option.some.inj (hrow.symm.trans hrow')

/-- The activations of a batch that fail are those that the table strands. -/
theorem Underway.enrolledAll {ids : List String} (ht : t.Underway device []) (now : Int)
    (hanswers : ∀ a ∈ ids, oracle.Answers a) (hnodup : ids.Nodup) :
    ∃ os t', t.enrolledAll oracle now device [] ids = .ok (os, t') ∧
      os.map Outcome.activationId = ids ∧ (Enrolment.failedActivations os).Nodup ∧
      ∀ a, a ∈ Enrolment.failedActivations os ↔ t.Strands oracle device ids a := by
  cases ids with
  | nil =>
    have hnone : ∀ a, ¬ t.Strands oracle device [] a := by
      rintro a ⟨first, rest, row, heq, -⟩
      cases heq
    exact ⟨[], t, rfl, rfl, List.nodup_nil, fun a => iff_of_false List.not_mem_nil (hnone a)⟩
  | cons b rest =>
    obtain ⟨hb, hrest⟩ := List.forall_mem_cons.mp hanswers
    obtain ⟨hbmem, hnodup⟩ := List.nodup_cons.mp hnodup
    obtain ⟨saved, t₁, hresult⟩ := registeredInBatch_first now ht hb
    obtain ⟨answer, hanswer, -⟩ := id hb
    obtain ⟨os, t', hos, hids, hfailed⟩ := (following_first ht hb hanswer hresult).enrolledAll
      hrest hnodup fun a ha hmem => hbmem (List.mem_singleton.mp hmem ▸ ha)
    refine ⟨_ :: os, t', enrolledAll_cons_eq_ok.mpr ⟨_, t₁, os, attempted_of_ok hresult, hos, rfl⟩,
      by rw [List.map_cons, hids], ?_⟩
    change (Enrolment.failedActivations os).Nodup ∧ ∀ a, a ∈ Enrolment.failedActivations os ↔ _
    rw [hfailed]
    refine ⟨hnodup.sublist List.filter_sublist, fun a => ?_⟩
    rw [strands_cons_iff ht.healthy hanswer hb.reportsAsked hbmem, List.mem_filter,
      Bool.and_eq_true, decide_eq_true_iff]

end Table

namespace Enrolment

open Work

variable {t : Table} {oracle : Oracle} {device : Device} {request : BatchRequest}
  {ids : List String}

/-- Without faults and with usable answers, a batch on a healthy table succeeds for all activations
unless the table strands one of them, and then it fails for that one. -/
theorem registerBatch_succeeds_iff (now : Int) (hchecked : request.checked = .ok (device, ids))
    (ht : t.Healthy) (hfits : t.Fits device.appId []) (hanswers : ∀ a ∈ ids, oracle.Answers a) :
    ((∃ os, ((registerBatch oracle now true request).runUnit t .none).1 = .ok os ∧
        os.map Outcome.activationId = ids ∧ ∀ o ∈ os, o.succeeded = true) ↔
      ∀ a, ¬ t.Strands oracle device ids a) ∧
    ∀ a, t.Strands oracle device ids a →
      ((registerBatch oracle now true request).runUnit t .none).1 =
        .error (.app (.batchFailed [a])) := by
  obtain ⟨os, t', hos, hids, hnodup, hfailed⟩ := (Table.underway_nil ht hfits).enrolledAll
    now hanswers (BatchRequest.nodup_of_checked hchecked)
  obtain ⟨hrun, -⟩ := runUnit_registerBatch hchecked ht hfits
    (fun a ha => (hanswers a ha).reportsAsked) hos
  rw [hrun]
  have hstrands : ∀ a, t.Strands oracle device ids a → failedActivations os = [a] := by
    intro a ha
    refine List.perm_singleton.mp ((List.perm_ext_iff_of_nodup hnodup (by simp)).mpr fun c => ?_)
    rw [hfailed, List.mem_singleton]
    exact ⟨fun hc => hc.eq ha, fun hc => hc ▸ ha⟩
  constructor
  · constructor
    · rintro ⟨os', hok, -, -⟩ a ha
      rw [hstrands a ha] at hok
      cases hok
    · intro hnone
      have hempty : failedActivations os = [] :=
        List.eq_nil_iff_forall_not_mem.mpr fun a ha => hnone a ((hfailed a).mp ha)
      rw [hempty]
      exact ⟨os, rfl, hids, failedActivations_eq_nil_iff.mp hempty⟩
  · intro a ha
    rw [hstrands a ha]
    rfl

end Enrolment

/-! ### A batch that fails -/

/-- A table with one row, of the application `1` and the token `T`, bound to the activation `a`. -/
def Table.single : Table where
  rows := [⟨1, 1, "T", "ios", some "a", none, true, 0⟩]
  indexed := true
  ordered := by decide
  unique := by decide

/-- The service that knows all activations but `b`. -/
def Oracle.withoutB : Oracle := fun activationId =>
  if activationId = "b" then .ok none else Oracle.allActive activationId

/-- A request to register a device of the token `T` for `b` and `a`. -/
def BatchRequest.stranding : BatchRequest :=
  ⟨some 1, some "T", some "ios", some [some "b", some "a"]⟩

theorem Table.healthy_single : Table.single.Healthy := healthy_of_one rfl rfl ⟨.ios, rfl⟩

theorem Table.fits_single : Table.single.Fits 1 [] where
  app := by decide
  ids := by decide

theorem Oracle.answers_withoutB (a : String) : Oracle.withoutB.Answers a := by
  by_cases hb : a = "b"
  · exact ⟨none, by rw [withoutB, if_pos hb], by simp⟩
  · refine ⟨some ⟨a, .active, .null⟩, by rw [withoutB, if_neg hb, allActive], ?_⟩
    rintro report ⟨⟩
    exact ⟨rfl, .inl rfl⟩

theorem registerBatch_succeeds_iff_single :
    ((∃ os, ((Enrolment.registerBatch .withoutB 0 true .stranding).runUnit .single .none).1 =
          .ok os ∧ os.map Outcome.activationId = ["b", "a"] ∧ ∀ o ∈ os, o.succeeded = true) ↔
      ∀ a, ¬ Table.single.Strands .withoutB ⟨1, "T", .ios⟩ ["b", "a"] a) ∧
    ∀ a, Table.single.Strands .withoutB ⟨1, "T", .ios⟩ ["b", "a"] a →
      ((Enrolment.registerBatch .withoutB 0 true .stranding).runUnit .single .none).1 =
        .error (.app (.batchFailed [a])) :=
  Enrolment.registerBatch_succeeds_iff 0 (by rfl) Table.healthy_single Table.fits_single
    fun a _ => Oracle.answers_withoutB a

/-- The row of `a` is taken over for `b`, and the index refuses a new one for `a`. -/
theorem stranding_fails :
    Table.single.Healthy ∧ Table.single.Fits 1 [] ∧ (∀ a, Oracle.withoutB.Answers a) ∧
      ((Enrolment.registerBatch .withoutB 0 true .stranding).runUnit .single .none).1 =
        .error (.app (.batchFailed ["a"])) := by
  refine ⟨Table.healthy_single, Table.fits_single, Oracle.answers_withoutB, ?_⟩
  exact eq_error_of_failureOf? (by decide +kernel)

end PushRegistry
