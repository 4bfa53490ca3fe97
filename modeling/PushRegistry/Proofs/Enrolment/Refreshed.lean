import PushRegistry.Proofs.Enrolment.Attempts
import PushRegistry.Proofs.Enrolment.Questions

/-!
# Refreshing an activation with several rows

A refresh reads the rows of an activation as registrations and saves them one by one with another
state. On every table whose rows can stand in the store this changes the state of these rows and
nothing else, however many they are and whether the index is present or not: a row that is read and
written again is what it was in every other column, and the state of a row is no part of what the
index compares. So a second refresh with the same answer changes nothing.

## Main definitions

* `Table.switched`: a table with some of its rows made active or inactive.
* `Enrolment.Refreshes`: what a refresh does to a table and to its session.

## Main results

* `Table.saved_read`: what saving a row with another state does.
* `Enrolment.comesTo_setActive_map`: what saving several of them does.
* `Enrolment.refresh_refreshes`: what a request does, once and again.
-/

namespace PushRegistry

/-! ### Switched rows -/

namespace Row

/-- A row made active or inactive if its number is among some numbers. -/
def switched (ids : List Int) (isActive : Bool) (row : Row) : Row :=
  if row.id ∈ ids then { row with isActive } else row

variable {ids : List Int} {isActive : Bool} {row x : Row}

@[simp] theorem id_switched : (row.switched ids isActive).id = row.id := by
  rw [switched]
  split <;> rfl

/-- The state of a row has no part in a clash. -/
@[simp] theorem clashes_switched {ids' : List Int} {isActive' : Bool} :
    (row.switched ids isActive).clashes (x.switched ids' isActive') = row.clashes x := by
  rw [switched, switched]
  split <;> split <;> rfl

theorem Storable.switched (h : row.Storable) : (row.switched ids isActive).Storable := by
  rw [Row.switched]
  split
  · exact ⟨h.id, h.app, h.readable⟩
  · exact h

theorem switched_cons (id : Int) :
    (row.switched [id] isActive).switched ids isActive = row.switched (id :: ids) isActive := by
  rw [switched, id_switched, switched, switched]
  by_cases hid : row.id = id <;> by_cases hids : row.id ∈ ids <;> simp [hid, hids]

end Row

namespace Table

/-- A table in which the rows of some numbers are active or inactive, and otherwise as they were. -/
def switched (t : Table) (ids : List Int) (isActive : Bool) : Table where
  rows := t.rows.map (Row.switched ids isActive)
  indexed := t.indexed
  ordered := List.pairwise_map.mpr (t.ordered.imp fun h => by simpa using h)
  unique hindexed a ha b hb := by
    obtain ⟨x, hx, rfl⟩ := List.mem_map.mp ha
    obtain ⟨y, hy, rfl⟩ := List.mem_map.mp hb
    rw [Row.clashes_switched]
    exact t.unique hindexed x hx y hy

variable {t : Table} {ids : List Int} {isActive : Bool} {row : Row} {rows : List Row}

@[simp] theorem switched_nil : t.switched [] isActive = t :=
  Table.ext ((List.map_congr_left fun _ _ => by simp [Row.switched]).trans (List.map_id _)) rfl

theorem switched_cons (id : Int) :
    (t.switched [id] isActive).switched ids isActive = t.switched (id :: ids) isActive := by
  refine Table.ext ?_ rfl
  change (t.rows.map _).map _ = t.rows.map _
  rw [List.map_map]
  exact List.map_congr_left fun row _ => Row.switched_cons id

/-- A row of another number is left. -/
theorem mem_switched_of_ne (hrow : row ∈ t.rows) (hid : row.id ∉ ids) :
    row ∈ (t.switched ids isActive).rows :=
  List.mem_map.mpr ⟨row, hrow, if_neg hid⟩

/-! ### Saving -/

/-- A registration that is read from a row and saved with another state is written to that row, and
the row is otherwise as it was. -/
theorem saved_read (hrow : row ∈ t.rows) (hstorable : row.Storable) (isActive : Bool) :
    t.saved { row.read with isActive } =
      .ok ({ row.read with isActive }, t.switched [row.id] isActive) := by
  have hwritten : Row.ofRegistration row.id { row.read with isActive } =
      .ok { row with isActive } :=
    Row.ofRegistration_read_eq_ok_iff.mpr ⟨hstorable.app, hstorable.readable, rfl⟩
  have hadmits : t.forbids { row with isActive } = false := by
    cases hindexed : t.indexed with
    | false => rw [forbids, hindexed, Bool.false_and]
    | true => exact (forbids_eq_false_iff hindexed).mpr fun x hx => t.unique hindexed row hrow x hx
  have hput := putRow_eq_map t.ordered
    (show ∃ x ∈ t.rows, x.id = ({ row with isActive } : Row).id from ⟨row, hrow, rfl⟩)
  refine saved_eq_ok_iff.mpr ⟨{ row with isActive }, hwritten, ⟨hadmits, Table.ext ?_ rfl⟩, rfl⟩
  refine Eq.trans (List.map_congr_left fun x hx => ?_) hput.symm
  by_cases hid : x.id = row.id
  · rw [eq_of_id_eq hx hrow hid, Row.switched, if_pos List.mem_cons_self, if_pos rfl]
  · rw [Row.switched, if_neg (by simpa using hid), if_neg hid]

end Table

namespace Enrolment

open Work

/-- Saving the registrations of several rows with another state switches these rows. -/
theorem comesTo_setActive_map {t : Table} {rows : List Row} (isActive : Bool)
    (hrows : ∀ row ∈ rows, row ∈ t.rows ∧ row.Storable) (hids : (rows.map Row.id).Nodup) :
    (setActive isActive (rows.map Row.read)).ComesTo t
      (.ok ((), t.switched (rows.map Row.id) isActive)) := by
  induction rows generalizing t with
  | nil =>
    rw [List.map_nil, List.map_nil, Table.switched_nil]
    exact comesTo_pure ()
  | cons row rest ih =>
    obtain ⟨⟨hrow, hstorable⟩, hrest⟩ := List.forall_mem_cons.mp hrows
    obtain ⟨hfresh, hids⟩ := List.nodup_cons.mp hids
    have hsave : (save { row.read with isActive }).ComesTo t
        (.ok ({ row.read with isActive }, t.switched [row.id] isActive)) := by
      rw [← Table.saved_read hrow hstorable]
      exact comesTo_save_read hrow hstorable.id isActive
    rw [List.map_cons, List.map_cons, ← Table.switched_cons]
    refine hsave.bind_ok (ih (fun x hx => ?_) hids)
    -- The rows that remain have other numbers, so they are still as they were read.
    have hne : x.id ∉ [row.id] := fun h =>
      hfresh (List.mem_singleton.mp h ▸ List.mem_map.mpr ⟨x, hx, rfl⟩)
    exact ⟨Table.mem_switched_of_ne (hrest x hx).1 hne, (hrest x hx).2⟩

end Enrolment

/-! ### The rows of an activation -/

namespace Table

variable {t : Table} {a : String} {isActive : Bool}

/-- The table after the rows of an activation have become active or inactive. -/
def refreshedTo (t : Table) (activationId : String) (isActive : Bool) : Table :=
  t.switched ((t.boundTo activationId).map Row.id) isActive

theorem rows_refreshedTo (t : Table) (a : String) (isActive : Bool) :
    (t.refreshedTo a isActive).rows =
      t.rows.map fun row => if row.activationId = some a then { row with isActive } else row := by
  refine List.map_congr_left fun row hrow => ?_
  have hbound : row.id ∈ (t.boundTo a).map Row.id ↔ row.activationId = some a := by
    rw [List.mem_map]
    constructor
    · rintro ⟨x, hx, hid⟩
      obtain ⟨hmem, hxa⟩ := mem_boundTo.mp hx
      rwa [← eq_of_id_eq hmem hrow hid]
    · exact fun hrowa => ⟨row, mem_boundTo.mpr ⟨hrow, hrowa⟩, rfl⟩
  simp only [Row.switched, hbound]

@[simp] theorem indexed_refreshedTo : (t.refreshedTo a isActive).indexed = t.indexed := rfl

theorem refreshedTo_of_unbound (h : t.boundTo a = []) : t.refreshedTo a isActive = t := by
  rw [refreshedTo, h, List.map_nil, switched_nil]

/-- The activation has as many rows as it had. -/
theorem length_boundTo_refreshedTo :
    ((t.refreshedTo a isActive).boundTo a).length = (t.boundTo a).length := by
  rw [boundTo, select, rows_refreshedTo, List.filter_map, List.length_map, boundTo, select]
  refine congrArg List.length (List.filter_congr fun row _ => ?_)
  rw [Function.comp_apply]
  split <;> rfl

/-- The rows are in the state that they were brought to. -/
theorem refreshedTo_refreshedTo :
    (t.refreshedTo a isActive).refreshedTo a isActive = t.refreshedTo a isActive := by
  refine Table.ext ?_ rfl
  rw [rows_refreshedTo, rows_refreshedTo, List.map_map]
  refine List.map_congr_left fun row _ => ?_
  rw [Function.comp_apply]
  by_cases hrowa : row.activationId = some a
  · rw [if_pos hrowa, if_pos hrowa]
  · rw [if_neg hrowa, if_neg hrowa]

theorem storable_refreshedTo (ht : ∀ row ∈ t.rows, row.Storable) :
    ∀ row ∈ (t.refreshedTo a isActive).rows, row.Storable := by
  intro row hrow
  obtain ⟨x, hx, rfl⟩ := List.mem_map.mp hrow
  exact (ht x hx).switched

end Table

namespace Enrolment

open Work

variable {t : Table} {oracle : Oracle} {a : String} {answer : Option ActivationReport}

/-- A refresh of rows that were found comes to the table in which they are in the state that was
answered. -/
theorem comesTo_refreshFound (ht : ∀ row ∈ t.rows, row.Storable) (hanswer : oracle a = .ok answer) :
    (refreshFound oracle a ((t.boundTo a).map Row.read)).ComesTo t
      (.ok ((), t.refreshedTo a (answer.any (·.status.isActive)))) := by
  have hask := comesTo_ask (t := t) oracle a
  rw [hanswer] at hask
  have hids : ((t.boundTo a).map Row.id).Nodup :=
    List.pairwise_map.mpr ((t.ordered.sublist List.filter_sublist).imp Int.ne_of_lt)
  have hset := comesTo_setActive_map (answer.any (·.status.isActive))
    (fun row hrow => ⟨(Table.mem_boundTo.mp hrow).1, ht row (Table.mem_boundTo.mp hrow).1⟩) hids
  rw [refreshFound]
  split
  · exact (comesTo_record (by simp [LogEntry.severity])).bind_ok (hask.bind_ok hset)
  · exact hask.bind_ok hset

/-- A request that names an activation is carried out for it. -/
theorem refresh_of_text (oracle : Oracle) (ha : ¬ Text.AllBlank a) :
    refresh oracle (some a) = refreshActivation oracle a := by
  rw [refresh, Validation.requireText, if_neg ha]
  rfl

/-! ### Requests -/

/-- Whether a refresh that ran on a table has counted the rows of an activation and brought them to
a state, and has asked and committed once, or not at all if there are none. -/
structure Refreshes (activationId : String) (isActive : Bool) (t : Table)
    (run : Except Failure Nat × Session) : Prop where
  count : run.1 = .ok (t.boundTo activationId).length
  rows : run.2.committed.rows =
    t.rows.map fun row => if row.activationId = some activationId then { row with isActive } else row
  indexed : run.2.committed.indexed = t.indexed
  asked : run.2.asked = if t.boundTo activationId = [] then [] else [activationId]
  commits : run.2.commits = if t.boundTo activationId = [] then 0 else 1
  rollbacks : run.2.rollbacks = 0

theorem Refreshes.committed {isActive : Bool} {run : Except Failure Nat × Session}
    (h : Refreshes a isActive t run) : run.2.committed = t.refreshedTo a isActive :=
  Table.ext (h.rows.trans (Table.rows_refreshedTo t a isActive).symm) h.indexed

/-- A refresh of an activation without rows ends with its lookup. -/
theorem run_refreshActivation_of_unbound (oracle : Oracle) {s : Session} (hs : s.Tidy)
    (ht : s.working = t) (hplan : s.plan = FaultPlan.none) (hunbound : t.boundTo a = []) :
    ∃ s', refreshActivation oracle a s = (.ok 0, s') ∧ s.SameOutside s' := by
  have hfind : (findByActivation a).ComesTo t (.ok ([], t)) := by
    have hread := comesTo_findWhere_readAll t fun row => row.activationId == some a
    rwa [show t.select _ = [] from hunbound] at hread
  obtain ⟨s₁, hrun, -⟩ := hfind.run_of_ok hs ht hplan
  have hsame : s.SameOutside (findByActivation a s).2 := silent_findWhere true _ s
  rw [hrun] at hsame
  rw [refreshActivation_eq, bind_of_ok hrun]
  exact ⟨s₁, rfl, hsame⟩

/-- A refresh of an activation with rows asks about it and commits its rows in the state that was
answered. -/
theorem run_refreshActivation_of_bound {s : Session} (hs : s.Tidy) (hworking : s.working = t)
    (hplan : s.plan = FaultPlan.none) (ht : ∀ row ∈ t.rows, row.Storable)
    (hbound : t.boundTo a ≠ []) (hanswer : oracle a = .ok answer) :
    ∃ s', refreshActivation oracle a s = (.ok (t.boundTo a).length, s') ∧
      s'.committed = t.refreshedTo a (answer.any (·.status.isActive)) ∧
      s'.published = s.published ++ [s'.committed] ∧ s'.rollbacks = s.rollbacks ∧
      s'.asked = s.asked ++ [a] := by
  have hfind : (findByActivation a).ComesTo t (.ok ((t.boundTo a).map Row.read, t)) :=
    comesTo_findWhere (fun row hrow => (ht row hrow).readable) _
  obtain ⟨s₁, hrun₁, hs₁, hworking₁, -⟩ := hfind.run_of_ok hs hworking hplan
  have hsame : s.SameOutside (findByActivation a s).2 := silent_findWhere true _ s
  rw [hrun₁] at hsame
  obtain ⟨s₂, hrun₂, hs₂, hworking₂, hwithin⟩ :=
    (comesTo_refreshFound ht hanswer).run_of_ok hs₁ hworking₁ (hsame.plan.trans hplan)
  have hasked := asks_refreshFound oracle a ((t.boundTo a).map Row.read) s₁
  rw [hrun₂] at hasked
  have hplan₂ : s₂.plan = FaultPlan.none := hwithin.plan.trans (hsame.plan.trans hplan)
  refine ⟨(s₂.countCall .commit).committedOnce, ?_, hworking₂, ?_, ?_, ?_⟩
  · rw [refreshActivation_eq, bind_of_ok hrun₁, if_neg (by simpa using hbound), bind_of_ok hrun₂,
      run_commit hs₂ hplan₂, List.length_map]
  · exact congrArg (· ++ [s₂.working]) (hwithin.published.trans hsame.published)
  · exact hwithin.rollbacks.trans hsame.rollbacks
  · exact hasked.trans (congrArg (· ++ [a]) hsame.asked)

/-- A refresh that is answered, if it asks, brings the rows of its activation to the state that was
answered. -/
theorem refreshes_runUnit (ht : ∀ row ∈ t.rows, row.Storable) (ha : ¬ Text.AllBlank a)
    (hanswer : t.boundTo a ≠ [] → oracle a = .ok answer) :
    Refreshes a (answer.any (·.status.isActive)) t
      ((refresh oracle (some a)).runUnit t .none) := by
  have hs := (Session.settled_begin t .none).toTidy
  rw [refresh_of_text oracle ha]
  by_cases hunbound : t.boundTo a = []
  · obtain ⟨s', hrun, hsame⟩ := run_refreshActivation_of_unbound oracle hs rfl rfl hunbound
    rw [runUnit, hrun]
    have hcommitted : s'.reset.committed = t.refreshedTo a (answer.any (·.status.isActive)) :=
      hsame.committed.trans (Table.refreshedTo_of_unbound hunbound).symm
    exact
      { count := by rw [hunbound]; rfl
        rows := (congrArg Table.rows hcommitted).trans (Table.rows_refreshedTo t a _)
        indexed := (congrArg Table.indexed hcommitted).trans Table.indexed_refreshedTo
        asked := by rw [if_pos hunbound]; exact hsame.asked
        commits := by rw [if_pos hunbound]; exact congrArg List.length hsame.published
        rollbacks := hsame.rollbacks }
  · obtain ⟨s', hrun, hcommitted, hpublished, hrollbacks, hasked⟩ :=
      run_refreshActivation_of_bound hs rfl rfl ht hunbound (hanswer hunbound)
    rw [runUnit, hrun]
    exact
      { count := rfl
        rows := (congrArg Table.rows hcommitted).trans (Table.rows_refreshedTo t a _)
        indexed := (congrArg Table.indexed hcommitted).trans Table.indexed_refreshedTo
        asked := by rw [if_neg hunbound]; exact hasked
        commits := by rw [if_neg hunbound]; exact congrArg List.length hpublished
        rollbacks := hrollbacks }

/-- A refresh counts the rows of its activation and brings them to the state that was answered, with
one question and one commit, or with none if there are no rows. The same refresh again counts as
many rows and leaves the table as it is. -/
theorem refresh_refreshes (oracle : Oracle) (ht : ∀ row ∈ t.rows, row.Storable)
    (ha : ¬ Text.AllBlank a) (hanswer : t.boundTo a ≠ [] → oracle a = .ok answer) :
    let once := (refresh oracle (some a)).runUnit t .none
    let again := (refresh oracle (some a)).runUnit once.2.committed .none
    Refreshes a (answer.any (·.status.isActive)) t once ∧
      again.1 = once.1 ∧ again.2.committed = once.2.committed := by
  intro once again
  have honce : Refreshes a _ t once := refreshes_runUnit ht ha hanswer
  have hlength : (once.2.committed.boundTo a).length = (t.boundTo a).length := by
    rw [honce.committed, Table.length_boundTo_refreshedTo]
  have hagain : Refreshes a (answer.any (·.status.isActive)) once.2.committed again := by
    refine refreshes_runUnit ?_ ha fun hbound => hanswer fun hunbound => hbound ?_
    · rw [honce.committed]
      exact Table.storable_refreshedTo ht
    · exact List.length_eq_zero_iff.mp (hlength.trans (congrArg List.length hunbound))
  refine ⟨honce, ?_, ?_⟩
  · rw [hagain.count, hlength, honce.count]
  · rw [hagain.committed, honce.committed, Table.refreshedTo_refreshedTo]

end Enrolment

/-! ### An activation with two rows -/

/-- A table with its index in which the activation `a` has two rows with different tokens, one of
them active. -/
def Table.doubled : Table where
  rows := [⟨1, 1, "S", "ios", some "a", some "u", true, 3⟩, ⟨2, 1, "T", "ios", some "b", none, true, 4⟩,
    ⟨5, 2, "T", "android", some "a", none, false, 7⟩]
  indexed := true
  ordered := by decide
  unique := by decide

theorem Table.storable_doubled : ∀ row ∈ doubled.rows, row.Storable :=
  List.forall_mem_cons.mpr ⟨⟨rfl, rfl, .ios, rfl⟩, List.forall_mem_cons.mpr ⟨⟨rfl, rfl, .ios, rfl⟩,
    List.forall_mem_singleton.mpr ⟨rfl, rfl, .android, rfl⟩⟩⟩

/-- Both rows of the activation become inactive, with one question and one commit. -/
theorem refresh_refreshes_doubled :
    let oracle : Oracle := fun a => .ok (some ⟨a, .inactive, .text "v"⟩)
    let once := (Enrolment.refresh oracle (some "a")).runUnit .doubled .none
    let again := (Enrolment.refresh oracle (some "a")).runUnit once.2.committed .none
    once.1 = .ok 2 ∧ once.2.asked = ["a"] ∧ once.2.commits = 1 ∧
      once.2.committed.rows = [⟨1, 1, "S", "ios", some "a", some "u", false, 3⟩,
        ⟨2, 1, "T", "ios", some "b", none, true, 4⟩,
        ⟨5, 2, "T", "android", some "a", none, false, 7⟩] ∧
      again.1 = .ok 2 ∧ again.2.committed = once.2.committed := by
  intro oracle once again
  obtain ⟨honce, hcount, hcommitted⟩ := Enrolment.refresh_refreshes oracle Table.storable_doubled
    (show ¬ Text.AllBlank "a" by decide) fun _ => show oracle "a" = .ok (some _) from rfl
  exact ⟨honce.count, honce.asked, honce.commits, honce.rows, hcount.trans honce.count, hcommitted⟩

end PushRegistry
