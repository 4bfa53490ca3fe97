import PushRegistry.Proofs.Store.Calls
import PushRegistry.Proofs.Store.Units

/-!
# Saving and finding again

A registration in a form that the table takes is saved unless one of two things is in the way: it
has a number under which there is no row, or another row has its activation and its token. Once it
is saved and committed, the lookups under its keys give it back as it was saved, among the
registrations of the other rows. Nothing else in the table has changed.

## Main definitions

* `Table.Admits`: the registrations in a form that a table takes.
* `Table.Misses`, `Table.Binds`: what is in the way of saving.
* `Table.Gains`: what a table has become after a registration was saved in it.
* `Work.Finds`: what a lookup gives then.

## Main results

* `Row.toRegistration_ofRegistration`: a row stands for the registration that it was made of.
* `Work.save_outcome`: when a registration is saved, and what is found afterwards.
-/

namespace PushRegistry

/-! ### Rows of registrations -/

theorem Row.readable_of_toRegistration {row : Row} {r : Registration}
    (h : row.toRegistration = .ok r) : row.Readable := by
  rw [toRegistration] at h
  cases hplatform : Platform.ofName? row.platform with
  | none =>
    rw [hplatform] at h
    cases h
  | some platform => exact ⟨platform, Platform.ofName?_eq_some_iff.mp hplatform⟩

/-- A row stands for the registration that it was made of, if its user is a text or null. -/
theorem Row.toRegistration_ofRegistration {id : Int} {r : Registration} {row : Row}
    (huser : r.userId = .null ∨ ∃ s, r.userId = .text s)
    (h : Row.ofRegistration id r = .ok row) :
    row.toRegistration = .ok { r with id := some id } := by
  obtain ⟨userId, platform, hcolumn, -, hplatform, rfl⟩ := Row.ofRegistration_eq_ok_iff.mp h
  have hback : userId.elim .null Json.text = r.userId := by
    rcases huser with hnull | ⟨s, htext⟩
    · rw [hnull] at hcolumn ⊢
      cases hcolumn
      rfl
    · rw [htext] at hcolumn ⊢
      cases hcolumn
      rfl
  simp only [Row.toRegistration, Platform.ofName?_name, hback, hplatform]

namespace Table

variable {t t' : Table} {r saved : Registration} {id : Int}

/-! ### Registrations to be saved -/

/-- Whether a registration is in a form that a table takes: it has a platform, its numbers have a
form in the table, the next one if it has none of its own, and its user is a text or null. -/
structure Admits (t : Table) (r : Registration) : Prop where
  id : fitsStore (r.id.getD t.nextId) = true
  app : fitsStore r.appId = true
  platform : r.platform ≠ none
  user : r.userId = .null ∨ ∃ s, r.userId = .text s

/-- Whether a registration has a number under which a table has no row. -/
def Misses (t : Table) (r : Registration) : Prop :=
  ∃ id, r.id = some id ∧ ∀ row ∈ t.rows, row.id ≠ id

/-- Whether a table has another row with the activation and the token of a registration. -/
def Binds (t : Table) (r : Registration) : Prop :=
  ∃ a, r.activationId = some a ∧
    ∃ row ∈ t.rows, r.id ≠ some row.id ∧ row.activationId = some a ∧ row.token = r.token

/-- Whether a number is the next one of a table: one more than the greatest, or one. -/
def IsNext (t : Table) (id : Int) : Prop :=
  t.rows = [] ∧ id = 1 ∨ ∃ last ∈ t.rows, id = last.id + 1 ∧ ∀ row ∈ t.rows, row.id ≤ last.id

theorem isNext_nextId (t : Table) : t.IsNext t.nextId := by
  rw [nextId]
  split
  · next h => exact .inl ⟨List.getLast?_eq_none_iff.mp h, rfl⟩
  · next last h =>
    have hlast : last ∈ t.rows := List.mem_of_getLast? h
    refine .inr ⟨last, hlast, rfl, fun row hrow => ?_⟩
    have hlt := lt_nextId hrow
    rw [nextId, h] at hlt
    exact Int.lt_add_one_iff.mp hlt

/-- A registration in a form that a table takes has a row, which stands for it. -/
theorem Admits.exists_row (hr : t.Admits r) :
    ∃ row, Row.ofRegistration (r.id.getD t.nextId) r = .ok row ∧ row.id = r.id.getD t.nextId ∧
      row.activationId = r.activationId ∧ row.token = r.token ∧
      row.toRegistration = .ok { r with id := some (r.id.getD t.nextId) } := by
  obtain ⟨platform, hplatform⟩ := Option.ne_none_iff_exists'.mp hr.platform
  obtain ⟨userId, hcolumn⟩ : ∃ userId, columnText r.userId = .ok userId := by
    rcases hr.user with hnull | ⟨s, htext⟩
    · exact ⟨none, by rw [hnull]; rfl⟩
    · exact ⟨some s, by rw [htext]; rfl⟩
  have hrow : Row.ofRegistration (r.id.getD t.nextId) r = .ok _ :=
    Row.ofRegistration_eq_ok_iff.mpr ⟨userId, platform, hcolumn, hr.app, hplatform, rfl⟩
  exact ⟨_, hrow, rfl, rfl, rfl, Row.toRegistration_ofRegistration hr.user hrow⟩

/-! ### What is in the way of saving -/

/-- The index forbids the row of a registration just if another row has its activation and its
token. -/
theorem forbids_iff_binds {row : Row} (hindexed : t.indexed = true)
    (hid : row.id = r.id.getD t.nextId) (hactivation : row.activationId = r.activationId)
    (htoken : row.token = r.token) : t.forbids row = true ↔ t.Binds r := by
  have hother : ∀ x ∈ t.rows, row.id ≠ x.id ↔ r.id ≠ some x.id := by
    intro x hx
    rw [hid]
    cases hrid : r.id with
    -- The next number is greater than all others, so every row is another one than the new row.
    | none => exact iff_of_true (Int.ne_of_gt (lt_nextId hx)) nofun
    | some id => simp
  rw [forbids_eq_true_iff hindexed]
  constructor
  · rintro ⟨x, hx, hclash⟩
    obtain ⟨hne, ⟨a, ha, hxa⟩, hxtoken⟩ := Row.clashes_eq_true_iff.mp hclash
    exact ⟨a, hactivation ▸ ha, x, hx, (hother x hx).mp hne, hxa, hxtoken ▸ htoken⟩
  · rintro ⟨a, ha, x, hx, hne, hxa, hxtoken⟩
    exact ⟨x, hx, Row.clashes_eq_true_iff.mpr ⟨(hother x hx).mpr hne,
      ⟨a, hactivation.trans ha, hxa⟩, htoken.trans hxtoken.symm⟩⟩

/-- A registration whose activation and token are bound already is not saved. -/
theorem Admits.saved_of_binds (hr : t.Admits r) (hindexed : t.indexed = true) (h : t.Binds r) :
    t.saved r = .error (.app (.bindingTaken r.activationId)) := by
  obtain ⟨row, hrow, hid, hactivation, htoken, -⟩ := hr.exists_row
  have hforbids := (forbids_iff_binds hindexed hid hactivation htoken).mpr h
  rw [saved, hrow]
  simp only [bind, Except.bind, store_eq_error hforbids]
  rfl

/-! ### Tables with a registration saved -/

/-- What a table has become after a registration was saved in it under a number: one row stands for
the registration, and all others are as before. -/
structure Gains (t t' : Table) (id : Int) (saved : Registration) : Prop where
  indexed : t'.indexed = t.indexed
  written : ∃ row ∈ t'.rows, row.id = id ∧ row.toRegistration = .ok saved
  others : ∀ row, row.id ≠ id → (row ∈ t'.rows ↔ row ∈ t.rows)

/-- A registration is saved if nothing is in the way. -/
theorem Admits.saved_of_not_binds (hr : t.Admits r) (hindexed : t.indexed = true)
    (h : ¬ t.Binds r) :
    ∃ t', t.saved r = .ok ({ r with id := some (r.id.getD t.nextId) }, t') ∧
      t.Gains t' (r.id.getD t.nextId) { r with id := some (r.id.getD t.nextId) } := by
  obtain ⟨row, hrow, hid, hactivation, htoken, hback⟩ := hr.exists_row
  have hadmits : t.forbids row = false := by
    rw [← Bool.not_eq_true, forbids_iff_binds hindexed hid hactivation htoken]
    exact h
  refine ⟨t.put row hadmits, saved_eq_ok_iff.mpr ⟨row, hrow, ⟨hadmits, rfl⟩, by rw [hid]⟩, rfl,
    ⟨row, (mem_put hadmits).mpr (.inl rfl), hid, hback⟩, fun x hx => ?_⟩
  rw [mem_put hadmits]
  constructor
  · rintro (rfl | ⟨hx, -⟩)
    · exact absurd hid hx
    · exact hx
  · exact fun hxt => .inr ⟨hxt, hid ▸ hx⟩

theorem Gains.readable (h : t.Gains t' id saved) (hread : ∀ row ∈ t.rows, row.Readable) :
    ∀ row ∈ t'.rows, row.Readable := by
  intro row hrow
  by_cases hid : row.id = id
  · obtain ⟨written, hwritten, hwid, hback⟩ := h.written
    obtain rfl := eq_of_id_eq hrow hwritten (hid.trans hwid.symm)
    exact Row.readable_of_toRegistration hback
  · exact hread row ((h.others row hid).mp hrow)

end Table

namespace Work

variable {t t' : Table} {r saved : Registration} {id : Int}

/-! ### Lookups afterwards -/

/-- Whether a lookup in a table gives, in the order of their numbers, a registration that was saved
under a number and the registrations of the other rows under a key, as they were before. -/
def Finds (find : Work (List Registration)) (t t' : Table) (id : Int) (saved : Registration)
    (key : Row → Prop) : Prop :=
  ∃ found, (find.runUnit t' .none).1 = .ok found ∧
    (found.Pairwise fun a b => ∃ i j, a.id = some i ∧ b.id = some j ∧ i < j) ∧
    ∀ x, x ∈ found ↔
      x = saved ∨ ∃ row ∈ t.rows, row.id ≠ id ∧ key row ∧ row.toRegistration = .ok x

/-- A lookup under a key of a registration that was saved finds it again. -/
theorem finds_of_gains {p : Row → Bool} {key : Row → Prop} (hread : ∀ row ∈ t.rows, row.Readable)
    (h : t.Gains t' id saved) (hp : ∀ row, p row = true ↔ key row)
    (hkey : ∀ row, row.toRegistration = .ok saved → key row) :
    (findWhere true p).Finds t t' id saved key := by
  have hread' := h.readable hread
  obtain ⟨written, hwritten, hwid, hback⟩ := h.written
  refine ⟨_, (comesTo_findWhere hread' p).runUnit_fst, ?_, fun x => ?_⟩
  · have hord : Row.Ordered (t'.select p) := t'.ordered.sublist List.filter_sublist
    exact List.pairwise_map.mpr (hord.imp fun hlt => ⟨_, _, rfl, rfl, hlt⟩)
  · rw [List.mem_map]
    constructor
    · rintro ⟨row, hrow, rfl⟩
      obtain ⟨hrow, hrowp⟩ := Table.mem_select.mp hrow
      by_cases hid : row.id = id
      · obtain rfl := Table.eq_of_id_eq hrow hwritten (hid.trans hwid.symm)
        exact .inl (Row.eq_read_of_toRegistration hback).symm
      · exact .inr ⟨row, (h.others row hid).mp hrow, hid, (hp row).mp hrowp,
          Row.toRegistration_eq_ok (hread' row hrow)⟩
    · rintro (rfl | ⟨row, hrow, hid, hrowkey, hx⟩)
      · exact ⟨written, Table.mem_select.mpr ⟨hwritten, (hp written).mpr (hkey written hback)⟩,
          (Row.eq_read_of_toRegistration hback).symm⟩
      · exact ⟨row, Table.mem_select.mpr ⟨(h.others row hid).mpr hrow, (hp row).mpr hrowkey⟩,
          (Row.eq_read_of_toRegistration hx).symm⟩

/-- A registration that was saved is found by all lookups under its keys. -/
structure FindsByKeys (t t' : Table) (id : Int) (saved : Registration) : Prop where
  appAndToken : (findByAppAndToken saved.appId saved.token).Finds t t' id saved fun row =>
    row.appId = saved.appId ∧ row.token = saved.token
  activation : ∀ a, saved.activationId = some a →
    (findByActivation a).Finds t t' id saved fun row => row.activationId = some a
  activationAndToken : ∀ a, saved.activationId = some a →
    (findByActivationAndToken a saved.token).Finds t t' id saved fun row =>
      row.activationId = some a ∧ row.token = saved.token

theorem findsByKeys_of_gains (hread : ∀ row ∈ t.rows, row.Readable) (h : t.Gains t' id saved)
    (happ : fitsStore saved.appId = true) : FindsByKeys t t' id saved where
  appAndToken := by
    rw [findByAppAndToken, happ]
    refine finds_of_gains hread h (fun row => by simp) fun row hrow => ?_
    cases Row.eq_read_of_toRegistration hrow
    exact ⟨rfl, rfl⟩
  activation a ha := by
    refine finds_of_gains hread h (fun row => by simp) fun row hrow => ?_
    cases Row.eq_read_of_toRegistration hrow
    exact ha
  activationAndToken a ha := by
    refine finds_of_gains hread h (fun row => by simp) fun row hrow => ?_
    cases Row.eq_read_of_toRegistration hrow
    exact ⟨ha, rfl⟩

/-! ### Saving -/

/-- Saving under a number without a row is a conflict. -/
theorem comesTo_save_of_misses {id : Int} (hid : r.id = some id) (hfits : fitsStore id = true)
    (h : ∀ row ∈ t.rows, row.id ≠ id) :
    (save r).ComesTo t (.error (.app (.removedConcurrently id))) := by
  have hnone : (t.find? id).isSome = false := by
    rw [← Bool.not_eq_true, Table.isSome_find?_iff]
    rintro ⟨row, hrow, hrowid⟩
    exact h row hrow hrowid
  have hhas := comesTo_hasRow (t := t) id
  rw [if_pos hfits, hnone] at hhas
  rw [save, hid]
  refine (hhas.reporting fun _ => .lookup).bind_ok ?_
  rw [if_neg Bool.false_ne_true]
  exact comesTo_fail _

/-- Saving ends in a conflict, in a violation of the index, or in a table with the registration. -/
theorem comesTo_save_cases (hindexed : t.indexed = true) (hr : t.Admits r) :
    (t.Misses r ∧ ∃ id, (save r).ComesTo t (.error (.app (.removedConcurrently id)))) ∨
      (¬ t.Misses r ∧ t.Binds r ∧
        (save r).ComesTo t (.error (.app (.bindingTaken r.activationId)))) ∨
      (¬ t.Misses r ∧ ¬ t.Binds r ∧
        ∃ t', (save r).ComesTo t (.ok ({ r with id := some (r.id.getD t.nextId) }, t')) ∧
          t.Gains t' (r.id.getD t.nextId) { r with id := some (r.id.getD t.nextId) }) := by
  have hfits : ∀ id, r.id = some id → fitsStore id = true := by
    intro id hid
    have hid' := hr.id
    rw [hid] at hid'
    exact hid'
  by_cases hmisses : t.Misses r
  · obtain ⟨id, hid, hrows⟩ := hmisses
    exact .inl ⟨⟨id, hid, hrows⟩, id, comesTo_save_of_misses hid (hfits id hid) hrows⟩
  · have hsaved : (save r).ComesTo t (t.saved r) := by
      refine comesTo_save fun id hid => ⟨hfits id hid, Classical.byContradiction fun hnone => ?_⟩
      exact hmisses ⟨id, hid, fun row hrow hrowid => hnone ⟨row, hrow, hrowid⟩⟩
    by_cases hbinds : t.Binds r
    · rw [hr.saved_of_binds hindexed hbinds] at hsaved
      exact .inr (.inl ⟨hmisses, hbinds, hsaved⟩)
    · obtain ⟨t', hresult, hgains⟩ := hr.saved_of_not_binds hindexed hbinds
      rw [hresult] at hsaved
      exact .inr (.inr ⟨hmisses, hbinds, t', hsaved, hgains⟩)

/-- Saves a registration and makes that visible to others. -/
def saveAndCommit (r : Registration) : Work Registration :=
  save r >>= fun saved => commit >>= fun _ => pure saved

/-- In a unit of work on a table with its index, saving a registration in a form that the table
takes is a conflict just if its row is missing, and it violates the index just if its row is not
missing but another one has its activation and its token. Otherwise the registration comes back with
its number, or with the next one of the table. Once this is committed, every lookup under its keys
finds it, and all other rows are as before. -/
theorem save_outcome (hindexed : t.indexed = true) (hread : ∀ row ∈ t.rows, row.Readable)
    (hr : t.Admits r) :
    (t.Misses r ↔ ∃ e, ((save r).runUnit t .none).1 = .error (.app e) ∧
      .conflict ∈ e.report.kind.lineage) ∧
    (¬ t.Misses r ∧ t.Binds r ↔ ∃ e, ((save r).runUnit t .none).1 = .error (.app e) ∧
      .consistencyViolation ∈ e.report.kind.lineage) ∧
    (¬ t.Misses r → ¬ t.Binds r → ∃ id t',
      (r.id = some id ∨ r.id = none ∧ t.IsNext id) ∧
      ((save r).runUnit t .none).1 = .ok { r with id := some id } ∧
      ((saveAndCommit r).runUnit t .none).1 = .ok { r with id := some id } ∧
      ((saveAndCommit r).runUnit t .none).2.committed = t' ∧
      t.Gains t' id { r with id := some id } ∧ FindsByKeys t t' id { r with id := some id }) := by
  have hkinds : ErrorKind.consistencyViolation ∉ ErrorKind.conflict.lineage ∧
      ErrorKind.conflict ∉ ErrorKind.consistencyViolation.lineage := by decide
  rcases comesTo_save_cases hindexed hr with ⟨hmisses, id, hsave⟩ | ⟨hmisses, hbinds, hsave⟩ |
    ⟨hmisses, hbinds, t', hsave, hgains⟩ <;> rw [hsave.runUnit_fst]
  · refine ⟨iff_of_true hmisses ⟨_, rfl, List.mem_cons_self⟩,
      iff_of_false (fun h => h.1 hmisses) ?_, fun h => absurd hmisses h⟩
    rintro ⟨_, ⟨⟩, hkind⟩
    exact hkinds.1 hkind
  · refine ⟨iff_of_false hmisses ?_, iff_of_true ⟨hmisses, hbinds⟩ ⟨_, rfl, List.mem_cons_self⟩,
      fun _ h => absurd hbinds h⟩
    rintro ⟨_, ⟨⟩, hkind⟩
    exact hkinds.2 hkind
  · refine ⟨iff_of_false hmisses nofun, iff_of_false (fun h => hbinds h.2) nofun, fun _ _ => ?_⟩
    obtain ⟨hresult, hcommitted⟩ := (hsave.commit id).runUnit_of_ok
    refine ⟨_, t', ?_, rfl, hresult, hcommitted, hgains,
      findsByKeys_of_gains hread hgains hr.app⟩
    cases hid : r.id with
    | none => exact .inr ⟨rfl, t.isNext_nextId⟩
    | some id => exact .inl rfl

end Work

/-- A table of one row, which is bound. -/
def Table.oneBound : Table :=
  ⟨[⟨1, 7, "T", "ios", some "A", none, true, 0⟩], true, by decide, by decide⟩

/-- A registration of the same device for another activation. -/
def Registration.newcomer : Registration :=
  ⟨none, 7, "T", some .huawei, some "B", .text "U", true, 5⟩

/-- The registration is the second one of the table, and the device then has both. -/
theorem Work.save_newcomer :
    Table.oneBound.Admits .newcomer ∧
      ∃ t', ((saveAndCommit .newcomer).runUnit .oneBound .none).1 =
          .ok { Registration.newcomer with id := some 2 } ∧
        ((saveAndCommit .newcomer).runUnit .oneBound .none).2.committed = t' ∧
        FindsByKeys .oneBound t' 2 { Registration.newcomer with id := some 2 } := by
  have hadmits : Table.oneBound.Admits .newcomer := ⟨by decide, by decide, nofun, .inr ⟨"U", rfl⟩⟩
  have hread : ∀ row ∈ Table.oneBound.rows, row.Readable :=
    List.forall_mem_singleton.mpr ⟨.ios, rfl⟩
  have hmisses : ¬ Table.oneBound.Misses .newcomer := by
    rintro ⟨id, ⟨⟩, -⟩
  have hbinds : ¬ Table.oneBound.Binds .newcomer := by
    rintro ⟨a, ha, row, hrow, -, hrowa, -⟩
    obtain rfl := List.mem_singleton.mp hrow
    exact absurd (ha.trans hrowa.symm) (by decide)
  obtain ⟨-, -, hsaves⟩ := save_outcome rfl hread hadmits
  obtain ⟨id, t', hid, -, hresult, hcommitted, -, hfinds⟩ := hsaves hmisses hbinds
  obtain rfl : id = 2 := by
    rcases hid with hid | ⟨-, ⟨hnil, -⟩ | ⟨last, hlast, hid, -⟩⟩
    · cases hid
    · cases hnil
    · rw [hid, List.mem_singleton.mp hlast]
      rfl
  exact ⟨hadmits, t', hresult, hcommitted, hfinds⟩

end PushRegistry
