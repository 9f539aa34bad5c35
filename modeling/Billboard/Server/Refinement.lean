import Billboard.Library.Runs
import Billboard.Server.Effect

/-!
# The displayed table against one store of billboards

What the five requests are for, said over one map from ids to records: `addBillboard` adds a record
under a free id, `editTable` replaces the four texts of one id, `addView` its schedule, `delete`
removes it.  This abstract store is `Catalog`; that its next id is free is a field, so
`addBillboard` cannot overwrite a record.

**`view_refines_iff`**: along a run of requests the content of `view` is the fold of the requests
over this store exactly when every `editTable` in the run names an id that `view` does not hold, or
carries the texts it holds.  The server writes `editTable` to the other table.
-/

namespace Billboard

open Java Sql Runs

/-! ## The abstract store -/

/-- What is known about a billboard. -/
structure Record where
  name : Option Text
  message : Option Text
  info : Option Text
  url : Option Text
  date : Option Text
  start : Option Text
  stop : Option Text
  deriving DecidableEq

/-- A store of billboards: its records by id, and the next id it gives out. -/
structure Catalog where
  record : Int32 → Option Record
  next : ℕ
  fresh : ∀ n, next ≤ n → n < 2 ^ 31 → record (Int32.ofNat n) = none

namespace Catalog

@[ext] lemma ext {c d : Catalog} (record : ∀ i, c.record i = d.record i) (next : c.next = d.next) :
    c = d := by
  cases c
  cases d
  obtain rfl : _ = _ := funext record
  simp_all

/-- Adding a record under the next id. -/
def add (c : Catalog) (r : Record) : Catalog where
  record i := if i = Int32.ofNat c.next then some r else c.record i
  next := c.next + 1
  fresh n hn range := by
    have other : Int32.ofNat n ≠ Int32.ofNat c.next := fun e => by
      have := congrArg Int32.toInt e
      rw [Int32.toInt_ofNat_of_lt range, Int32.toInt_ofNat_of_lt (by omega)] at this
      omega
    rw [if_neg other]
    exact c.fresh n (by omega) range

/-- Changing the record of an id, if it has one. -/
def modify (c : Catalog) (i : Int32) (f : Record → Record) : Catalog where
  record j := if j = i then (c.record j).map f else c.record j
  next := c.next
  fresh n hn range := by
    simp [c.fresh n hn range]

/-- Removing an id. -/
def remove (c : Catalog) (i : Int32) : Catalog where
  record j := if j = i then none else c.record j
  next := c.next
  fresh n hn range := by
    simp [c.fresh n hn range]

@[simp] lemma add_record (c : Catalog) (r : Record) (i : Int32) :
    (c.add r).record i = if i = Int32.ofNat c.next then some r else c.record i := rfl
@[simp] lemma modify_record (c : Catalog) (i j : Int32) (f : Record → Record) :
    (c.modify i f).record j = if j = i then (c.record j).map f else c.record j := rfl
@[simp] lemma remove_record (c : Catalog) (i j : Int32) :
    (c.remove i).record j = if j = i then none else c.record j := rfl

/-- What a request is for.  The id of a schedule arrives as a text, which the database takes for an
integer by `keyOf`; dates and times are stored as `date` and `time` represent them. -/
def step (m : MariaDb) (c : Catalog) : Request → Catalog
  | .addBillboard a =>
      c.add ⟨some a.query1, some a.query2, some a.query3, some a.query4, none, none, none⟩
  | .addView a => match m.keyOf a.query1 with
    | some i => c.modify i fun r =>
        { r with
          date := some (m.date a.query2)
          start := some (m.time a.query3)
          stop := some (m.time a.query4) }
    | none => c
  | .showTable => c
  | .delete d => c.remove d.billboardID
  | .editTable e => c.modify e.id fun r =>
      { r with
        name := some e.query1
        message := some e.query2
        info := some e.query3
        url := some e.query4 }

end Catalog

/-! ## The content of `view` -/

variable {m : MariaDb}

def ViewRow.record (r : ViewRow) : Record :=
  ⟨r.billboardName, r.message, r.info, r.url, r.scheduledDate, r.startTime, r.endTime⟩

/-- `view` holds no id from its counter on. -/
lemma view_free (db : Db m) {n : ℕ} (hn : db.view.next ≤ n) (range : n < 2 ^ 31) :
    db.view.find (Int32.ofNat n) = none := by
  rw [Table.find, List.find?_eq_none]
  intro r hr
  have below := db.view.below r hr
  simp only [decide_eq_true_eq]
  intro e
  rw [e, Int32.toInt_ofNat_of_lt range] at below
  omega

/-- The abstract store that `view` holds. -/
def Db.catalog (db : Db m) : Catalog where
  record i := (db.view.find i).map ViewRow.record
  next := db.view.next
  fresh n hn range := by rw [view_free db hn range, Option.map_none]

@[simp] lemma catalog_record (db : Db m) (i : Int32) :
    db.catalog.record i = (db.view.find i).map ViewRow.record := rfl
@[simp] lemma catalog_next (db : Db m) : db.catalog.next = db.view.next := rfl

/-- A record as a row of `view`. -/
def Record.viewRow (r : Record) (i : Int32) : ViewRow :=
  ⟨i, r.name, r.message, r.info, r.url, r.date, r.start, r.stop⟩

/-- **What `showTable` displays** is the abstract store: the displayed rows are its records, each
under its id. -/
theorem mem_displayed_iff (db : Db m) (row : TableRow) :
    row ∈ db.displayed ↔ ∃ i r, db.catalog.record i = some r
      ∧ row = ((r.viewRow i).result m.order).myString := by
  rw [Db.displayed, List.mem_map]
  constructor
  · rintro ⟨v, hv, rfl⟩
    have found : db.view.find v.billboardID = some v := Table.find_of_mem hv
    exact ⟨v.billboardID, v.record, by rw [catalog_record, found]; rfl, rfl⟩
  · rintro ⟨i, r, hr, rfl⟩
    obtain ⟨v, hv, rfl⟩ := Option.map_eq_some_iff.mp hr
    obtain rfl : v.billboardID = i := Table.id_of_find hv
    exact ⟨v, Table.mem_of_find hv, rfl⟩

/-! ## One request -/

/-- An `editTable` would have nothing to change in `view`. -/
def NothingToShow (db : Db m) : Request → Prop
  | .editTable e => ∀ r, db.view.find e.id = some r →
      [r.billboardName, r.message, r.info, r.url]
        = [some e.query1, some e.query2, some e.query3, some e.query4]
  | _ => True

lemma catalog_addBillboard {db : Db m} {a : Add} (h : db.billboard.HasRoom)
    (h' : (db.insertBillboard a h).view.HasRoom) :
    ((db.insertBillboard a h).insertView a h').catalog
      = db.catalog.step m (.addBillboard a) := by
  refine Catalog.ext (fun i => ?_) rfl
  rw [Catalog.step, catalog_record, Db.insertView, Table.find_insert, Catalog.add_record,
    catalog_next, catalog_record]
  have newId : (db.insertBillboard a h).view.newId = Int32.ofNat db.view.next := rfl
  rw [newId]
  by_cases hi : i = Int32.ofNat db.view.next
  · rw [if_pos hi, if_pos hi]
    rfl
  · rw [if_neg hi, if_neg hi]
    rfl

lemma catalog_addView (db : Db m) (a : Add) :
    (db.updateSchedule a).catalog = db.catalog.step m (.addView a) := by
  rw [Catalog.step]
  cases key : m.keyOf a.query1 with
  | none =>
      refine Catalog.ext (fun i => ?_) rfl
      simp [Db.updateSchedule, Table.find_update, key]
  | some k =>
      refine Catalog.ext (fun i => ?_) rfl
      simp only [Db.updateSchedule, catalog_record, Table.find_update, Catalog.modify_record, key,
        Option.some.injEq, decide_eq_true_eq, eq_comm (a := k)]
      split_ifs
      · cases db.view.find i <;> rfl
      · rfl

lemma catalog_delete (db : Db m) (d : Delete) :
    (db.deleteView d).catalog = db.catalog.step m (.delete d) := by
  refine Catalog.ext (fun i => ?_) rfl
  simp only [Catalog.step, Db.deleteView, catalog_record, Table.find_delete,
    Catalog.remove_record, decide_eq_true_eq]
  split_ifs <;> rfl

lemma catalog_editTable_iff (db : Db m) (e : Edit) :
    (db.updateBillboard e).catalog = db.catalog.step m (.editTable e)
      ↔ NothingToShow db (.editTable e) := by
  have same : (db.updateBillboard e).catalog = db.catalog := rfl
  rw [same, Catalog.step]
  constructor
  · intro h r hr
    have here := congrArg (fun c => c.record e.id) h
    simp only [catalog_record, Catalog.modify_record, if_true, hr, Option.map_some,
      Option.some.injEq, ViewRow.record, Record.mk.injEq] at here
    simp [here]
  · intro h
    refine Catalog.ext (fun i => ?_) rfl
    rw [Catalog.modify_record, catalog_record]
    split_ifs with hi
    · subst hi
      cases hr : db.view.find e.id with
      | none => rfl
      | some r =>
          have stored := h r hr
          simp only [List.cons.injEq, and_true] at stored
          simp [ViewRow.record, stored]
    · rfl

/-- **One request acts on `view` as it is meant to** exactly when it has nothing to show there. -/
lemma catalog_effect_iff {db db' : Db m} {r : Request} (effect : db.effect r = some db') :
    db'.catalog = db.catalog.step m r ↔ NothingToShow db r := by
  cases r with
  | addBillboard a =>
      simp only [Db.effect] at effect
      split_ifs at effect with h h'
      obtain rfl := Option.some.inj effect
      exact iff_of_true (catalog_addBillboard h h') trivial
  | addView a =>
      obtain rfl := Option.some.inj effect
      exact iff_of_true (catalog_addView db a) trivial
  | showTable => obtain rfl := Option.some.inj effect; exact iff_of_true rfl trivial
  | delete d =>
      obtain rfl := Option.some.inj effect
      exact iff_of_true (catalog_delete db d) trivial
  | editTable e => obtain rfl := Option.some.inj effect; exact catalog_editTable_iff db e

/-! ## A run of requests -/

/-- **Along a run of requests `view` is the fold of the requests over the abstract store if and
only if every `editTable` of the run has nothing to show in `view`.** -/
theorem view_refines_iff (db : Db m) (rs : List Request) :
    (∀ pre post db', rs = pre ++ post → Reaches Serves db pre db' →
        db'.catalog = pre.foldl (Catalog.step m) db.catalog)
      ↔ EveryStep Serves NothingToShow db rs :=
  refines_iff_everyStep (I := fun _ => True)
    (fun _ _ _ _ serves => catalog_effect_iff (serves_iff.mp serves).2)
    (fun _ _ _ _ _ => trivial) trivial

/-- An edited name is not displayed: `view` keeps the old one. -/
theorem edit_not_displayed :
    let db : Db (MariaDb.simple .infoMessage) :=
      Db.single ⟨"a".toList, "b".toList, "c".toList, "d".toList⟩
    let e : Edit := ⟨1, "new".toList, "b".toList, "c".toList, "d".toList⟩
    ¬ ∀ pre post db', [.editTable e] = pre ++ post → Reaches Serves db pre db' →
        db'.catalog = pre.foldl (Catalog.step (MariaDb.simple .infoMessage)) db.catalog := by
  intro db e fold
  have served : Serves db (.editTable e) (db.updateBillboard e) :=
    serves_iff.mpr ⟨by decide +kernel, rfl⟩
  have after := fold [.editTable e] [] (db.updateBillboard e) rfl ⟨_, served, rfl⟩
  have name := congrArg (fun c => (c.record 1).map Record.name) after
  exact absurd name (by decide +kernel)

end Billboard
