import Billboard.Library.Runs
import Billboard.Server.Effect

/-!
# Whether the two tables hold the same billboards

`billboard` and `view` start with the same billboards under the same ids and with the same next
id.  `addBillboard` writes both, but `delete` only `view` and `editTable` only `billboard`.

**`sameBillboards_iff_harmless`**: a run keeps the tables the same throughout exactly when no
`delete` in it names an id that is there, and every `editTable` in it that names one carries the
texts already stored.
-/

namespace Billboard

open Java Sql Runs

variable {m : MariaDb}

/-- What `view` holds about a billboard besides its schedule. -/
def ViewRow.billboard (r : ViewRow) : BillboardRow :=
  ⟨r.billboardID, r.billboardName, r.message, r.info, r.url⟩

/-- Both tables hold the same ids, and under each id the same name, message, info and url. -/
def SameBillboards (db : Db m) : Prop :=
  ∀ i, db.billboard.find i = (db.view.find i).map ViewRow.billboard

/-- Both tables will give out the same id next. -/
def SameNext (db : Db m) : Prop :=
  db.billboard.next = db.view.next

/-- The request writes one of the tables only, but changes nothing there. -/
def Harmless (db : Db m) : Request → Prop
  | .delete d => db.view.find d.billboardID = none
  | .editTable e => ∀ r, db.billboard.find e.id = some r →
      r = ⟨e.id, some e.query1, some e.query2, some e.query3, some e.query4⟩
  | _ => True

/-! ## One request -/

lemma sameNext_effect {db db' : Db m} {r : Request} (same : SameNext db)
    (effect : db.effect r = some db') : SameNext db' := by
  cases r with
  | addBillboard a =>
      simp only [Db.effect] at effect
      split_ifs at effect
      obtain rfl := Option.some.inj effect
      simpa [SameNext, Db.insertView, Db.insertBillboard] using same
  | addView a => obtain rfl := Option.some.inj effect; exact same
  | showTable => obtain rfl := Option.some.inj effect; exact same
  | delete d => obtain rfl := Option.some.inj effect; exact same
  | editTable e => obtain rfl := Option.some.inj effect; exact same

/-- `addBillboard` adds the same billboard to both tables. -/
lemma sameBillboards_insert {db : Db m} {a : Add} (h : db.billboard.HasRoom)
    (h' : (db.insertBillboard a h).view.HasRoom) (next : SameNext db) (same : SameBillboards db) :
    SameBillboards ((db.insertBillboard a h).insertView a h') := by
  intro i
  have ids : db.billboard.newId = db.view.newId := by rw [Table.newId, Table.newId, next]
  simp only [Db.insertView, Db.insertBillboard, Table.find_insert, ids]
  split_ifs
  · rfl
  · exact same i

lemma sameBillboards_updateSchedule {db : Db m} (a : Add) (same : SameBillboards db) :
    SameBillboards (db.updateSchedule a) := by
  intro i
  simp only [Db.updateSchedule, Table.find_update, same i]
  split_ifs
  · cases db.view.find i <;> rfl
  · rfl

lemma sameBillboards_delete_iff {db : Db m} (d : Delete) (same : SameBillboards db) :
    SameBillboards (db.deleteView d) ↔ db.view.find d.billboardID = none := by
  constructor
  · intro after
    have gone := after d.billboardID
    rw [Db.deleteView, Table.find_delete, same d.billboardID] at gone
    simpa using gone
  · intro absent
    have nothing : db.deleteView d = db := by
      rw [Db.deleteView, Table.delete_eq_self]
      intro i hi
      obtain rfl := of_decide_eq_true hi
      exact absent
    rwa [nothing]

/-- What an edit stores under an id that is there. -/
lemma find_updateBillboard {db : Db m} {e : Edit} {r : BillboardRow}
    (h : db.billboard.find e.id = some r) : (db.updateBillboard e).billboard.find e.id
      = some ⟨e.id, some e.query1, some e.query2, some e.query3, some e.query4⟩ := by
  rw [Db.updateBillboard, Table.find_update, if_pos (decide_eq_true rfl), h, Option.map_some]
  have id : r.billboardID = e.id := Table.id_of_find h
  rw [← id]
  rfl

lemma updateBillboard_of_harmless {db : Db m} {e : Edit} (harmless : Harmless db (.editTable e)) :
    db.updateBillboard e = db := by
  rw [Db.updateBillboard, Table.update_eq_self]
  intro i r hi hr
  obtain rfl := of_decide_eq_true hi
  rw [harmless r hr]
  rfl

lemma sameBillboards_edit_iff {db : Db m} (e : Edit) (same : SameBillboards db) :
    SameBillboards (db.updateBillboard e) ↔ Harmless db (.editTable e) := by
  constructor
  · intro after r hr
    have here := (find_updateBillboard hr).symm.trans (after e.id)
    have before : db.view.find e.id = (db.updateBillboard e).view.find e.id := rfl
    rw [← before, ← same e.id, hr] at here
    exact (Option.some.inj here).symm
  · intro harmless
    rwa [updateBillboard_of_harmless harmless]

/-- **One request keeps the tables the same exactly when it is harmless.** -/
lemma sameBillboards_effect_iff {db db' : Db m} {r : Request} (next : SameNext db)
    (same : SameBillboards db) (effect : db.effect r = some db') :
    SameBillboards db' ↔ Harmless db r := by
  cases r with
  | addBillboard a =>
      simp only [Db.effect] at effect
      split_ifs at effect with h h'
      obtain rfl := Option.some.inj effect
      exact iff_of_true (sameBillboards_insert h h' next same) trivial
  | addView a =>
      obtain rfl := Option.some.inj effect
      exact iff_of_true (sameBillboards_updateSchedule a same) trivial
  | showTable => obtain rfl := Option.some.inj effect; exact iff_of_true same trivial
  | delete d => obtain rfl := Option.some.inj effect; exact sameBillboards_delete_iff d same
  | editTable e => obtain rfl := Option.some.inj effect; exact sameBillboards_edit_iff e same

lemma sameBillboards_single (a : Add) : SameBillboards (Db.single a : Db m) :=
  sameBillboards_insert _ _ rfl fun _ => rfl

/-! ## A run of requests -/

/-- **The tables stay the same along a run of requests if and only if every request of it is
harmless where it is served.** -/
theorem sameBillboards_iff_harmless (db : Db m) (rs : List Request) (next : SameNext db)
    (same : SameBillboards db) :
    Always Serves SameBillboards db rs ↔ EveryStep Serves Harmless db rs := by
  refine always_iff_everyStep (I := SameNext) ?_ ?_ next same
  · intro db r db' next same serves
    exact sameBillboards_effect_iff next same (serves_iff.mp serves).2
  · intro db r db' next _ serves _
    exact sameNext_effect next (serves_iff.mp serves).2

/-- From the tables with one billboard, which is deleted and then added again, the run is broken
by its first request. -/
theorem sameBillboards_iff_harmless_single :
    let a : Add := ⟨"a".toList, "b".toList, "c".toList, "d".toList⟩
    let db : Db (MariaDb.simple .infoMessage) := Db.single a
    let rs := [Request.delete ⟨1⟩, Request.addBillboard a]
    Always Serves SameBillboards db rs ↔ EveryStep Serves Harmless db rs :=
  sameBillboards_iff_harmless _ _ rfl
    (sameBillboards_single _)

/-- Deleting the only billboard leaves it in `billboard`. -/
theorem delete_keeps_billboard :
    let a : Add := ⟨"a".toList, "b".toList, "c".toList, "d".toList⟩
    let db : Db (MariaDb.simple .infoMessage) := Db.single a
    SameNext db ∧ SameBillboards db ∧ ¬ Always Serves SameBillboards db [.delete ⟨1⟩] := by
  intro a db
  refine ⟨rfl, sameBillboards_single a, fun always => ?_⟩
  have served : Serves db (.delete ⟨1⟩) (db.deleteView ⟨1⟩) :=
    serves_iff.mpr ⟨by simp [Request.Plain, Request.texts], rfl⟩
  have after := always [.delete ⟨1⟩] [] (db.deleteView ⟨1⟩) rfl ⟨_, served, rfl⟩ 1
  exact absurd after (by decide +kernel)

end Billboard
