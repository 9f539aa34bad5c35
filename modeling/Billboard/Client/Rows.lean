import Billboard.Client.Stream
import Billboard.Server.Effect
import Mathlib.Data.List.InsertIdx
import Mathlib.Data.List.Nodup

/-!
# The displayed rows and their ids

Column 0 of the table displays the ids.  `HasIds` names them, `idAt` is the id at an index, and
the lemmas below say which events change the rows and how.

**`distinctIds_displayed`**: the table of a `showTable` reply displays distinct ids.
-/

namespace Billboard

open Java

/-! ## Ids -/

/-- The rows display these ids, in order. -/
def HasIds (rows : List TableRow) (ids : List Int32) : Prop :=
  rows.map rowID = ids.map some

/-- Every row displays an id, and no two the same one. -/
def DistinctIds (rows : List TableRow) : Prop :=
  ∃ ids, HasIds rows ids ∧ ids.Nodup

/-- The id displayed at an index. -/
def idAt (rows : List TableRow) (i : ℤ) : Option Int32 :=
  (TableModel.row? rows i).bind rowID

section

variable {rows : List TableRow} {ids : List Int32}

lemma idAt_natCast (h : HasIds rows ids) (n : ℕ) : idAt rows n = ids[n]? := by
  have cell : rows[n]?.map rowID = ids[n]?.map some := by
    rw [← List.getElem?_map, ← List.getElem?_map, h]
  rw [idAt, TableModel.row?_natCast]
  cases row : rows[n]? with
  | none => simpa [row] using cell
  | some r =>
      obtain ⟨k, id, row⟩ : ∃ k, some k = ids[n]? ∧ rowID r = some k := by
        simpa [row, eq_comm] using cell
      rw [← id, Option.bind_some, row]

lemma idAt_eq_some {i : ℤ} {k : Int32} (h : idAt rows i = some k) :
    ∃ n : ℕ, i = n ∧ ∃ r, rows[n]? = some r ∧ rowID r = some k := by
  obtain ⟨r, row, id⟩ := Option.bind_eq_some_iff.mp h
  obtain ⟨n, hn, hr⟩ := TableModel.row?_eq_some row
  exact ⟨n, hn, r, hr, id⟩

lemma idAt_congr {rows' : List TableRow} (h : HasIds rows ids) (h' : HasIds rows' ids) (i : ℤ) :
    idAt rows i = idAt rows' i := by
  cases i with
  | ofNat n => exact (idAt_natCast h n).trans (idAt_natCast h' n).symm
  | negSucc n => rfl

/-- A displayed row displays an id. -/
lemma idAt_of_row (h : HasIds rows ids) {i : ℤ} {r : TableRow}
    (row : TableModel.row? rows i = some r) : ∃ k, idAt rows i = some k ∧ rowID r = some k := by
  obtain ⟨n, rfl, hr⟩ := TableModel.row?_eq_some row
  have mem : rowID r ∈ ids.map some := h ▸ List.mem_map_of_mem (List.mem_of_getElem? hr)
  obtain ⟨k, -, id⟩ := List.mem_map.mp mem
  exact ⟨k, by rw [idAt, row, Option.bind_some, id], id.symm⟩

/-- Replacing a row by one with its id keeps the ids. -/
lemma HasIds.set (h : HasIds rows ids) {n : ℕ} {r : TableRow}
    (same : idAt rows n = rowID r) : HasIds (rows.set n r) ids := by
  rw [HasIds, List.map_set, h, ← same, idAt_natCast h]
  refine List.ext_getElem? fun i => ?_
  rw [List.getElem?_set, List.length_map, List.getElem?_map]
  split_ifs with here inside
  · subst here
    simp [inside]
  · subst here
    simp [List.getElem?_eq_none (Nat.not_lt.mp inside)]
  · rfl

lemma HasIds.eraseIdx (h : HasIds rows ids) (n : ℕ) :
    HasIds (rows.eraseIdx n) (ids.eraseIdx n) := by
  rw [HasIds, ← List.eraseIdx_map, h, List.eraseIdx_map]

lemma not_mem_eraseIdx {n : ℕ} {k : Int32} (nodup : ids.Nodup) (here : ids[n]? = some k) :
    k ∉ ids.eraseIdx n := by
  intro mem
  obtain ⟨j, other, there⟩ := List.mem_eraseIdx_iff_getElem?.mp mem
  have inside : n < ids.length := (List.getElem?_eq_some_iff.mp here).1
  exact other ((List.getElem?_inj inside nodup).mp (here.trans there.symm)).symm

lemma DistinctIds.eraseIdx (h : DistinctIds rows) (n : ℕ) : DistinctIds (rows.eraseIdx n) := by
  obtain ⟨ids, hasIds, nodup⟩ := h
  exact ⟨ids.eraseIdx n, hasIds.eraseIdx n, nodup.eraseIdx n⟩

lemma DistinctIds.removeRow (h : DistinctIds rows) (i : ℤ) :
    DistinctIds ((TableModel.removeRow rows i).getD rows) := by
  cases i with
  | ofNat n =>
      by_cases inside : n < rows.length
      · simpa [TableModel.removeRow, inside] using h.eraseIdx n
      · simpa [TableModel.removeRow, inside] using h
  | negSucc n => exact h

end

/-- The id that a row fills into the form is the one it displays. -/
lemma rowID_of_form {r : TableRow} {form : EditForm} (h : formOfRow r = some form) :
    rowID r = parseInt form.id := by
  simp only [formOfRow, Option.bind_eq_bind, Option.bind_eq_some_iff, Option.some.injEq] at h
  obtain ⟨id, hid, name, -, msg, -, info, -, link, -, rfl⟩ := h
  rw [rowID, hid, Option.bind_some]

lemma rowID_myString (r : ResultRow) : rowID r.myString = some r.key :=
  parseInt_decimal r.key

/-- **A reply displays distinct ids**: they are those of the table `view`. -/
theorem distinctIds_displayed {m : MariaDb} (db : Db m) : DistinctIds db.displayed := by
  refine ⟨db.view.rows.map ViewRow.billboardID, ?_, db.view.nodup⟩
  simp only [HasIds, Db.displayed, List.map_map]
  exact List.map_congr_left fun r _ => rowID_myString (r.result m.order)

/-- A reply with the billboards 1 and 2, of which only the ids are known. -/
def twoRows : DataArray :=
  ⟨[ResultRow.myString ⟨1, fun _ => none⟩, ResultRow.myString ⟨2, fun _ => none⟩]⟩

lemma hasIds_twoRows : HasIds twoRows.data [1, 2] := by
  simp [HasIds, twoRows, rowID_myString]

lemma distinctIds_twoRows : DistinctIds twoRows.data :=
  ⟨[1, 2], hasIds_twoRows, by decide⟩

/-! ## Rows under the events -/

lemma keeps_rows_changeSelection (selection : Option ℕ) :
    Act.Keeps (fun c : Client => c.table2.rows) (changeSelection selection) :=
  keeps_changeSelection selection (fun _ _ => rfl) (fun _ _ => rfl) fun _ _ => rfl

/-- The rows after `removeRow(row)`. -/
lemma rows_removeRow (c : Client) (row : ℤ) :
    ((removeRow row).after c).table2.rows
      = (TableModel.removeRow c.table2.rows row).getD c.table2.rows := by
  cases removed : TableModel.removeRow c.table2.rows row with
  | none =>
      rw [Act.after_eq_of_error (run_removeRow_missing removed)]
      rfl
  | some rows =>
      rw [Act.after_congr (run_removeRow_some removed)]
      have keeps : Act.Keeps (fun c : Client => c.table2.rows) (do
          tableChanged row
          changeSelection (selectionAfterRemoval row.toNat c.table2.selectedRow)) :=
        .bind (keeps_tableChanged row) fun _ => keeps_rows_changeSelection _
      exact keeps _

lemma rows_setValueAt (c : Client) (value : JObject) (row : ℤ) (column : Fin 8) :
    ((setValueAt value row column).after c).table2.rows
      = (TableModel.setValueAt c.table2.rows value row column).getD c.table2.rows := by
  cases changed : TableModel.setValueAt c.table2.rows value row column with
  | none =>
      rw [setValueAt, Act.after_bind_of_ok (Act.run_get c), changed,
        Act.after_bind_of_error (Act.run_orThrow_none _ _)]
      rfl
  | some rows =>
      rw [Act.after_congr (run_setValueAt_some changed)]
      exact keeps_tableChanged (g := fun c : Client => c.table2.rows) row _

/-- The rows after an event of which every write succeeds. -/
def Client.rowsAfter (c : Client) : Event → List TableRow
  | .editCell row column s =>
      (TableModel.setValueAt c.table2.rows (.str s) row (c.table2.columns column)).getD
        c.table2.rows
  | .press .delete _ => match c.billboardID with
    | some _ => (TableModel.removeRow c.table2.rows c.selectedRow).getD c.table2.rows
    | none => c.table2.rows
  | .press .update _ => match parseInt (c.text .editBbID) with
    | some k => match TableModel.row? c.table2.rows c.rowToEdit with
      | some r => c.table2.rows.set c.rowToEdit.toNat (editedRow (c.editData k) r)
      | none => c.table2.rows
    | none => c.table2.rows
  | _ => c.table2.rows

theorem rows_step {c : Client} {e : Event} (succeeds : e.Succeeds) :
    (c.step e).table2.rows = c.rowsAfter e := by
  cases e with
  | select row =>
      rw [Client.step, Event.act, Act.after_bind_of_ok (Act.run_get c)]
      split
      · exact keeps_rows_changeSelection _ c
      · rfl
  | clearSelection => exact keeps_rows_changeSelection none c
  | type area s =>
      rw [Client.step, Event.act, Act.after_bind_of_ok (Act.run_get c)]
      split
      · exact keeps_setText (g := fun c : Client => c.table2.rows) _ _ (fun _ _ => rfl) c
      · rfl
  | editCell row column s =>
      rw [Client.step, Event.act, Act.after_bind_of_ok (Act.run_get c), Client.rowsAfter]
      split
      · exact rows_setValueAt c _ _ _
      · next outside =>
          have missing : TableModel.row? c.table2.rows row = none :=
            List.getElem?_eq_none (Nat.not_lt.mp outside)
          rw [TableModel.setValueAt_eq_none missing]
          rfl
  | arrangeColumns columns => rfl
  | press button fails =>
      obtain rfl : fails = noFailure := funext succeeds
      cases button with
      | delete =>
          rw [Client.rowsAfter]
          cases id : c.billboardID with
          | none => rw [step_delete_none id]; rfl
          | some k => rw [step_delete_some id]; exact rows_removeRow _ _
      | edit =>
          rw [step_edit]
          split <;> rfl
      | update =>
          rw [Client.rowsAfter]
          cases id : parseInt (c.text .editBbID) with
          | none => rw [step_update_nan id]
          | some k =>
              rw [step_update id]
              cases TableModel.row? c.table2.rows c.rowToEdit <;> rfl
      | submit => rw [step_submit]; rfl
      | scheduleSubmit => rw [step_scheduleSubmit]; rfl

end Billboard
