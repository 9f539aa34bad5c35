import Billboard.Client.Rows

/-!
# The row an update overwrites

Edit copies a row into the form and remembers its index in `rowToEdit`.  Update sends the id in the
form and overwrites the row at `rowToEdit`.  Nothing links the two: before the first Edit the id can
be typed while `rowToEdit` is 0, and a Delete between Edit and Update moves the rows.

* **`overwritesOnly_iff_targets`** — an Update overwrites no row but the one with the id it sends
  exactly if the row at `rowToEdit`, where there is one, displays this id.
* **`update_targets_iff`** — the same along a run, in which the displayed ids then stay distinct.
-/

namespace Billboard

open Java Runs

/-! ## Events -/

/-- The fields of the edit form. -/
def TextArea.ofEditForm : TextArea → Bool
  | .editBbID => true
  | .editBbName => true
  | .editMsg => true
  | .editInfo => true
  | .editLink => true
  | _ => false

/-- Selections, typing in the edit form, and the buttons Edit, Update and Delete, every write of
which succeeds. -/
def Event.OfEditing : Event → Prop
  | .select _ => True
  | .clearSelection => True
  | .type area _ => area.ofEditForm = true
  | .press .edit fails => ∀ w, fails w = false
  | .press .update fails => ∀ w, fails w = false
  | .press .delete fails => ∀ w, fails w = false
  | _ => False

def EditStep (c : Client) (e : Event) (c' : Client) : Prop :=
  e.OfEditing ∧ c' = c.step e

/-- An Update that sends a request with id `k` adds and removes no row, and overwrites no row but
one that displayed `k` before. -/
def OverwritesOnly (c : Client) : Event → Prop
  | .press .update fails => ∀ e : Edit,
      (c.step (.press .update fails)).sent = c.sent ++ (Request.editTable e).items →
        (c.step (.press .update fails)).table2.rows.length = c.table2.rows.length
          ∧ ∀ i : ℕ, (c.step (.press .update fails)).table2.rows[i]? ≠ c.table2.rows[i]? →
              idAt c.table2.rows i = some e.id
  | _ => True

/-- At an Update the row at `rowToEdit`, if there is one, displays the id in the form. -/
def TargetsRow (c : Client) : Event → Prop
  | .press .update _ => ∀ k, parseInt (c.text .editBbID) = some k →
      ∀ r, TableModel.row? c.table2.rows c.rowToEdit = some r → rowID r = some k
  | _ => True

lemma succeeds_of_editing {e : Event} (h : e.OfEditing) : e.Succeeds := by
  cases e with
  | press button fails =>
      cases button with
      | delete => exact h
      | edit => exact h
      | update => exact h
      | submit => exact h.elim
      | scheduleSubmit => exact h.elim
  | _ => trivial

/-! ## One update -/

/-- Update sends the texts of the form, if its id is an integer. -/
lemma sent_update_iff (c : Client) (e : Edit) :
    (c.step (.press .update noFailure)).sent = c.sent ++ (Request.editTable e).items
      ↔ ∃ k, parseInt (c.text .editBbID) = some k ∧ e = c.editData k := by
  have succeeds : (Event.press .update noFailure).Succeeds := fun _ => rfl
  rw [sent_step succeeds, List.append_right_inj, Client.outgoing]
  cases parseInt (c.text .editBbID) with
  | none => simp [Request.items, Request.payload]
  | some k =>
      constructor
      · intro h
        have payload : c.editData k = e := by simpa [Request.payload] using (List.cons.inj h).2
        exact ⟨k, rfl, payload.symm⟩
      · rintro ⟨k', id, rfl⟩
        obtain rfl : k = k' := Option.some.inj id
        rfl

/-- An update sets the row at `rowToEdit`. -/
lemma rows_update {c : Client} {k : Int32} (id : parseInt (c.text .editBbID) = some k) {n : ℕ}
    {r : TableRow} (target : c.rowToEdit = n) (row : c.table2.rows[n]? = some r) :
    (c.step (.press .update noFailure)).table2.rows
      = c.table2.rows.set n (editedRow (c.editData k) r) := by
  have succeeds : (Event.press .update noFailure).Succeeds := fun _ => rfl
  rw [rows_step succeeds, Client.rowsAfter, id]
  simp only [target, TableModel.row?_natCast, row, Int.toNat_natCast]

lemma rows_update_missing {c : Client}
    (missing : TableModel.row? c.table2.rows c.rowToEdit = none) :
    (c.step (.press .update noFailure)).table2.rows = c.table2.rows := by
  have succeeds : (Event.press .update noFailure).Succeeds := fun _ => rfl
  rw [rows_step succeeds, Client.rowsAfter, missing]
  split <;> rfl

/-- **Exactly when the row at `rowToEdit` displays the id in the form**, an update overwrites no
row but the one whose id it sends. -/
theorem overwritesOnly_iff_targets (c : Client) {e : Event} (editing : e.OfEditing) :
    OverwritesOnly c e ↔ TargetsRow c e := by
  cases e with
  | press button fails =>
      cases button with
      | update =>
          obtain rfl : fails = noFailure := funext editing
          constructor
          · intro only k id r row
            obtain ⟨n, target, here⟩ := TableModel.row?_eq_some row
            obtain ⟨-, changed⟩ := only (c.editData k) ((sent_update_iff c _).mpr ⟨k, id, rfl⟩)
            -- a row with another id would be changed, as its id is
            by_contra other
            refine other (Eq.trans ?_ (changed n ?_))
            · rw [idAt, TableModel.row?_natCast, here, Option.bind_some]
            · rw [rows_update id target here, here,
                List.getElem?_set_self (List.getElem?_eq_some_iff.mp here).1]
              intro same
              rw [← Option.some.inj same] at other
              exact other (rowID_editedRow (c.editData k) r)
          · intro targets e sent
            obtain ⟨k, id, rfl⟩ := (sent_update_iff c e).mp sent
            cases row : TableModel.row? c.table2.rows c.rowToEdit with
            | none =>
                rw [rows_update_missing row]
                exact ⟨rfl, fun i changed => absurd rfl changed⟩
            | some r =>
                obtain ⟨n, target, here⟩ := TableModel.row?_eq_some row
                rw [rows_update id target here]
                refine ⟨List.length_set, ?_⟩
                intro i changed
                have same : n = i := by
                  by_contra apart
                  exact changed (List.getElem?_set_ne apart)
                subst same
                rw [idAt, TableModel.row?_natCast, here, Option.bind_some]
                exact targets k id r row
      | _ => exact Iff.rfl
  | _ => exact Iff.rfl

/-! ## Runs -/

/-- An event that targets its row keeps the displayed ids distinct. -/
theorem distinctIds_step {c c' : Client} {e : Event} (distinct : DistinctIds c.table2.rows)
    (step : EditStep c e c') (targets : TargetsRow c e) : DistinctIds c'.table2.rows := by
  obtain ⟨editing, rfl⟩ := step
  rw [rows_step (succeeds_of_editing editing)]
  cases e with
  | press button fails =>
      cases button with
      | delete =>
          rw [Client.rowsAfter]
          split
          · exact distinct.removeRow c.selectedRow
          · exact distinct
      | update =>
          rw [Client.rowsAfter]
          split
          · next k id =>
              split
              · next r row =>
                  obtain ⟨n, target, here⟩ := TableModel.row?_eq_some row
                  obtain ⟨ids, hasIds, nodup⟩ := distinct
                  rw [target, Int.toNat_natCast]
                  refine ⟨ids, hasIds.set ?_, nodup⟩
                  rw [idAt, TableModel.row?_natCast, here, Option.bind_some, targets k id r row]
                  exact (rowID_editedRow (c.editData k) r).symm
              · exact distinct
          · exact distinct
      | edit => exact distinct
      | submit => exact editing.elim
      | scheduleSubmit => exact editing.elim
  | editCell row column s => exact editing.elim
  | select row => exact distinct
  | clearSelection => exact distinct
  | type area s => exact distinct
  | arrangeColumns columns => exact distinct

/-- **Every Update of a run overwrites no row but the one whose id it sends, and the displayed ids
stay distinct, if and only if at every Update that finds an integer in the form the row at
`rowToEdit`, if there is one, displays this integer.** -/
theorem update_targets_iff (reply : DataArray) (distinct : DistinctIds reply.data)
    (events : List Event) :
    EveryStep EditStep OverwritesOnly (Client.start reply) events
        ∧ Always EditStep (fun c => DistinctIds c.table2.rows) (Client.start reply) events
      ↔ EveryStep EditStep TargetsRow (Client.start reply) events := by
  have only : EveryStep EditStep OverwritesOnly (Client.start reply) events
      ↔ EveryStep EditStep TargetsRow (Client.start reply) events :=
    everyStep_iff_everyStep (I := fun _ => True)
      (fun c _ _ _ step => overwritesOnly_iff_targets c step.1) (fun _ _ _ _ _ _ => trivial) trivial
  constructor
  · intro overwrites
    exact only.mp overwrites.1
  · intro targets
    refine ⟨only.mpr targets, always_of_everyStep ?_ distinct targets⟩
    exact fun c e c' => distinctIds_step

/-- Right after an Edit that has filled the form, an Update targets the row of this Edit. -/
lemma targets_after_edit {c : Client} {form : EditForm}
    (filled : (TableModel.row? c.table2.rows c.selectedRow).bind formOfRow = some form)
    (fails : Write → Bool) :
    TargetsRow (c.step (.press .edit noFailure)) (.press .update fails) := by
  rw [step_edit, filled]
  intro k id r row
  have row : TableModel.row? c.table2.rows c.selectedRow = some r := row
  rw [row, Option.bind_some] at filled
  exact (rowID_of_form filled).trans id

/-- The condition is met by a run that edits a row and updates it. -/
theorem update_targets_twoRows :
    EveryStep EditStep OverwritesOnly (Client.start twoRows)
        [.press .edit noFailure, .press .update noFailure]
      ∧ Always EditStep (fun c => DistinctIds c.table2.rows) (Client.start twoRows)
        [.press .edit noFailure, .press .update noFailure] := by
  refine (update_targets_iff twoRows distinctIds_twoRows _).mpr ?_
  rw [everyStep_cons]
  refine ⟨fun _ _ => trivial, ?_⟩
  rintro _ ⟨-, rfl⟩
  rw [everyStep_cons]
  have filled : (TableModel.row? (Client.start twoRows).table2.rows
      (Client.start twoRows).selectedRow).bind formOfRow = some ⟨decimal 1, [], [], [], []⟩ := rfl
  exact ⟨fun _ _ => targets_after_edit filled noFailure, fun _ _ => everyStep_nil _ _ _⟩

/-- Before the first Edit the id of another row is typed: the update overwrites row 0. -/
theorem typed_id_overwrites_first :
    ¬ (EveryStep EditStep OverwritesOnly (Client.start twoRows)
          [.type .editBbID (decimal 2), .press .update noFailure]
        ∧ Always EditStep (fun c => DistinctIds c.table2.rows) (Client.start twoRows)
          [.type .editBbID (decimal 2), .press .update noFailure]) := by
  rintro ⟨only, -⟩
  let typed := (Client.start twoRows).step (.type .editBbID (decimal 2))
  have type : EditStep (Client.start twoRows) (.type .editBbID (decimal 2)) typed := ⟨rfl, rfl⟩
  have editing : (Event.press .update noFailure).OfEditing := fun _ => rfl
  have targets : TargetsRow typed (.press .update noFailure) :=
    (overwritesOnly_iff_targets typed editing).mp
      (only [.type .editBbID (decimal 2)] _ [] typed _ rfl ⟨typed, type, rfl⟩ ⟨editing, rfl⟩)
  have displayed := targets 2 (parseInt_decimal 2) (ResultRow.myString ⟨1, fun _ => none⟩) rfl
  rw [rowID_myString] at displayed
  exact absurd (Option.some.inj displayed) (by decide)

end Billboard
