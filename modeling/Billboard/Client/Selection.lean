import Billboard.Client.Rows

/-!
# The remembered selection

`billboardID` and `selectedRow` are a copy of the selection which the selection listener refreshes
whenever a row is selected.  Delete sends the one and removes the row at the other.

* **`deletesSent_iff_tracks`** — Delete removes the row whose id it sends exactly in the states in
  which the copy agrees with the table.
* **`selection_tracked_iff`** — along a run the copy agrees with the table throughout, and every
  Delete removes the row whose id it sends, exactly when Delete is never pressed once a row has been
  selected: a removal leaves the copy behind.
-/

namespace Billboard

open Java Runs

/-! ## Events -/

/-- Selections and the buttons Edit, Update and Delete, every write of which succeeds. -/
def Event.OfSelection : Event → Prop
  | .select _ => True
  | .clearSelection => True
  | .press .edit fails => ∀ w, fails w = false
  | .press .update fails => ∀ w, fails w = false
  | .press .delete fails => ∀ w, fails w = false
  | _ => False

def SelectionStep (c : Client) (e : Event) (c' : Client) : Prop :=
  e.OfSelection ∧ c' = c.step e

/-- Where `billboardID` is set, it is the id displayed at `selectedRow`. -/
def Client.Tracks (c : Client) : Prop :=
  ∀ b, c.billboardID = some b → idAt c.table2.rows c.selectedRow = some b

/-- The event is not a press of Delete once `billboardID` is set. -/
def NotDeleting (c : Client) : Event → Prop
  | .press .delete _ => c.billboardID = none
  | _ => True

lemma delete_of_not_notDeleting {c : Client} {e : Event} (h : ¬ NotDeleting c e) :
    ∃ fails b, e = .press .delete fails ∧ c.billboardID = some b := by
  cases e with
  | press button fails =>
      cases button with
      | delete =>
          obtain ⟨b, id⟩ := Option.ne_none_iff_exists'.mp h
          exact ⟨fails, b, rfl, id⟩
      | _ => exact absurd trivial h
  | _ => exact absurd trivial h

/-- A press of Delete that sends an id removes the row that displays this id, and no other. -/
def DeletesSent (c : Client) : Event → Prop
  | .press .delete fails => ∀ b,
      (c.step (.press .delete fails)).sent = c.sent ++ (Request.delete ⟨b⟩).items →
        ∃ n : ℕ, idAt c.table2.rows n = some b
          ∧ (c.step (.press .delete fails)).table2.rows = c.table2.rows.eraseIdx n
  | _ => True

/-! ## What the selection listener stores -/

/-- The window after the row at index `i`, which displays `k`, has been selected. -/
def Client.selecting (c : Client) (i : ℕ) (k : Int32) : Client :=
  { c with
    table2 := { c.table2 with selectedRow := some i }
    billboardID := some k
    selectedRow := i }

/-- A window with another selection, of which no listener knows yet. -/
def Client.withSelection (c : Client) (selection : Option ℕ) : Client :=
  { c with table2 := { c.table2 with selectedRow := selection } }

/-- The selection listener reads the first column as it is shown. -/
lemma run_valueChanged {c : Client} {i : ℕ} {o : JObject} {k : Int32}
    (selected : c.table2.selectedRow = some i) (cell : c.table2.getValueAt i 0 = some o)
    (id : o.toString.bind parseInt = some k) :
    valueChanged.run c = .ok () { c with billboardID := some k, selectedRow := i } := by
  rw [valueChanged, Act.run_bind_of_ok (Act.run_get c)]
  simp only [selected, cell]
  rw [Act.run_bind_of_ok (Act.run_orThrow_some _ _ _), Act.run_bind_of_ok (run_parseCell id c)]
  rfl

/-- A new row is selected and the listener called; another selection changes nothing. -/
lemma run_select (c : Client) (i : ℕ) :
    (Event.select i).act.run c
      = if i < c.table2.rows.length ∧ some i ≠ c.table2.selectedRow then
          valueChanged.run (c.withSelection (some i))
        else .ok () c := by
  rw [Event.act, Act.run_bind_of_ok (Act.run_get c)]
  by_cases inside : i < c.table2.rows.length
  · rw [if_pos inside, changeSelection, Act.run_bind_of_ok (Act.run_get c)]
    by_cases same : some i = c.table2.selectedRow
    · rw [if_neg (not_not_intro same), if_neg fun new => new.2 same, same]
      rfl
    · rw [if_pos same, if_pos ⟨inside, same⟩]
      exact Act.run_bind_of_ok rfl
  · rw [if_neg inside, if_neg fun new => inside new.1]
    rfl

lemma step_select_outside {c : Client} {i : ℕ} (h : c.table2.rows.length ≤ i) :
    c.step (.select i) = c := by
  have unchanged := run_select c i
  rw [if_neg fun new => Nat.not_lt.mpr h new.1] at unchanged
  exact Act.after_eq_of_ok unchanged

/-- Selecting a row refreshes the copy unless the row is selected already. -/
lemma step_select {c : Client} {i : ℕ} {k : Int32}
    (columns : c.table2.columns = Equiv.refl (Fin 8)) (id : idAt c.table2.rows i = some k) :
    c.step (.select i) = if some i = c.table2.selectedRow then c else c.selecting i k := by
  obtain ⟨r, row, id⟩ := Option.bind_eq_some_iff.mp id
  have inside : i < c.table2.rows.length := (List.getElem?_eq_some_iff.mp row).1
  have cell : c.table2.getValueAt i 0 = some (r 0) := by
    rw [JTable.getValueAt, columns]
    exact TableModel.getValueAt_of_row row 0
  have run := run_select c i
  by_cases same : some i = c.table2.selectedRow
  · rw [if_neg fun new => new.2 same] at run
    rw [if_pos same]
    exact Act.after_eq_of_ok run
  · rw [if_pos ⟨inside, same⟩, run_valueChanged (c := c.withSelection (some i)) rfl cell id] at run
    rw [if_neg same]
    exact Act.after_eq_of_ok run

/-- Emptying the selection leaves the copy as it is. -/
lemma run_changeSelection_none (c : Client) :
    (changeSelection none).run c = .ok () (c.withSelection none) := by
  rw [changeSelection, Act.run_bind_of_ok (Act.run_get c)]
  split_ifs
  · rfl
  · rfl

lemma after_changeSelection_none (c : Client) :
    (changeSelection none).after c = c.withSelection none :=
  Act.after_eq_of_ok (run_changeSelection_none c)

/-- A removal empties the selection, if there was one, and so leaves the copy as it is. -/
lemma step_delete_copy {c : Client} {b : Int32} {n : ℕ} (id : c.billboardID = some b)
    (row : c.selectedRow = n) (selected : ∀ i, c.table2.selectedRow = some i → c.selectedRow = i) :
    (c.step (.press .delete noFailure)).billboardID = some b
      ∧ (c.step (.press .delete noFailure)).selectedRow = n := by
  have emptied : selectionAfterRemoval n c.table2.selectedRow = none := by
    cases h : c.table2.selectedRow with
    | none => rfl
    | some i =>
        have here : i = n := Int.ofNat.inj ((selected i h).symm.trans row)
        rw [selectionAfterRemoval, if_pos here]
  have keeps : Act.Keeps (fun c : Client => (c.billboardID, c.selectedRow)) (do
      tableChanged n
      changeSelection none) :=
    .bind (keeps_tableChanged _) fun _ => fun c => by
      rw [after_changeSelection_none]
      rfl
  have copy : (fun c : Client => (c.billboardID, c.selectedRow))
      (c.step (.press .delete noFailure)) = (some b, (n : ℤ)) := by
    rw [step_delete_some id, row]
    cases removed : TableModel.removeRow (c.writing (Request.delete ⟨b⟩).items).table2.rows n with
    | none =>
        rw [Act.after_eq_of_error (run_removeRow_missing removed)]
        exact Prod.ext id row
    | some rows =>
        rw [Act.after_congr (run_removeRow_some removed)]
        have same : selectionAfterRemoval (n : ℤ).toNat
            (c.writing (Request.delete ⟨b⟩).items).table2.selectedRow = none := emptied
        rw [same]
        exact (keeps _).trans (Prod.ext id row)
  exact Prod.mk.inj copy

/-! ## The invariant -/

/-- The displayed ids are `ids`, a selected row is the remembered one, and the form of an edit holds
the id displayed at `rowToEdit`. -/
structure Client.Linked (ids : List Int32) (c : Client) : Prop where
  rows : HasIds c.table2.rows ids
  columns : c.table2.columns = Equiv.refl (Fin 8)
  selected : ∀ i, c.table2.selectedRow = some i → c.selectedRow = i
  form : ∀ k, parseInt (c.text .editBbID) = some k → idAt c.table2.rows c.rowToEdit = some k

section

variable {ids : List Int32} {c : Client}

lemma linked_start {reply : DataArray} (rows : HasIds reply.data ids) :
    (Client.start reply).Linked ids where
  rows := rows
  columns := rfl
  selected := by
    intro i h
    cases (show (none : Option ℕ) = some i from h)
  form := by
    intro k h
    cases (show parseInt [] = some k from h)

lemma tracks_start (reply : DataArray) : (Client.start reply).Tracks := by
  intro b h
  cases (show (none : Option Int32) = some b from h)

lemma linked_select (linked : c.Linked ids) (tracks : c.Tracks) (i : ℕ) :
    (c.step (.select i)).Linked ids ∧ (c.step (.select i)).Tracks := by
  by_cases inside : i < c.table2.rows.length
  · obtain ⟨k, id, -⟩ := idAt_of_row linked.rows (i := i) (List.getElem?_eq_getElem inside)
    rw [step_select linked.columns id]
    split
    · exact ⟨linked, tracks⟩
    · refine ⟨⟨linked.rows, linked.columns, ?_, linked.form⟩, ?_⟩
      · intro j h
        obtain rfl : i = j := Option.some.inj h
        rfl
      · intro b h
        obtain rfl : k = b := Option.some.inj h
        exact id
  · rw [step_select_outside (Nat.not_lt.mp inside)]
    exact ⟨linked, tracks⟩

lemma linked_clearSelection (linked : c.Linked ids) (tracks : c.Tracks) :
    (c.step .clearSelection).Linked ids ∧ (c.step .clearSelection).Tracks := by
  rw [Client.step, Event.act, after_changeSelection_none]
  refine ⟨⟨linked.rows, linked.columns, ?_, linked.form⟩, tracks⟩
  intro i h
  cases (show (none : Option ℕ) = some i from h)

lemma linked_edit (linked : c.Linked ids) (tracks : c.Tracks) :
    (c.step (.press .edit noFailure)).Linked ids ∧ (c.step (.press .edit noFailure)).Tracks := by
  rw [step_edit]
  split
  · next form h =>
      obtain ⟨r, row, filled⟩ := Option.bind_eq_some_iff.mp h
      refine ⟨⟨linked.rows, linked.columns, linked.selected, ?_⟩, tracks⟩
      intro k hk
      have hk : parseInt form.id = some k := hk
      show idAt c.table2.rows c.selectedRow = some k
      rw [idAt, row, Option.bind_some, rowID_of_form filled, hk]
  · exact ⟨linked, tracks⟩

lemma linked_update (linked : c.Linked ids) (tracks : c.Tracks) :
    (c.step (.press .update noFailure)).Linked ids
      ∧ (c.step (.press .update noFailure)).Tracks := by
  cases h : parseInt (c.text .editBbID) with
  | none =>
      rw [step_update_nan h]
      exact ⟨linked, tracks⟩
  | some k =>
      have id := linked.form k h
      obtain ⟨n, hn, r, row, -⟩ := idAt_eq_some id
      have here : TableModel.row? c.table2.rows c.rowToEdit = some r := by rw [hn]; exact row
      rw [step_update h, here, hn]
      rw [hn] at id
      have rows : HasIds (c.table2.rows.set n (editedRow (c.editData k) r)) ids :=
        linked.rows.set (id.trans (rowID_editedRow (c.editData k) r).symm)
      refine ⟨⟨rows, linked.columns, linked.selected, ?_⟩, ?_⟩
      · intro k' h'
        cases (show parseInt [] = some k' from h')
      · intro b hb
        exact (idAt_congr rows linked.rows c.selectedRow).trans (tracks b hb)

/-- **One step.**  Unless it removes a row, an event keeps the copy in agreement with the table. -/
theorem linked_step {e : Event} {c' : Client} (linked : c.Linked ids) (tracks : c.Tracks)
    (step : SelectionStep c e c') (notDeleting : NotDeleting c e) :
    c'.Linked ids ∧ c'.Tracks := by
  obtain ⟨event, rfl⟩ := step
  cases e with
  | select row => exact linked_select linked tracks row
  | clearSelection => exact linked_clearSelection linked tracks
  | type area s => exact event.elim
  | editCell row column s => exact event.elim
  | arrangeColumns columns => exact event.elim
  | press button fails =>
      cases button with
      | delete =>
          obtain rfl : fails = noFailure := funext event
          rw [step_delete_none notDeleting]
          exact ⟨⟨linked.rows, linked.columns, linked.selected, linked.form⟩, tracks⟩
      | edit =>
          obtain rfl : fails = noFailure := funext event
          exact linked_edit linked tracks
      | update =>
          obtain rfl : fails = noFailure := funext event
          exact linked_update linked tracks
      | submit => exact event.elim
      | scheduleSubmit => exact event.elim

/-- After a removal the remembered id is displayed nowhere, so the copy is behind. -/
lemma not_tracks_delete {b : Int32} (linked : c.Linked ids) (nodup : ids.Nodup) (tracks : c.Tracks)
    (id : c.billboardID = some b) : ¬ (c.step (.press .delete noFailure)).Tracks := by
  obtain ⟨n, row, r, here, -⟩ := idAt_eq_some (tracks b id)
  obtain ⟨copyID, copyRow⟩ := step_delete_copy id row linked.selected
  have inside : n < c.table2.rows.length := (List.getElem?_eq_some_iff.mp here).1
  have removed : (c.step (.press .delete noFailure)).table2.rows = c.table2.rows.eraseIdx n := by
    have succeeds : (Event.press .delete noFailure).Succeeds := fun _ => rfl
    rw [rows_step succeeds, Client.rowsAfter, id, row]
    simp [TableModel.removeRow, inside]
  intro after
  have still := after b copyID
  rw [copyRow, removed, idAt_natCast (linked.rows.eraseIdx n)] at still
  have before : ids[n]? = some b := by
    rw [← idAt_natCast linked.rows, ← row]
    exact tracks b id
  exact not_mem_eraseIdx nodup before (List.mem_of_getElem? still)

end

/-! ## What Delete removes -/

/-- Delete sends `billboardID`, where it is set. -/
lemma sent_delete_iff (c : Client) (b : Int32) :
    (c.step (.press .delete noFailure)).sent = c.sent ++ (Request.delete ⟨b⟩).items
      ↔ c.billboardID = some b := by
  have succeeds : (Event.press .delete noFailure).Succeeds := fun _ => rfl
  rw [sent_step succeeds, List.append_right_inj, Client.outgoing]
  cases c.billboardID with
  | none => simp [Request.items, Request.payload]
  | some k =>
      constructor
      · intro h
        simpa [Request.payload] using (List.cons.inj h).2
      · rintro ⟨rfl⟩
        rfl

/-- Delete removes the row at `selectedRow`, if there is one. -/
lemma rows_delete {c : Client} {b : Int32} (id : c.billboardID = some b) :
    (c.step (.press .delete noFailure)).table2.rows
      = (TableModel.removeRow c.table2.rows c.selectedRow).getD c.table2.rows := by
  have succeeds : (Event.press .delete noFailure).Succeeds := fun _ => rfl
  rw [rows_step succeeds, Client.rowsAfter, id]

lemma deletesSent_of_tracks {c : Client} (tracks : c.Tracks) :
    DeletesSent c (.press .delete noFailure) := by
  intro b sent
  have id := (sent_delete_iff c b).mp sent
  have displayed := tracks b id
  obtain ⟨n, row, r, here, -⟩ := idAt_eq_some displayed
  rw [row] at displayed
  refine ⟨n, displayed, ?_⟩
  rw [rows_delete id, row]
  simp [TableModel.removeRow, (List.getElem?_eq_some_iff.mp here).1]

/-- **Delete removes the row whose id it sends exactly where the copy agrees with the table.** -/
theorem deletesSent_iff_tracks {c : Client} (distinct : DistinctIds c.table2.rows) :
    DeletesSent c (.press .delete noFailure) ↔ c.Tracks := by
  refine ⟨?_, deletesSent_of_tracks⟩
  intro deletes b id
  obtain ⟨ids, hasIds, nodup⟩ := distinct
  obtain ⟨n, displayed, removed⟩ := deletes b ((sent_delete_iff c b).mpr id)
  rw [rows_delete id] at removed
  have here : ids[n]? = some b := by rw [← idAt_natCast hasIds, displayed]
  have gone : b ∉ ids.eraseIdx n := not_mem_eraseIdx nodup here
  -- the ids after the removal, read at the index that was removed and at the one remembered
  have idsAfter : HasIds ((TableModel.removeRow c.table2.rows c.selectedRow).getD c.table2.rows)
      (ids.eraseIdx n) := by
    rw [removed]
    exact hasIds.eraseIdx n
  have same : ∀ ids', HasIds ((TableModel.removeRow c.table2.rows c.selectedRow).getD
      c.table2.rows) ids' → b ∉ ids' := by
    intro ids' h
    have : ids'.map some = (ids.eraseIdx n).map some := h.symm.trans idsAfter
    rwa [List.map_injective_iff.mpr (Option.some_injective _) this]
  cases row : c.selectedRow with
  | negSucc m =>
      rw [row] at same
      exact absurd (List.mem_of_getElem? here) (same ids hasIds)
  | ofNat m =>
      rw [row] at same
      by_cases inside : m < c.table2.rows.length
      · have kept := same (ids.eraseIdx m) (by
          simpa [TableModel.removeRow, inside] using hasIds.eraseIdx m)
        by_cases other : n = m
        · subst other
          exact displayed
        · exact absurd (List.mem_eraseIdx_iff_getElem?.mpr ⟨n, other, here⟩) kept
      · have kept := same ids (by simpa [TableModel.removeRow, inside] using hasIds)
        exact absurd (List.mem_of_getElem? here) kept

/-! ## Runs -/

/-- Where the copy agrees with the table throughout, Delete always removes the row it sends. -/
lemma everyStep_deletesSent {c : Client} {events : List Event}
    (tracks : Always SelectionStep Client.Tracks c events) :
    EveryStep SelectionStep DeletesSent c events := by
  intro pre e post m c' split reach step
  have here : m.Tracks := tracks pre (e :: post) m split reach
  cases e with
  | press button fails =>
      cases button with
      | delete =>
          obtain rfl : fails = noFailure := funext step.1
          exact deletesSent_of_tracks here
      | _ => trivial
  | _ => trivial

/-- **In every state of a run the copy agrees with the table, and every Delete removes the row whose
id it sends, if and only if Delete is pressed in no state of the run in which `billboardID` is
set.** -/
theorem selection_tracked_iff (reply : DataArray) (distinct : DistinctIds reply.data)
    (events : List Event) :
    Always SelectionStep Client.Tracks (Client.start reply) events
        ∧ EveryStep SelectionStep DeletesSent (Client.start reply) events
      ↔ EveryStep SelectionStep NotDeleting (Client.start reply) events := by
  obtain ⟨ids, hasIds, nodup⟩ := distinct
  have tracked : Always SelectionStep Client.Tracks (Client.start reply) events
      ↔ EveryStep SelectionStep NotDeleting (Client.start reply) events := by
    refine always_iff_everyStep (I := Client.Linked ids) ?_ ?_ (linked_start hasIds)
      (tracks_start reply)
    · intro c e c' linked tracks step
      refine ⟨fun after => ?_, fun notDeleting => (linked_step linked tracks step notDeleting).2⟩
      by_contra deleting
      obtain ⟨fails, b, rfl, id⟩ := delete_of_not_notDeleting deleting
      obtain ⟨event, rfl⟩ := step
      obtain rfl : fails = noFailure := funext event
      exact not_tracks_delete linked nodup tracks id after
    · intro c e c' linked tracks step notDeleting
      exact (linked_step linked tracks step notDeleting).1
  refine ⟨fun h => tracked.mp h.1, fun steps => ?_⟩
  exact ⟨tracked.mpr steps, everyStep_deletesSent (tracked.mpr steps)⟩

/-- The condition is met by a run that selects both rows in turn. -/
theorem selection_tracked_twoRows :
    Always SelectionStep Client.Tracks (Client.start twoRows) [.select 0, .select 1]
      ∧ EveryStep SelectionStep DeletesSent (Client.start twoRows) [.select 0, .select 1] := by
  refine (selection_tracked_iff twoRows distinctIds_twoRows _).mpr ?_
  intro pre e post m s' split reach step
  have event : e ∈ [Event.select 0, .select 1] := split ▸ List.mem_append_right pre (.head post)
  rcases List.mem_pair.mp event with rfl | rfl
  · trivial
  · trivial

/-- Row 0 is selected and Delete pressed twice: the second press sends the same id again and removes
the other row. -/
theorem second_delete_removes_other :
    ¬ Always SelectionStep Client.Tracks (Client.start twoRows)
          [.select 0, .press .delete noFailure, .press .delete noFailure]
      ∧ ¬ EveryStep SelectionStep DeletesSent (Client.start twoRows)
          [.select 0, .press .delete noFailure, .press .delete noFailure] := by
  let selected := (Client.start twoRows).step (.select 0)
  let removed := selected.step (.press .delete noFailure)
  have select : SelectionStep (Client.start twoRows) (.select 0) selected := ⟨trivial, rfl⟩
  have delete : SelectionStep selected (.press .delete noFailure) removed := ⟨fun _ => rfl, rfl⟩
  have reach : Reaches SelectionStep (Client.start twoRows)
      [.select 0, .press .delete noFailure] removed := ⟨_, select, _, delete, rfl⟩
  obtain ⟨linked, tracks⟩ :=
    linked_step (linked_start hasIds_twoRows) (tracks_start twoRows) select trivial
  have id : selected.billboardID = some 1 := by
    have displayed : idAt twoRows.data (0 : ℕ) = some 1 := idAt_natCast hasIds_twoRows 0
    show ((Client.start twoRows).step (.select 0)).billboardID = some 1
    rw [step_select rfl displayed]
    rfl
  have behind : ¬ removed.Tracks := not_tracks_delete linked (by decide) tracks id
  have distinct : DistinctIds removed.table2.rows := by
    show DistinctIds (selected.step (.press .delete noFailure)).table2.rows
    rw [rows_delete id]
    exact DistinctIds.removeRow ⟨[1, 2], linked.rows, by decide⟩ _
  constructor
  · intro always
    exact behind (always _ [.press .delete noFailure] _ rfl reach)
  · intro everyStep
    refine behind ((deletesSent_iff_tracks distinct).mp ?_)
    exact everyStep _ _ [] removed _ rfl reach ⟨fun _ => rfl, rfl⟩

end Billboard
