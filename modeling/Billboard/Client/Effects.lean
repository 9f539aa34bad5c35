import Billboard.Client.ClientGUI

/-!
# What the listeners do

One lemma for each listener on what it sends and, where the table matters, on the state it leaves.
A listener changes the rest of the state not at all: the frame lemmas say which parts.
-/

namespace Billboard

open Java

/-! ## What the parts of a listener leave alone -/

section

variable {γ : Type} {g : Client → γ}

lemma keeps_setText (area : TextArea) (s : Text)
    (h : ∀ c text, g { c with text := text } = g c) : Act.Keeps g (setText area s) :=
  .bind (.call _ _) fun _ => .modify fun c => h c _

lemma keeps_getValueAt (row : ℤ) (column : Fin 8) : Act.Keeps g (getValueAt row column) :=
  .bind .get fun _ => .orThrow _ _

lemma keeps_parseCell (o : JObject) : Act.Keeps g (parseCell o) :=
  .bind (.orThrow _ _) fun _ => .orThrow _ _

lemma keeps_tableChanged (row : ℤ) : Act.Keeps g (tableChanged row) :=
  .bind (keeps_getValueAt _ _) fun _ => .bind (keeps_parseCell _) fun _ => .pure _

lemma keeps_valueChanged (billboardID : ∀ c b, g { c with billboardID := b } = g c)
    (selectedRow : ∀ c i, g { c with selectedRow := i } = g c) : Act.Keeps g valueChanged := by
  refine .bind .get fun c => ?_
  split
  · exact .pure _
  · exact .bind (.orThrow _ _) fun _ => .bind (keeps_parseCell _) fun _ =>
      .bind (.modify fun c => billboardID c _) fun _ => .modify fun c => selectedRow c _

lemma keeps_changeSelection (selection : Option ℕ)
    (billboardID : ∀ c b, g { c with billboardID := b } = g c)
    (selectedRow : ∀ c i, g { c with selectedRow := i } = g c)
    (table2 : ∀ c i, g { c with table2 := { c.table2 with selectedRow := i } } = g c) :
    Act.Keeps g (changeSelection selection) := by
  refine .bind .get fun c => .bind (.modify fun c => table2 c _) fun _ => ?_
  split
  · exact keeps_valueChanged billboardID selectedRow
  · exact .pure _

lemma keeps_setValueAt (value : JObject) (row : ℤ) (column : Fin 8)
    (rows : ∀ c rows, g { c with table2 := { c.table2 with rows := rows } } = g c) :
    Act.Keeps g (setValueAt value row column) := by
  refine .bind .get fun c => ?_
  refine .bind (.orThrow _ _) fun changed => ?_
  exact .bind (.modify fun c => rows c changed) fun _ => keeps_tableChanged _

lemma keeps_removeRow (row : ℤ) (table2 : ∀ c t, g { c with table2 := t } = g c)
    (billboardID : ∀ c b, g { c with billboardID := b } = g c)
    (selectedRow : ∀ c i, g { c with selectedRow := i } = g c) : Act.Keeps g (removeRow row) := by
  refine .bind .get fun c => ?_
  refine .bind (.orThrow _ _) fun rows => ?_
  refine .bind (.modify fun c => table2 c _) fun _ => ?_
  refine .bind (keeps_tableChanged _) fun _ => ?_
  exact keeps_changeSelection _ billboardID selectedRow fun c _ => table2 c _

end

/-! ## Writing -/

/-- Every write succeeds. -/
def noFailure : Write → Bool :=
  fun _ => false

/-- The window after it has written items. -/
def Client.writing (c : Client) (items : List Item) : Client :=
  { c with sent := c.sent ++ items }

lemma run_writeUTF_of_ok {fails : Write → Bool} (tag : fails .tag = false)
    (flushTag : fails .flushTag = false) (s : Text) (c : Client) :
    (writeUTF fails s).run c = .ok () (c.writing [.utf s]) := by
  simp [writeUTF, tag, flushTag, Client.writing]

@[simp] lemma run_writeUTF (s : Text) (c : Client) :
    (writeUTF noFailure s).run c = .ok () (c.writing [.utf s]) :=
  run_writeUTF_of_ok rfl rfl s c

@[simp] lemma run_writeObject (p : Payload) (c : Client) :
    (writeObject noFailure p).run c = .ok () (c.writing [.object p]) := by
  simp [writeObject, noFailure, Client.writing]

@[simp] lemma writing_writing (c : Client) (xs ys : List Item) :
    (c.writing xs).writing ys = c.writing (xs ++ ys) := by
  simp [Client.writing]

@[simp] lemma run_getText {area : TextArea} (bound : area.bound = true) (c : Client) :
    (getText area).run c = .ok (c.text area) c := by
  simp [getText, bound]

@[simp] lemma run_setText {area : TextArea} (bound : area.bound = true) (s : Text) (c : Client) :
    (setText area s).run c = .ok () { c with text := Function.update c.text area s } := by
  simp [setText, bound]

lemma run_getText_null {area : TextArea} (unbound : area.bound = false) (c : Client) :
    (getText area).run c = .error .nullPointer c := by
  simp [getText, unbound]

/-! ## The create form -/

/-- `textArea4` is `null`, so the handler ends before it writes anything. -/
theorem step_submit (c : Client) (fails : Write → Bool) :
    c.step (.press .submit fails) = c := by
  rw [Client.step, Event.act, Button.listener, submitButton, Act.after_catching,
    Act.after_bind_of_ok (run_getText rfl c), Act.after_bind_of_ok (run_getText rfl c),
    Act.after_bind_of_ok (run_getText rfl c), Act.after_bind_of_error (run_getText_null rfl c)]

/-! ## The schedule form -/

/-- The `Add` that the schedule form stands for. -/
def Client.addview (c : Client) : Add :=
  ⟨c.text .scheduleID, c.text .sceduledDate, c.text .scheduleStartTime, c.text .scheduleEndTime⟩

/-- A sent schedule clears its form. -/
def Client.scheduled (c : Client) : Client :=
  { c.writing (Request.addView c.addview).items with
    text := Function.update (Function.update (Function.update (Function.update c.text
      .scheduleID []) .sceduledDate []) .scheduleStartTime []) .scheduleEndTime []
    successes := c.successes + 1 }

theorem step_scheduleSubmit (c : Client) :
    c.step (.press .scheduleSubmit noFailure) = c.scheduled := by
  rw [Client.step, Event.act, Button.listener, scheduleSubmitButton, Act.after_catching,
    Act.after_bind_of_ok (run_getText rfl c), Act.after_bind_of_ok (run_getText rfl c),
    Act.after_bind_of_ok (run_getText rfl c), Act.after_bind_of_ok (run_getText rfl c),
    Act.after_bind_of_ok (run_writeUTF _ _), Act.after_bind_of_ok (run_writeObject _ _),
    Act.after_bind_of_ok (run_setText rfl _ _), Act.after_bind_of_ok (run_setText rfl _ _),
    Act.after_bind_of_ok (run_setText rfl _ _), Act.after_bind_of_ok (run_setText rfl _ _),
    writing_writing]
  rfl

/-! ## Deleting -/

/-- Without a selected id the tag is written and the payload is not. -/
theorem step_delete_none {c : Client} (h : c.billboardID = none) :
    c.step (.press .delete noFailure) = c.writing [.utf "delete".toList] := by
  rw [Client.step, Event.act, Button.listener, deleteButton1, Act.after_catching,
    Act.after_bind_of_ok (run_writeUTF _ _), Act.after_bind_of_ok (Act.run_get _),
    show (c.writing [.utf "delete".toList]).billboardID = none from h,
    Act.after_bind_of_error (Act.run_orThrow_none _ _)]

/-- Otherwise the request is sent, and then the remembered row is to be removed. -/
lemma run_delete {c : Client} {k : Int32} (h : c.billboardID = some k) :
    (deleteButton1 noFailure).run c
      = (Act.catching Throwable.isIOException (removeRow c.selectedRow)).run
          (c.writing (Request.delete ⟨k⟩).items) := by
  have id : ∀ items, (c.writing items).billboardID = some k := fun _ => h
  rw [deleteButton1, Act.run_catching, Act.run_catching,
    Act.run_bind_of_ok (run_writeUTF _ _), Act.run_bind_of_ok (Act.run_get _), id,
    Act.run_bind_of_ok (Act.run_orThrow_some _ _ _),
    Act.run_bind_of_ok (run_writeObject _ _), writing_writing,
    Act.run_bind_of_ok (Act.run_get _), id, if_pos (by simp), Act.run_bind_of_ok (Act.run_get _)]
  rfl

/-- The request is sent and the remembered row removed. -/
theorem step_delete_some {c : Client} {k : Int32} (h : c.billboardID = some k) :
    c.step (.press .delete noFailure)
      = (removeRow c.selectedRow).after (c.writing (Request.delete ⟨k⟩).items) := by
  rw [Client.step, Event.act, Button.listener, Act.after, run_delete h]
  exact Act.after_catching _ _ _

/-! ## Editing -/

/-- The texts of the edit form. -/
structure EditForm where
  id : Text
  name : Text
  msg : Text
  info : Text
  link : Text

/-- The form that a displayed row fills: its columns in order. -/
def formOfRow (r : TableRow) : Option EditForm := do
  let id ← (r 0).toString
  let name ← (r 1).asString
  let msg ← (r 2).asString
  let info ← (r 3).asString
  let link ← (r 4).asString
  some ⟨id, name.getD [], msg.getD [], info.getD [], link.getD []⟩

/-- The window after a row has been taken into the form. -/
def Client.editing (c : Client) (form : EditForm) : Client :=
  { c with
    text := Function.update (Function.update (Function.update (Function.update (Function.update
      c.text .editBbID form.id) .editBbName form.name) .editMsg form.msg) .editInfo form.info)
      .editLink form.link
    idEditable := false
    rowToEdit := c.selectedRow
    selectedTab := .editBillboards }

lemma run_getValueAt {c : Client} {i : ℤ} {r : TableRow}
    (h : TableModel.row? c.table2.rows i = some r) (column : Fin 8) :
    (getValueAt i column).run c = .ok (r column) c := by
  simp [getValueAt, TableModel.getValueAt_of_row h]

theorem step_edit (c : Client) (fails : Write → Bool) :
    c.step (.press .edit fails)
      = match (TableModel.row? c.table2.rows c.selectedRow).bind formOfRow with
        | some form => c.editing form
        | none => c := by
  rw [Client.step, Event.act, Button.listener, editButton1, Act.after_bind_of_ok (Act.run_get c)]
  cases h : TableModel.row? c.table2.rows c.selectedRow with
  | none =>
      have missing : (getValueAt c.selectedRow 0).run c = .error .arrayIndex c := by
        simp [getValueAt, TableModel.getValueAt, h]
      rw [Act.after_bind_of_error missing]
      rfl
  | some r =>
      rw [Act.after_bind_of_ok (run_getValueAt h 0), Option.bind_some, formOfRow]
      cases (r 0).toString with
      | none => rfl
      | some id =>
      rw [Act.after_bind_of_ok (Act.run_orThrow_some _ _ _),
        Act.after_bind_of_ok (run_getValueAt h 1)]
      cases (r 1).asString with
      | none => rfl
      | some name =>
      rw [Act.after_bind_of_ok (Act.run_orThrow_some _ _ _),
        Act.after_bind_of_ok (run_getValueAt h 2)]
      cases (r 2).asString with
      | none => rfl
      | some msg =>
      rw [Act.after_bind_of_ok (Act.run_orThrow_some _ _ _),
        Act.after_bind_of_ok (run_getValueAt h 3)]
      cases (r 3).asString with
      | none => rfl
      | some info =>
      rw [Act.after_bind_of_ok (Act.run_orThrow_some _ _ _),
        Act.after_bind_of_ok (run_getValueAt h 4)]
      cases (r 4).asString with
      | none => rfl
      | some link => rfl

/-! ## Updating -/

/-- The `Edit` that the edit form stands for. -/
def Client.editData (c : Client) (billboardId : Int32) : Edit :=
  ⟨billboardId, c.text .editBbName, c.text .editMsg, c.text .editInfo, c.text .editLink⟩

/-- A displayed row after an update, which leaves the columns of the schedule. -/
def editedRow (e : Edit) (r : TableRow) : TableRow :=
  ![.int e.id, .str e.query1, .str e.query2, .str e.query3, .str e.query4, r 5, r 6, r 7]

/-- A window whose row at index `n` is another one. -/
def Client.withRow (c : Client) (n : ℕ) (r : TableRow) : Client :=
  { c with table2 := { c.table2 with rows := c.table2.rows.set n r } }

/-- The window after Update has left its `try` statement: the form is cleared and success
announced. -/
def Client.dismissed (c : Client) : Client :=
  { c with
    text := Function.update (Function.update (Function.update (Function.update (Function.update
      c.text .editBbName []) .editMsg []) .editInfo []) .editLink []) .editBbID []
    successes := c.successes + 1
    selectedTab := .view }

/-- The window after an update has gone through. -/
def Client.cleared (c : Client) : Client :=
  { c.dismissed with rowToEdit := -1 }

/-- The statements of Update inside its `try`. -/
def tryUpdate (fails : Write → Bool) (e : Edit) : Act Client Unit := do
  writeUTF fails "editTable".toList
  writeObject fails (.edit e)
  let rowToEdit := (← get).rowToEdit
  setValueAt (.int e.id) rowToEdit 0
  setValueAt (.str e.query1) rowToEdit 1
  setValueAt (.str e.query2) rowToEdit 2
  setValueAt (.str e.query3) rowToEdit 3
  setValueAt (.str e.query4) rowToEdit 4
  modify fun c => { c with rowToEdit := -1 }

/-- The statements after it. -/
def dismissForm : Act Client Unit := do
  setText .editBbName []
  setText .editMsg []
  setText .editInfo []
  setText .editLink []
  setText .editBbID []
  showSuccess
  setSelectedIndex .view

@[simp] lemma withRow_withRow (c : Client) (n : ℕ) (r r' : TableRow) :
    (c.withRow n r).withRow n r' = c.withRow n r' := by
  simp [Client.withRow]

lemma rowID_editedRow (e : Edit) (r : TableRow) : rowID (editedRow e r) = some e.id :=
  parseInt_decimal e.id

lemma run_parseCell {o : JObject} {k : Int32} (h : o.toString.bind parseInt = some k)
    (c : Client) : (parseCell o).run c = .ok k c := by
  obtain ⟨s, hs, hk⟩ := Option.bind_eq_some_iff.mp h
  simp [parseCell, hs, hk]

/-- The listener of the model completes where column 0 of the row displays an integer. -/
lemma run_tableChanged {c : Client} {i : ℤ} {r : TableRow} {k : Int32}
    (h : TableModel.row? c.table2.rows i = some r) (id : rowID r = some k) :
    (tableChanged i).run c = .ok () c := by
  rw [tableChanged, Act.run_bind_of_ok (run_getValueAt h 0),
    Act.run_bind_of_ok (run_parseCell id c)]
  rfl

/-- The window with other rows, of which no listener knows yet. -/
def Client.withRows (c : Client) (rows : List TableRow) : Client :=
  { c with table2 := { c.table2 with rows := rows } }

/-- Where there is such a row, the rows are replaced and the listener called. -/
lemma run_setValueAt_some {c : Client} {i : ℤ} {value : JObject} {column : Fin 8}
    {rows : List TableRow} (set : TableModel.setValueAt c.table2.rows value i column = some rows) :
    (setValueAt value i column).run c = (tableChanged i).run (c.withRows rows) := by
  rw [setValueAt, Act.run_bind_of_ok (Act.run_get c), set,
    Act.run_bind_of_ok (Act.run_orThrow_some _ _ _)]
  exact Act.run_bind_of_ok rfl

/-- A cell is set where its row exists and still displays an integer in column 0. -/
lemma run_setValueAt {c : Client} {n : ℕ} {r : TableRow} {value : JObject} {column : Fin 8}
    {k : Int32} (h : c.table2.rows[n]? = some r)
    (id : rowID (Function.update r column value) = some k) :
    (setValueAt value n column).run c = .ok () (c.withRow n (Function.update r column value)) := by
  have set : TableModel.setValueAt c.table2.rows value n column
      = some (c.table2.rows.set n (Function.update r column value)) := by
    simp [TableModel.setValueAt, h]
  have here : TableModel.row? (c.withRow n (Function.update r column value)).table2.rows n
      = some (Function.update r column value) := by
    simp [Client.withRow, (List.getElem?_eq_some_iff.mp h).1]
  rw [run_setValueAt_some set]
  exact run_tableChanged here id

lemma run_setValueAt_missing {c : Client} {i : ℤ} (h : TableModel.row? c.table2.rows i = none)
    (value : JObject) (column : Fin 8) :
    (setValueAt value i column).run c = .error .arrayIndex c := by
  rw [setValueAt, Act.run_bind_of_ok (Act.run_get c), TableModel.setValueAt_eq_none h,
    Act.run_bind_of_error (Act.run_orThrow_none _ _)]

/-- Where there is such a row, it is removed, and the listener of the window is called before the
table adjusts its selection. -/
lemma run_removeRow_some {c : Client} {i : ℤ} {rows : List TableRow}
    (removed : TableModel.removeRow c.table2.rows i = some rows) :
    (removeRow i).run c
      = (do
          tableChanged i
          changeSelection (selectionAfterRemoval i.toNat c.table2.selectedRow)).run
            (c.withRows rows) := by
  rw [removeRow, Act.run_bind_of_ok (Act.run_get c), removed,
    Act.run_bind_of_ok (Act.run_orThrow_some _ _ _)]
  exact Act.run_bind_of_ok rfl

lemma run_removeRow_missing {c : Client} {i : ℤ}
    (missing : TableModel.removeRow c.table2.rows i = none) :
    (removeRow i).run c = .error .arrayIndex c := by
  rw [removeRow, Act.run_bind_of_ok (Act.run_get c), missing,
    Act.run_bind_of_error (Act.run_orThrow_none _ _)]

lemma withRow_getElem {c : Client} {n : ℕ} {r : TableRow} (h : c.table2.rows[n]? = some r)
    (r' : TableRow) : (c.withRow n r').table2.rows[n]? = some r' := by
  simp [Client.withRow, (List.getElem?_eq_some_iff.mp h).1]

/-- Setting the columns one after the other; `rest` is what follows. -/
lemma run_setColumns {c : Client} {n : ℕ} {r : TableRow} (e : Edit)
    (h : c.table2.rows[n]? = some r) (rest : Act Client Unit) :
    (do
      setValueAt (.int e.id) n 0
      setValueAt (.str e.query1) n 1
      setValueAt (.str e.query2) n 2
      setValueAt (.str e.query3) n 3
      setValueAt (.str e.query4) n 4
      rest).run c = rest.run (c.withRow n (editedRow e r)) := by
  have id : ∀ r : TableRow, r 0 = .int e.id → rowID r = some e.id := fun r hr => by
    rw [rowID, hr]
    exact parseInt_decimal e.id
  rw [Act.run_bind_of_ok (run_setValueAt h (id _ rfl)),
    Act.run_bind_of_ok (run_setValueAt (withRow_getElem h _) (id _ rfl)), withRow_withRow,
    Act.run_bind_of_ok (run_setValueAt (withRow_getElem h _) (id _ rfl)), withRow_withRow,
    Act.run_bind_of_ok (run_setValueAt (withRow_getElem h _) (id _ rfl)), withRow_withRow,
    Act.run_bind_of_ok (run_setValueAt (withRow_getElem h _) (id _ rfl)), withRow_withRow]
  congr 2
  funext i
  match i with
  | 0 | 1 | 2 | 3 | 4 | 5 | 6 | 7 => rfl

/-- An id that is no integer: nothing happens. -/
theorem step_update_nan {c : Client} (h : parseInt (c.text .editBbID) = none)
    (fails : Write → Bool) : c.step (.press .update fails) = c := by
  rw [Client.step, Event.act, Button.listener, editUpdateButton,
    Act.after_bind_of_ok (run_getText rfl c), h, Act.after_bind_of_error (Act.run_orThrow_none _ _)]

/-- Otherwise the texts of the form are read. -/
lemma run_editUpdateButton {c : Client} {k : Int32} (h : parseInt (c.text .editBbID) = some k)
    (fails : Write → Bool) :
    (editUpdateButton fails).run c
      = (do
          Act.catching Throwable.isIOException (tryUpdate fails (c.editData k))
          dismissForm).run c := by
  rw [editUpdateButton, Act.run_bind_of_ok (run_getText rfl c), h,
    Act.run_bind_of_ok (Act.run_orThrow_some _ _ _), Act.run_bind_of_ok (run_getText rfl c),
    Act.run_bind_of_ok (run_getText rfl c), Act.run_bind_of_ok (run_getText rfl c),
    Act.run_bind_of_ok (run_getText rfl c)]
  rfl

lemma run_dismissForm (c : Client) : dismissForm.run c = .ok () c.dismissed := by
  rw [dismissForm, Act.run_bind_of_ok (run_setText rfl _ _),
    Act.run_bind_of_ok (run_setText rfl _ _), Act.run_bind_of_ok (run_setText rfl _ _),
    Act.run_bind_of_ok (run_setText rfl _ _), Act.run_bind_of_ok (run_setText rfl _ _)]
  rfl

/-- Where the row at `rowToEdit` exists, the request is sent and the row overwritten. -/
lemma run_update {c : Client} {k : Int32} {r : TableRow}
    (h : parseInt (c.text .editBbID) = some k)
    (row : TableModel.row? c.table2.rows c.rowToEdit = some r) :
    (editUpdateButton noFailure).run c
      = .ok () ((c.writing (Request.editTable (c.editData k)).items).withRow
          c.rowToEdit.toNat (editedRow (c.editData k) r)).cleared := by
  obtain ⟨n, hn, hr⟩ := TableModel.row?_eq_some row
  let sent := c.writing (Request.editTable (c.editData k)).items
  let updated : Client := { sent.withRow n (editedRow (c.editData k) r) with rowToEdit := -1 }
  have run : (tryUpdate noFailure (c.editData k)).run c = .ok () updated := by
    rw [tryUpdate, Act.run_bind_of_ok (run_writeUTF _ _), Act.run_bind_of_ok (run_writeObject _ _),
      writing_writing, Act.run_bind_of_ok (Act.run_get _)]
    have target : ∀ items, (c.writing items).rowToEdit = n := fun _ => hn
    have here : ∀ items, (c.writing items).table2.rows[n]? = some r := fun _ => hr
    simp only [target]
    exact (run_setColumns (c.editData k) (here _) _).trans rfl
  rw [run_editUpdateButton h, Act.run_bind_of_ok (Act.run_catching_of_ok run), run_dismissForm, hn]
  rfl

/-- Where it does not, the request is sent and the exception not caught. -/
lemma run_update_missing {c : Client} {k : Int32} (h : parseInt (c.text .editBbID) = some k)
    (missing : TableModel.row? c.table2.rows c.rowToEdit = none) :
    (editUpdateButton noFailure).run c
      = .error .arrayIndex (c.writing (Request.editTable (c.editData k)).items) := by
  rw [run_editUpdateButton h]
  refine Act.run_bind_of_error (Act.run_catching_of_error (t := .arrayIndex) ?_ rfl)
  rw [tryUpdate, Act.run_bind_of_ok (run_writeUTF _ _), Act.run_bind_of_ok (run_writeObject _ _),
    writing_writing, Act.run_bind_of_ok (Act.run_get _)]
  have missing : ∀ items, TableModel.row? (c.writing items).table2.rows
      (c.writing items).rowToEdit = none := fun _ => missing
  exact Act.run_bind_of_error (run_setValueAt_missing (missing _) _ _)

/-- The request is sent, and the row at `rowToEdit` overwritten if there is one. -/
theorem step_update {c : Client} {k : Int32} (h : parseInt (c.text .editBbID) = some k) :
    c.step (.press .update noFailure)
      = match TableModel.row? c.table2.rows c.rowToEdit with
        | some r => ((c.writing (Request.editTable (c.editData k)).items).withRow
            c.rowToEdit.toNat (editedRow (c.editData k) r)).cleared
        | none => c.writing (Request.editTable (c.editData k)).items := by
  rw [Client.step, Event.act, Button.listener]
  cases row : TableModel.row? c.table2.rows c.rowToEdit with
  | none => exact Act.after_eq_of_error (run_update_missing h row)
  | some r => exact Act.after_eq_of_ok (run_update h row)

end Billboard
