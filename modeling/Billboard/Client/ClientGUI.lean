import Billboard.Client.Swing

/-!
# `clientGUI`

The state of the window after its constructor and its listeners, each as code over this state.

An exception that escapes a listener is printed by the event dispatch thread; what the listener had
done before it stays done.  So the effect of an event is `Act.after` of its listeners.

Which of the writes of a handler fail is a parameter of the button press.
-/

namespace Billboard

open Java

/-! ## State -/

/-- The writes of a handler that sends a request. -/
inductive Write
  | tag
  | flushTag
  | object
  | flushObject
  deriving DecidableEq

/-- The fields of `clientGUI` and what it has written to the server. -/
structure Client where
  table2 : JTable
  billboardID : Option Int32
  selectedRow : ℤ
  rowToEdit : ℤ
  text : TextArea → Text
  /-- `EditBbID.isEditable()`. -/
  idEditable : Bool
  selectedTab : Tab
  /-- How often the dialog `Success` has been shown. -/
  successes : ℕ
  sent : List Item

/-- The window when its constructor returns: it has sent `showTable` and displays the reply. -/
def Client.start (reply : DataArray) : Client where
  table2 := ⟨reply.data, Equiv.refl _, none⟩
  billboardID := none
  selectedRow := 0
  rowToEdit := 0
  text _ := []
  idEditable := true
  selectedTab := .view
  successes := 0
  sent := Request.showTable.items

/-! ## Components -/

/-- `area.getText()`. -/
def getText (area : TextArea) : Act Client Text := do
  let c ← get
  Act.call (!area.bound) .nullPointer
  pure (c.text area)

/-- `area.setText(s)`. -/
def setText (area : TextArea) (s : Text) : Act Client Unit := do
  Act.call (!area.bound) .nullPointer
  modify fun c => { c with text := Function.update c.text area s }

/-- `table2.getModel().getValueAt(row, column)`. -/
def getValueAt (row : ℤ) (column : Fin 8) : Act Client JObject := do
  let c ← get
  Act.orThrow .arrayIndex (TableModel.getValueAt c.table2.rows row column)

/-- `Integer.parseInt(o.toString())`. -/
def parseCell (o : JObject) : Act Client Int32 := do
  let s ← Act.orThrow .nullPointer o.toString
  Act.orThrow .numberFormat (parseInt s)

def setRows (rows : List TableRow) : Act Client Unit :=
  modify fun c => { c with table2 := { c.table2 with rows := rows } }

def showSuccess : Act Client Unit :=
  modify fun c => { c with successes := c.successes + 1 }

def setSelectedIndex (tab : Tab) : Act Client Unit :=
  modify fun c => { c with selectedTab := tab }

/-! ## Listeners of the table -/

/-- `valueChanged` of the selection listener. -/
def valueChanged : Act Client Unit := do
  let c ← get
  match c.table2.selectedRow with
  | none => pure ()
  | some i =>
      let cell ← Act.orThrow .arrayIndex (c.table2.getValueAt i 0)
      let k ← parseCell cell
      modify fun c => { c with billboardID := some k }
      modify fun c => { c with selectedRow := i }

/-- A new selection; the listener is called if it differs from the old one. -/
def changeSelection (selection : Option ℕ) : Act Client Unit := do
  let c ← get
  modify fun c => { c with table2 := { c.table2 with selectedRow := selection } }
  if selection ≠ c.table2.selectedRow then valueChanged

/-- `tableChanged` of the table model listener. -/
def tableChanged (firstRow : ℤ) : Act Client Unit := do
  let cell ← getValueAt firstRow 0
  let _ ← parseCell cell

/-- `setValueAt` of the model, which then calls its listeners. -/
def setValueAt (value : JObject) (row : ℤ) (column : Fin 8) : Act Client Unit := do
  let c ← get
  let rows ← Act.orThrow .arrayIndex (TableModel.setValueAt c.table2.rows value row column)
  setRows rows
  tableChanged row

/-- `removeRow` of the model.  Its listeners are called with the last registered one first, so the
table itself adjusts its selection only if the listener of the window completes. -/
def removeRow (row : ℤ) : Act Client Unit := do
  let c ← get
  let rows ← Act.orThrow .arrayIndex (TableModel.removeRow c.table2.rows row)
  setRows rows
  tableChanged row
  changeSelection (selectionAfterRemoval row.toNat c.table2.selectedRow)

/-! ## Writing to the server -/

/-- `oos.writeUTF(requestType); oos.flush()`.  A text that cannot be written leaves nothing on the
stream, and one whose flush fails stays on it. -/
def writeUTF (fails : Write → Bool) (requestType : Text) : Act Client Unit := do
  Act.call (fails .tag) .io
  modify fun c => { c with sent := c.sent ++ [.utf requestType] }
  Act.call (fails .flushTag) .io

/-- `oos.writeObject(p); oos.flush()`.  An object that cannot be written is taken to leave nothing
on the stream.  `ObjectOutputStream` promises no such thing: it leaves the stream in a state that it
does not specify, and tries to put a record of the exception on it. -/
def writeObject (fails : Write → Bool) (p : Payload) : Act Client Unit := do
  Act.call (fails .object) .io
  modify fun c => { c with sent := c.sent ++ [.object p] }
  Act.call (fails .flushObject) .io

/-! ## Listeners of the buttons -/

def deleteButton1 (fails : Write → Bool) : Act Client Unit :=
  Act.catching Throwable.isIOException do
    writeUTF fails "delete".toList
    -- the parameter of `Delete` is an `int`: a `null` is unboxed before the check below
    let deleteTable ← Act.orThrow .nullPointer (← get).billboardID
    writeObject fails (.delete ⟨deleteTable⟩)
    if (← get).billboardID ≠ none then
      removeRow (← get).selectedRow

def editButton1 : Act Client Unit := do
  let selectedRow := (← get).selectedRow
  let billboardId ← Act.orThrow .nullPointer (← getValueAt selectedRow 0).toString
  let billboardName ← Act.orThrow .classCast (← getValueAt selectedRow 1).asString
  let billboardMessage ← Act.orThrow .classCast (← getValueAt selectedRow 2).asString
  let billboardInformation ← Act.orThrow .classCast (← getValueAt selectedRow 3).asString
  let billboardUrl ← Act.orThrow .classCast (← getValueAt selectedRow 4).asString
  setText .editBbID billboardId
  modify fun c => { c with idEditable := false }
  -- `setText(null)` clears a text area
  setText .editBbName (billboardName.getD [])
  setText .editMsg (billboardMessage.getD [])
  setText .editInfo (billboardInformation.getD [])
  setText .editLink (billboardUrl.getD [])
  modify fun c => { c with rowToEdit := selectedRow }
  setSelectedIndex .editBillboards

def editUpdateButton (fails : Write → Bool) : Act Client Unit := do
  let billboardId ← Act.orThrow .numberFormat (parseInt (← getText .editBbID))
  let billboardName ← getText .editBbName
  let billboardMessage ← getText .editMsg
  let billboardInformation ← getText .editInfo
  let billboardUrl ← getText .editLink
  Act.catching Throwable.isIOException do
    writeUTF fails "editTable".toList
    writeObject fails (.edit
      ⟨billboardId, billboardName, billboardMessage, billboardInformation, billboardUrl⟩)
    let rowToEdit := (← get).rowToEdit
    setValueAt (.int billboardId) rowToEdit 0
    setValueAt (.str billboardName) rowToEdit 1
    setValueAt (.str billboardMessage) rowToEdit 2
    setValueAt (.str billboardInformation) rowToEdit 3
    setValueAt (.str billboardUrl) rowToEdit 4
    modify fun c => { c with rowToEdit := -1 }
  setText .editBbName []
  setText .editMsg []
  setText .editInfo []
  setText .editLink []
  setText .editBbID []
  showSuccess
  setSelectedIndex .view

def submitButton (fails : Write → Bool) : Act Client Unit :=
  Act.catching Throwable.isIOException do
    let billboardName ← getText .createBillboardName
    let msg ← getText .createMsg
    let info ← getText .createInfo
    let url ← getText .textArea4
    writeUTF fails "addBillboard".toList
    writeObject fails (.add ⟨billboardName, msg, info, url⟩)
    showSuccess

def scheduleSubmitButton (fails : Write → Bool) : Act Client Unit :=
  Act.catching Throwable.isIOException do
    let billboardId ← getText .scheduleID
    let scheduledDate ← getText .sceduledDate
    let startTime ← getText .scheduleStartTime
    let endTime ← getText .scheduleEndTime
    writeUTF fails "addView".toList
    writeObject fails (.add ⟨billboardId, scheduledDate, startTime, endTime⟩)
    setText .scheduleID []
    setText .sceduledDate []
    setText .scheduleStartTime []
    setText .scheduleEndTime []
    showSuccess

/-! ## Events -/

inductive Button
  | delete
  | edit
  | update
  | submit
  | scheduleSubmit
  deriving DecidableEq

/-- What the user does. -/
inductive Event
  | select (row : ℕ)
  | clearSelection
  | type (area : TextArea) (s : Text)
  | editCell (row : ℕ) (column : Fin 8) (s : Text)
  | arrangeColumns (columns : Equiv.Perm (Fin 8))
  | press (button : Button) (fails : Write → Bool)

/-- The listener of a button. -/
def Button.listener (fails : Write → Bool) : Button → Act Client Unit
  | .delete => deleteButton1 fails
  | .edit => editButton1
  | .update => editUpdateButton fails
  | .submit => submitButton fails
  | .scheduleSubmit => scheduleSubmitButton fails

/-- Whether the user can type into a text area: it is shown, and the id only while it is
editable. -/
def Client.editable (c : Client) (area : TextArea) : Bool :=
  area.bound && (area ≠ .editBbID || c.idEditable)

/-- What an event runs.  A row that is not displayed cannot be selected or edited. -/
def Event.act : Event → Act Client Unit
  | .select row => do
      let c ← get
      if row < c.table2.rows.length then changeSelection (some row)
  | .clearSelection => changeSelection none
  | .type area s => do
      let c ← get
      if c.editable area then setText area s
  | .editCell row column s => do
      let c ← get
      if row < c.table2.rows.length then setValueAt (.str s) row (c.table2.columns column)
  | .arrangeColumns columns =>
      modify fun c => { c with table2 := { c.table2 with columns := columns } }
  | .press button fails => button.listener fails

/-- The state after an event. -/
def Client.step (c : Client) (e : Event) : Client :=
  e.act.after c

end Billboard
