import Billboard.Client.Rows
import Billboard.Library.Runs

/-!
# The ids a window can name

A window learns ids from its table, which it has read once, and from what the user types: in the
edit form as long as it lets the id be typed, and in the cells of the table.  `Within ids` is the
invariant that all it knows, and all it has sent in a Delete or an Update, is among `ids`.

* `within_step` — every event that names no other id keeps this, whichever of its writes fail and
  wherever in a handler an exception is thrown.
-/

namespace Billboard

open Java Runs

variable {ids : List Int32}

/-! ## The invariant -/

/-- The text names no other id: it is one of these, or no integer. -/
def Names (ids : List Int32) (s : Text) : Prop :=
  ∀ k, parseInt s = some k → k ∈ ids

/-- What a cell of column 0 may hold. -/
def CellWithin (ids : List Int32) (o : JObject) : Prop :=
  ∀ s, o.toString = some s → Names ids s

/-- What may be sent. -/
def ItemWithin (ids : List Int32) : Item → Prop
  | .object (.delete d) => d.billboardID ∈ ids
  | .object (.edit e) => e.id ∈ ids
  | _ => True

/-- The window knows no id but these. -/
structure Within (ids : List Int32) (c : Client) : Prop where
  rows : ∀ r ∈ c.table2.rows, CellWithin ids (r 0)
  /-- The first column shows the ids. -/
  first : c.table2.columns 0 = 0
  billboardID : ∀ k, c.billboardID = some k → k ∈ ids
  form : Names ids (c.text .editBbID)
  sent : ∀ i ∈ c.sent, ItemWithin ids i

/-- What an event may bring in. -/
def Confined (ids : List Int32) : Event → Prop
  | .type .editBbID s => Names ids s
  | .editCell _ column s => column = 0 → Names ids s
  | .arrangeColumns columns => columns 0 = 0
  | _ => True

/-! ## Cells -/

lemma names_nil : Names ids [] := by
  intro k h
  rw [parseInt_nil] at h
  cases h

lemma cellWithin_int {k : Int32} (h : k ∈ ids) : CellWithin ids (.int k) := by
  rintro _ ⟨rfl⟩ k' parsed
  rw [parseInt_decimal] at parsed
  exact Option.some.inj parsed ▸ h

lemma cellWithin_str {s : Text} (h : Names ids s) : CellWithin ids (.str s) := by
  rintro _ ⟨rfl⟩
  exact h

/-- A cell of column 0 of the model. -/
lemma within_getValueAt {rows : List TableRow} (within : ∀ r ∈ rows, CellWithin ids (r 0)) {i : ℤ}
    {o : JObject} (h : TableModel.getValueAt rows i 0 = some o) : CellWithin ids o := by
  obtain ⟨r, row, rfl⟩ := Option.map_eq_some_iff.mp h
  obtain ⟨n, -, here⟩ := TableModel.row?_eq_some row
  exact within r (List.mem_of_getElem? here)

/-- Setting a cell of column 0 to one that names no other id, or another cell to any object. -/
lemma within_setValueAt {rows rows' : List TableRow} (within : ∀ r ∈ rows, CellWithin ids (r 0))
    {value : JObject} {i : ℤ} {column : Fin 8} (cell : column = 0 → CellWithin ids value)
    (h : TableModel.setValueAt rows value i column = some rows') :
    ∀ r ∈ rows', CellWithin ids (r 0) := by
  cases i with
  | negSucc n => cases h
  | ofNat n =>
      obtain ⟨r, here, rfl⟩ := Option.map_eq_some_iff.mp h
      intro r' hr'
      rcases List.mem_or_eq_of_mem_set hr' with old | rfl
      · exact within r' old
      · by_cases first : column = 0
        · rw [first, Function.update_self]
          exact cell first
        · rw [Function.update_of_ne (Ne.symm first)]
          exact within r (List.mem_of_getElem? here)

lemma within_removeRow {rows rows' : List TableRow} (within : ∀ r ∈ rows, CellWithin ids (r 0))
    {i : ℤ} (h : TableModel.removeRow rows i = some rows') : ∀ r ∈ rows', CellWithin ids (r 0) := by
  cases i with
  | negSucc n => cases h
  | ofNat n =>
      simp only [TableModel.removeRow] at h
      split_ifs at h
      obtain rfl := Option.some.inj h
      exact fun r hr => within r (List.mem_of_mem_eraseIdx hr)

/-! ## Code -/

lemma maintains_setText (area : TextArea) {s : Text} (h : area = .editBbID → Names ids s) :
    Act.Maintains (Within ids) (setText area s) fun _ => True := by
  refine .bind (.call _ _) fun _ _ => .modify fun c within => ⟨within.rows, within.first,
    within.billboardID, ?_, within.sent⟩
  show Names ids (Function.update c.text area s .editBbID)
  by_cases here : area = .editBbID
  · rw [here, Function.update_self]
    exact h here
  · rw [Function.update_of_ne (Ne.symm here)]
    exact within.form

lemma maintains_getText (area : TextArea) :
    Act.Maintains (Within ids) (getText area) fun s => area = .editBbID → Names ids s := by
  refine .bind .get fun c within => .bind (.call _ _) fun _ _ => .pure ?_
  rintro rfl
  exact within.form

lemma maintains_getValueAt (row : ℤ) (column : Fin 8) :
    Act.Maintains (Within ids) (getValueAt row column) fun o => column = 0 → CellWithin ids o := by
  refine .bind .get fun c within => .orThrow fun o cell => ?_
  rintro rfl
  exact within_getValueAt within.rows cell

lemma maintains_parseCell {o : JObject} (h : CellWithin ids o) :
    Act.Maintains (Within ids) (parseCell o) fun k => k ∈ ids :=
  .bind (.orThrow h) fun _ names => .orThrow names

lemma maintains_setRows {rows : List TableRow} (h : ∀ r ∈ rows, CellWithin ids (r 0)) :
    Act.Maintains (Within ids) (setRows rows) fun _ => True :=
  .modify fun _ within => ⟨h, within.first, within.billboardID, within.form, within.sent⟩

lemma maintains_tableChanged (row : ℤ) :
    Act.Maintains (Within ids) (tableChanged row) fun _ => True :=
  .bind (maintains_getValueAt row 0) fun _ cell =>
    .bind (maintains_parseCell (cell rfl)) fun _ _ => .pure trivial

lemma maintains_setValueAt {value : JObject} (row : ℤ) {column : Fin 8}
    (cell : column = 0 → CellWithin ids value) :
    Act.Maintains (Within ids) (setValueAt value row column) fun _ => True := by
  refine .bind .get fun c within => ?_
  refine .bind (.orThrow fun _ set => within_setValueAt within.rows cell set) fun rows known => ?_
  exact .andThen (maintains_setRows known) fun _ => maintains_tableChanged row

lemma maintains_valueChanged : Act.Maintains (Within ids) valueChanged fun _ => True := by
  refine .bind .get fun c within => ?_
  cases c.table2.selectedRow with
  | none => exact .pure trivial
  | some i =>
      have shown : ∀ cell, c.table2.getValueAt i 0 = some cell → CellWithin ids cell := by
        intro cell here
        rw [JTable.getValueAt, within.first] at here
        exact within_getValueAt within.rows here
      refine .bind (.orThrow shown) fun cell known => ?_
      refine .bind (maintains_parseCell known) fun k mem => ?_
      refine .andThen (.modify fun c within => ?_) fun _ => .modify fun c within => ?_
      · refine ⟨within.rows, within.first, ?_, within.form, within.sent⟩
        rintro _ ⟨rfl⟩
        exact mem
      · exact ⟨within.rows, within.first, within.billboardID, within.form, within.sent⟩

lemma maintains_changeSelection (selection : Option ℕ) :
    Act.Maintains (Within ids) (changeSelection selection) fun _ => True := by
  refine .bind .get fun c _ => .bind (.modify fun c within => ?_) fun _ _ => ?_
  · exact ⟨within.rows, within.first, within.billboardID, within.form, within.sent⟩
  · split
    · exact maintains_valueChanged
    · exact .pure trivial

lemma maintains_removeRow (row : ℤ) :
    Act.Maintains (Within ids) (removeRow row) fun _ => True := by
  refine .bind .get fun c within => ?_
  refine .bind (.orThrow fun _ gone => within_removeRow within.rows gone) fun rows known => ?_
  refine .andThen (maintains_setRows known) fun _ => ?_
  exact .andThen (maintains_tableChanged row) fun _ => maintains_changeSelection _

lemma maintains_send {i : Item} (h : ItemWithin ids i) :
    Act.Maintains (Within ids) (modify fun c : Client => { c with sent := c.sent ++ [i] })
      fun _ => True := by
  refine .modify fun c within => ⟨within.rows, within.first, within.billboardID, within.form, ?_⟩
  intro j hj
  rcases List.mem_append.mp hj with old | new
  · exact within.sent j old
  · rw [List.mem_singleton.mp new]
    exact h

lemma maintains_writeUTF (fails : Write → Bool) (requestType : Text) :
    Act.Maintains (Within ids) (writeUTF fails requestType) fun _ => True :=
  .bind (.call _ _) fun _ _ => .bind (maintains_send trivial) fun _ _ => .call _ _

lemma maintains_writeObject (fails : Write → Bool) {p : Payload} (h : ItemWithin ids (.object p)) :
    Act.Maintains (Within ids) (writeObject fails p) fun _ => True :=
  .bind (.call _ _) fun _ _ => .bind (maintains_send h) fun _ _ => .call _ _

/-- A change of the window that is none of its table, its ids and what it has sent. -/
lemma maintains_modify {f : Client → Client} (table2 : ∀ c, (f c).table2 = c.table2)
    (billboardID : ∀ c, (f c).billboardID = c.billboardID) (text : ∀ c, (f c).text = c.text)
    (sent : ∀ c, (f c).sent = c.sent) :
    Act.Maintains (Within ids) (modify f) fun _ => True := by
  refine .modify fun c within => ⟨?_, ?_, ?_, ?_, ?_⟩
  · rw [table2]
    exact within.rows
  · rw [table2]
    exact within.first
  · rw [billboardID]
    exact within.billboardID
  · rw [text]
    exact within.form
  · rw [sent]
    exact within.sent

lemma maintains_setText_other {area : TextArea} (other : area ≠ .editBbID) (s : Text) :
    Act.Maintains (Within ids) (setText area s) fun _ => True :=
  maintains_setText area fun same => absurd same other

lemma maintains_setValueAt_other {column : Fin 8} (other : column ≠ 0) (value : JObject) (row : ℤ) :
    Act.Maintains (Within ids) (setValueAt value row column) fun _ => True :=
  maintains_setValueAt row fun same => absurd same other

/-! ## Listeners -/

lemma maintains_deleteButton1 (fails : Write → Bool) :
    Act.Maintains (Within ids) (deleteButton1 fails) fun _ => True := by
  refine .catching ?_
  refine .andThen (maintains_writeUTF fails _) fun _ => ?_
  refine .bind .get fun c within => ?_
  refine .bind (.orThrow within.billboardID) fun k mem => ?_
  have payload : ItemWithin ids (.object (.delete ⟨k⟩)) := mem
  refine .andThen (maintains_writeObject fails payload) fun _ => ?_
  refine .andThen .get fun c => ?_
  split
  · exact .andThen .get fun _ => maintains_removeRow _
  · exact .pure trivial

lemma maintains_editButton1 : Act.Maintains (Within ids) editButton1 fun _ => True := by
  refine .andThen .get fun c => ?_
  refine .bind (maintains_getValueAt _ 0) fun cell within => ?_
  refine .bind (.orThrow (within rfl)) fun id names => ?_
  -- the other cells are only shown
  refine .andThen (maintains_getValueAt _ 1) fun _ => .andThen (.orThrow_any _ _) fun name => ?_
  refine .andThen (maintains_getValueAt _ 2) fun _ => .andThen (.orThrow_any _ _) fun msg => ?_
  refine .andThen (maintains_getValueAt _ 3) fun _ => .andThen (.orThrow_any _ _) fun info => ?_
  refine .andThen (maintains_getValueAt _ 4) fun _ => .andThen (.orThrow_any _ _) fun link => ?_
  refine .andThen (maintains_setText .editBbID fun _ => names) fun _ => ?_
  have locked : Act.Maintains (Within ids) (modify fun c => { c with idEditable := false })
      fun _ => True := maintains_modify (fun _ => rfl) (fun _ => rfl) (fun _ => rfl) fun _ => rfl
  refine .andThen locked fun _ => ?_
  refine .andThen (maintains_setText_other (by decide) _) fun _ => ?_
  refine .andThen (maintains_setText_other (by decide) _) fun _ => ?_
  refine .andThen (maintains_setText_other (by decide) _) fun _ => ?_
  refine .andThen (maintains_setText_other (by decide) _) fun _ => ?_
  have marked : Act.Maintains (Within ids) (modify fun d => { d with rowToEdit := c.selectedRow })
      fun _ => True := maintains_modify (fun _ => rfl) (fun _ => rfl) (fun _ => rfl) fun _ => rfl
  refine .andThen marked fun _ => ?_
  exact maintains_modify (fun _ => rfl) (fun _ => rfl) (fun _ => rfl) fun _ => rfl

lemma maintains_tryUpdate (fails : Write → Bool) {e : Edit} (mem : e.id ∈ ids) :
    Act.Maintains (Within ids) (tryUpdate fails e) fun _ => True := by
  have payload : ItemWithin ids (.object (.edit e)) := mem
  have cell : CellWithin ids (.int e.id) := cellWithin_int mem
  refine .andThen (maintains_writeUTF fails _) fun _ => ?_
  refine .andThen (maintains_writeObject fails payload) fun _ => ?_
  refine .andThen .get fun c => ?_
  refine .andThen (maintains_setValueAt _ fun _ => cell) fun _ => ?_
  refine .andThen (maintains_setValueAt_other (by decide) _ _) fun _ => ?_
  refine .andThen (maintains_setValueAt_other (by decide) _ _) fun _ => ?_
  refine .andThen (maintains_setValueAt_other (by decide) _ _) fun _ => ?_
  refine .andThen (maintains_setValueAt_other (by decide) _ _) fun _ => ?_
  exact maintains_modify (fun _ => rfl) (fun _ => rfl) (fun _ => rfl) fun _ => rfl

lemma maintains_dismissForm : Act.Maintains (Within ids) dismissForm fun _ => True := by
  refine .andThen (maintains_setText_other (by decide) _) fun _ => ?_
  refine .andThen (maintains_setText_other (by decide) _) fun _ => ?_
  refine .andThen (maintains_setText_other (by decide) _) fun _ => ?_
  refine .andThen (maintains_setText_other (by decide) _) fun _ => ?_
  refine .andThen (maintains_setText .editBbID fun _ => names_nil) fun _ => ?_
  have success : Act.Maintains (Within ids) showSuccess fun _ => True :=
    maintains_modify (fun _ => rfl) (fun _ => rfl) (fun _ => rfl) fun _ => rfl
  refine .andThen success fun _ => ?_
  exact maintains_modify (fun _ => rfl) (fun _ => rfl) (fun _ => rfl) fun _ => rfl

lemma maintains_editUpdateButton (fails : Write → Bool) :
    Act.Maintains (Within ids) (editUpdateButton fails) fun _ => True := by
  refine .bind (maintains_getText .editBbID) fun id names => ?_
  refine .bind (.orThrow (names rfl)) fun k mem => ?_
  refine .andThen (maintains_getText _) fun name => ?_
  refine .andThen (maintains_getText _) fun msg => ?_
  refine .andThen (maintains_getText _) fun info => ?_
  refine .andThen (maintains_getText _) fun link => ?_
  have update : Act.Maintains (Within ids) (tryUpdate fails ⟨k, name, msg, info, link⟩)
      fun _ => True := maintains_tryUpdate fails mem
  exact .andThen (.catching update) fun _ => maintains_dismissForm

lemma maintains_submitButton (fails : Write → Bool) :
    Act.Maintains (Within ids) (submitButton fails) fun _ => True := by
  refine .catching ?_
  refine .andThen (maintains_getText _) fun name => ?_
  refine .andThen (maintains_getText _) fun msg => ?_
  refine .andThen (maintains_getText _) fun info => ?_
  refine .andThen (maintains_getText _) fun url => ?_
  have payload : ItemWithin ids (.object (.add ⟨name, msg, info, url⟩)) := trivial
  refine .andThen (maintains_writeUTF fails _) fun _ => ?_
  refine .andThen (maintains_writeObject fails payload) fun _ => ?_
  exact maintains_modify (fun _ => rfl) (fun _ => rfl) (fun _ => rfl) fun _ => rfl

lemma maintains_scheduleSubmitButton (fails : Write → Bool) :
    Act.Maintains (Within ids) (scheduleSubmitButton fails) fun _ => True := by
  refine .catching ?_
  refine .andThen (maintains_getText _) fun id => ?_
  refine .andThen (maintains_getText _) fun date => ?_
  refine .andThen (maintains_getText _) fun startTime => ?_
  refine .andThen (maintains_getText _) fun endTime => ?_
  have payload : ItemWithin ids (.object (.add ⟨id, date, startTime, endTime⟩)) := trivial
  refine .andThen (maintains_writeUTF fails _) fun _ => ?_
  refine .andThen (maintains_writeObject fails payload) fun _ => ?_
  refine .andThen (maintains_setText_other (by decide) _) fun _ => ?_
  refine .andThen (maintains_setText_other (by decide) _) fun _ => ?_
  refine .andThen (maintains_setText_other (by decide) _) fun _ => ?_
  refine .andThen (maintains_setText_other (by decide) _) fun _ => ?_
  exact maintains_modify (fun _ => rfl) (fun _ => rfl) (fun _ => rfl) fun _ => rfl

/-! ## Events -/

/-- **One event**, whichever of its writes fail. -/
theorem within_step {c : Client} {e : Event} (within : Within ids c) (confined : Confined ids e) :
    Within ids (c.step e) := by
  cases e with
  | select row =>
      refine Act.Maintains.after (Q := fun _ => True) (.andThen .get fun c => ?_) within
      split
      · exact maintains_changeSelection _
      · exact .pure trivial
  | clearSelection => exact (maintains_changeSelection none).after within
  | type area s =>
      refine Act.Maintains.after (Q := fun _ => True) (.andThen .get fun c => ?_) within
      split
      · refine maintains_setText area ?_
        rintro rfl
        exact confined
      · exact .pure trivial
  | editCell row column s =>
      refine Act.Maintains.after (Q := fun _ => True) (.bind .get fun c within' => ?_) within
      split
      · refine maintains_setValueAt _ fun first => cellWithin_str (confined ?_)
        exact c.table2.columns.injective (first.trans within'.first.symm)
      · exact .pure trivial
  | arrangeColumns columns =>
      exact ⟨within.rows, confined, within.billboardID, within.form, within.sent⟩
  | press button fails =>
      cases button with
      | delete => exact (maintains_deleteButton1 fails).after within
      | edit => exact maintains_editButton1.after within
      | update => exact (maintains_editUpdateButton fails).after within
      | submit => exact (maintains_submitButton fails).after within
      | scheduleSubmit => exact (maintains_scheduleSubmitButton fails).after within

end Billboard
