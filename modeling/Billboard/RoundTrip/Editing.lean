import Billboard.Client.Selection
import Billboard.Server.Agreement

/-!
# Editing without changing anything

A displayed row is selected, taken into the edit form and sent back as it is.  On its way it passes
the columns of the result set, of the table and of the form, the arguments of `Edit`, and the
columns of the `UPDATE`; only their positions say which text is the message and which the
information.

**`untouchedEdit_leavesRows_iff`**: both tables stay as they were exactly when the information of
the row is its message.  Edit takes the column of the information for the message, and conversely.
-/

namespace Billboard

open Java Runs Sql

variable {m : MariaDb}

/-- The row at index `i` is selected, edited and updated. -/
def untouchedEdit (i : ℕ) : List Event :=
  [.select i, .press .edit noFailure, .press .update noFailure]

/-- What the window sends after it has displayed the tables are requests that the server completes,
and at the end both tables have the rows they had. -/
def LeavesRows (db : Db m) (events : List Event) : Prop :=
  ∃ requests db', (events.foldl Client.step (Client.start ⟨db.displayed⟩)).sent
      = (Client.start ⟨db.displayed⟩).sent ++ requests.flatMap Request.items
    ∧ Reaches Serves db requests db' ∧ SameRows db db'

/-! ## What the window sends -/

/-- The form of a displayed row is sent back as it is. -/
lemma sent_untouchedEdit {rows : List TableRow} {i : ℕ} {r : TableRow} {form : EditForm}
    {k : Int32} (row : rows[i]? = some r) (filled : formOfRow r = some form)
    (id : parseInt form.id = some k) :
    ((untouchedEdit i).foldl Client.step (Client.start ⟨rows⟩)).sent
      = (Client.start ⟨rows⟩).sent
        ++ (Request.editTable ⟨k, form.name, form.msg, form.info, form.link⟩).items := by
  have displayed : idAt (Client.start ⟨rows⟩).table2.rows i = some k := by
    show (TableModel.row? rows i).bind rowID = some k
    rw [TableModel.row?_natCast, row, Option.bind_some, rowID_of_form filled, id]
  have select : (Client.start ⟨rows⟩).step (.select i) = (Client.start ⟨rows⟩).selecting i k := by
    rw [step_select rfl displayed, if_neg]
    exact Option.some_ne_none i
  have edit : ((Client.start ⟨rows⟩).selecting i k).step (.press .edit noFailure)
      = ((Client.start ⟨rows⟩).selecting i k).editing form := by
    have here : (TableModel.row? ((Client.start ⟨rows⟩).selecting i k).table2.rows
        ((Client.start ⟨rows⟩).selecting i k).selectedRow).bind formOfRow = some form := by
      show rows[i]?.bind formOfRow = some form
      rw [row, Option.bind_some, filled]
    rw [step_edit, here]
  have succeeds : (Event.press .update noFailure).Succeeds := fun _ => rfl
  have stored : parseInt
      ((((Client.start ⟨rows⟩).selecting i k).editing form).text .editBbID) = some k := id
  rw [untouchedEdit, List.foldl_cons, List.foldl_cons, List.foldl_cons, List.foldl_nil, select,
    edit, sent_step succeeds, Client.outgoing, stored]
  rfl

/-- The form that a row of `view` fills: its information stands where the message belongs. -/
lemma form_displayed {db : Db m} (order : m.order = .infoMessage) {i : ℕ} {v : ViewRow}
    (row : db.view.rows[i]? = some v) {name info message url : Text}
    (hname : v.billboardName = some name) (hinfo : v.info = some info)
    (hmessage : v.message = some message) (hurl : v.url = some url) :
    ∃ r, db.displayed[i]? = some r
      ∧ formOfRow r = some ⟨decimal v.billboardID, name, info, message, url⟩ := by
  refine ⟨(v.result m.order).myString, ?_, ?_⟩
  · rw [Db.displayed, List.getElem?_map, row, Option.map_some]
  · simp [formOfRow, ResultRow.myString, ResultRow.getString, ViewRow.result, order, hname, hinfo,
      hmessage, hurl, JObject.toString, JObject.asString]

/-! ## What the server does -/

section

variable {db : Db m} {i : ℕ} {v : ViewRow} {name info message url : Text}

/-- The rows are left as they were exactly if the one request that is sent leaves them so. -/
lemma leavesRows_iff_update (order : m.order = .infoMessage) (row : db.view.rows[i]? = some v)
    (hname : v.billboardName = some name) (hinfo : v.info = some info)
    (hmessage : v.message = some message) (hurl : v.url = some url)
    (plain : ∀ t ∈ [name, info, message, url], '\'' ∉ t ∧ '\\' ∉ t) :
    LeavesRows db (untouchedEdit i)
      ↔ SameRows db (db.updateBillboard ⟨v.billboardID, name, info, message, url⟩) := by
  obtain ⟨r, displayed, filled⟩ := form_displayed order row hname hinfo hmessage hurl
  have sent := sent_untouchedEdit displayed filled (parseInt_decimal v.billboardID)
  have served : Serves db (.editTable ⟨v.billboardID, name, info, message, url⟩)
      (db.updateBillboard ⟨v.billboardID, name, info, message, url⟩) := serves_iff.mpr ⟨plain, rfl⟩
  constructor
  · rintro ⟨requests, db', items, run, same⟩
    rw [sent, List.append_right_inj] at items
    have one : [Request.editTable ⟨v.billboardID, name, info, message, url⟩] = requests := by
      refine flatMap_items_injective ?_
      simpa using items
    subst one
    obtain ⟨db'', first, rfl⟩ := run
    obtain rfl := Option.some.inj (serves_iff.mp first).2
    exact same
  · intro same
    refine ⟨[.editTable ⟨v.billboardID, name, info, message, url⟩], _, ?_, ⟨_, served, rfl⟩, same⟩
    rw [sent, List.flatMap_singleton]

/-- The request leaves the record as it was exactly if it is the same with information and message
exchanged. -/
lemma sameRows_exchanged_iff (same : SameBillboards db) (row : db.view.rows[i]? = some v)
    (hname : v.billboardName = some name) (hinfo : v.info = some info)
    (hmessage : v.message = some message) (hurl : v.url = some url) :
    SameRows db (db.updateBillboard ⟨v.billboardID, name, info, message, url⟩)
      ↔ info = message := by
  have stored : db.billboard.find v.billboardID
      = some ⟨v.billboardID, some name, some message, some info, some url⟩ := by
    have found : db.view.find v.billboardID = some v :=
      Table.find_of_mem (List.mem_of_getElem? row)
    rw [same, found, Option.map_some, ViewRow.billboard,
      hname, hinfo, hmessage, hurl]
  constructor
  · rintro ⟨rows, -⟩
    have after := find_updateBillboard
      (e := ⟨v.billboardID, name, info, message, url⟩) stored
    rw [Table.find, rows, ← Table.find, stored] at after
    exact (Option.some.inj (BillboardRow.mk.inj (Option.some.inj after)).2.2.1).symm
  · rintro rfl
    rw [updateBillboard_of_harmless]
    · exact ⟨rfl, rfl⟩
    · intro r found
      exact Option.some.inj (found.symm.trans stored)

end

/-- **Editing a displayed row without changing anything leaves the rows of both tables as they were
if and only if the information of the row is its message.** -/
theorem untouchedEdit_leavesRows_iff (order : m.order = .infoMessage) {db : Db m}
    (same : SameBillboards db) {i : ℕ} {v : ViewRow} (row : db.view.rows[i]? = some v)
    {name info message url : Text}
    (hname : v.billboardName = some name) (hinfo : v.info = some info)
    (hmessage : v.message = some message) (hurl : v.url = some url)
    (plain : ∀ t ∈ [name, info, message, url], '\'' ∉ t ∧ '\\' ∉ t) :
    LeavesRows db (untouchedEdit i) ↔ info = message :=
  (leavesRows_iff_update order row hname hinfo hmessage hurl plain).trans
    (sameRows_exchanged_iff same row hname hinfo hmessage hurl)

/-- A billboard with the same text for both keeps it. -/
theorem untouchedEdit_single :
    LeavesRows (Db.single ⟨"a".toList, "b".toList, "b".toList, "d".toList⟩ :
      Db (MariaDb.simple .infoMessage)) (untouchedEdit 0) :=
  (untouchedEdit_leavesRows_iff rfl (sameBillboards_single _) (i := 0) rfl rfl rfl rfl rfl
    (by decide)).mpr rfl

/-- Any other has them exchanged. -/
theorem untouchedEdit_exchanges :
    SameBillboards (Db.single ⟨"a".toList, "b".toList, "c".toList, "d".toList⟩ :
        Db (MariaDb.simple .infoMessage))
      ∧ ¬ LeavesRows (Db.single ⟨"a".toList, "b".toList, "c".toList, "d".toList⟩ :
        Db (MariaDb.simple .infoMessage)) (untouchedEdit 0) := by
  refine ⟨sameBillboards_single _, ?_⟩
  rw [leavesRows_iff_update rfl (i := 0) rfl rfl rfl rfl rfl (by decide)]
  decide +kernel

end Billboard
