import Billboard.Client.Rows
import Billboard.Library.Runs

/-!
# Creating a billboard

The server adds a billboard that it is sent to the displayed table, and the four texts come back
under their own headers: `addsBillboard_of_serves`.  But the window never sends one.  Submit reads
the link from `textArea4`, which the form does not bind, and so ends before its first write.

**`createForm_creates_nothing`**: whatever is typed into the create form, in whichever state of the
window and of the tables, Submit adds no row.
-/

namespace Billboard

open Java Runs Sql

variable {m : MariaDb}

/-- The table displayed for `db'` is the one displayed for `db` and one more row, with a new id and
the four texts of `a`. -/
def AddsBillboard (db db' : Db m) (a : Add) : Prop :=
  ∃ row, db'.displayed = db.displayed ++ [row]
    ∧ (∃ k, rowID row = some k ∧ some k ∉ db.displayed.map rowID)
    ∧ row 1 = .str a.query1 ∧ row 3 = .str a.query2 ∧ row 2 = .str a.query3
    ∧ row 4 = .str a.query4

/-- Name, message, information and image link are typed into the create form and submitted. -/
def createForm (a : Add) : List Event :=
  [.type .createBillboardName a.query1, .type .createMsg a.query2, .type .createInfo a.query3,
    .type .createImgLink a.query4, .press .submit noFailure]

/-- What the window sends are requests that the server completes, and they add this billboard. -/
def Creates (c : Client) (db : Db m) (a : Add) : Prop :=
  ∃ requests db', ((createForm a).foldl Client.step c).sent
      = c.sent ++ requests.flatMap Request.items
    ∧ Reaches Serves db requests db' ∧ AddsBillboard db db' a

/-! ## The server -/

lemma map_rowID_displayed (db : Db m) :
    db.displayed.map rowID = db.view.rows.map fun r => some r.billboardID := by
  rw [Db.displayed, List.map_map]
  exact List.map_congr_left fun r _ => rowID_myString (r.result m.order)

/-- **A served `addBillboard` adds its billboard to the displayed table.** -/
theorem addsBillboard_of_serves (order : m.order = .infoMessage) {db db' : Db m} {a : Add}
    (served : Serves db (.addBillboard a) db') : AddsBillboard db db' a := by
  have effect := (serves_iff.mp served).2
  simp only [Db.effect] at effect
  split_ifs at effect with h h'
  obtain rfl := Option.some.inj effect
  -- the row of `view`, under the next id of this table
  let row : ViewRow :=
    (textsOfView a.query1 a.query2 a.query3 a.query4 : (viewSchema m).Change).1
      ((viewSchema m).blank db.view.newId)
  refine ⟨(row.result m.order).myString, ?_, ⟨db.view.newId, ?_, ?_⟩, ?_⟩
  · show (db.view.rows ++ [row]).map _ = _
    rw [List.map_append]
    rfl
  · exact rowID_myString (row.result m.order)
  · rw [map_rowID_displayed]
    intro mem
    obtain ⟨r, hr, same⟩ := List.mem_map.mp mem
    have found : db.view.find r.billboardID = some r := Table.find_of_mem hr
    have free : db.view.find db.view.newId = none := Table.find_newId h'
    rw [Option.some.inj same, free] at found
    cases found
  · rw [order]
    exact ⟨rfl, rfl, rfl, rfl⟩

/-! ## The window -/

/-- Events that write nothing leave the stream as it is. -/
lemma sent_foldl_silent {events : List Event} (succeeds : ∀ e ∈ events, e.Succeeds)
    (silent : ∀ e ∈ events, ∀ c : Client, c.outgoing e = []) (c : Client) :
    (events.foldl Client.step c).sent = c.sent := by
  induction events generalizing c with
  | nil => rfl
  | cons e events ih =>
      rw [List.forall_mem_cons] at succeeds silent
      rw [List.foldl_cons, ih succeeds.2 silent.2, sent_step succeeds.1, silent.1 c,
        List.append_nil]

/-- Submit ends before its first write, so the form sends no request. -/
lemma requests_createForm {a : Add} {c : Client} {requests : List Request}
    (h : ((createForm a).foldl Client.step c).sent = c.sent ++ requests.flatMap Request.items) :
    requests = [] := by
  have silent : ((createForm a).foldl Client.step c).sent = c.sent := by
    refine sent_foldl_silent ?_ ?_ c
    · simp [createForm, Event.Succeeds, noFailure]
    · simp [createForm, Client.outgoing]
  rw [silent] at h
  exact flatMap_items_injective (List.self_eq_append_right.mp h)

lemma not_addsBillboard_self (db : Db m) (a : Add) : ¬ AddsBillboard db db a := by
  rintro ⟨row, displayed, -⟩
  cases List.self_eq_append_right.mp displayed

/-- **Submitting the create form adds no billboard**, in no state of the window and of the tables
and for no texts. -/
theorem createForm_creates_nothing (c : Client) (db : Db m) (a : Add) : ¬ Creates c db a := by
  rintro ⟨requests, db', sent, run, adds⟩
  obtain rfl := requests_createForm sent
  obtain rfl := run
  exact not_addsBillboard_self db' a adds

/-- Four letters, typed into the form of a window that displays no billboard yet. -/
theorem createForm_letters :
    ¬ Creates (Client.start ⟨[]⟩) (Db.empty : Db (MariaDb.simple .infoMessage))
      ⟨"a".toList, "b".toList, "c".toList, "d".toList⟩ := by
  rintro ⟨requests, db', sent, run, adds⟩
  obtain rfl := requests_createForm sent
  obtain rfl := run
  exact not_addsBillboard_self Db.empty _ adds

end Billboard
