import Billboard.Client.EditTarget
import Billboard.Client.Listeners
import Billboard.Session.Served

/-!
# The displayed ids and the table `view`

The window reads `view` once, when it opens.  From then on Delete takes a row out of the displayed
table and asks the server to take one out of `view`, and nothing compares the two: the request
carries the remembered id, the displayed row goes by the remembered index.

* **`keepsIds_iff`** — what an event does to the displayed ids is what its request does to those of
  `view` exactly under `KeepsIds`.
* **`session_displays_iff`** — along an orderly session the displayed ids are at every moment those
  that `view` will have once what is in flight has been served, if and only if every event meets
  `KeepsIds`.
-/

namespace Billboard

open Java Runs Sql

variable {m : MariaDb}

/-! ## The ids of `view` -/

def Db.viewIds (db : Db m) : List Int32 :=
  db.view.rows.map ViewRow.billboardID

lemma nodup_viewIds (db : Db m) : db.viewIds.Nodup :=
  db.view.nodup

lemma hasIds_viewIds (db : Db m) : HasIds db.displayed db.viewIds := by
  rw [HasIds, Db.displayed, Db.viewIds, List.map_map, List.map_map]
  exact List.map_congr_left fun r _ => rowID_myString (r.result m.order)

/-- What a request of the window does to the ids. -/
def Request.idsAfter (ids : List Int32) : Request → List Int32
  | .delete d => ids.filter fun i => i != d.billboardID
  | _ => ids

lemma viewIds_effect {r : Request} (ofWindow : r.OfWindow) {db db' : Db m}
    (effect : db.effect r = some db') : db'.viewIds = r.idsAfter db.viewIds := by
  cases r with
  | addBillboard a => exact ofWindow.elim
  | showTable => exact ofWindow.elim
  | addView a =>
      obtain rfl := Option.some.inj effect
      show ((db.view.update _ _).rows.map _) = db.view.rows.map _
      rw [Table.update_rows, List.map_map]
      refine List.map_congr_left fun r _ => ?_
      rw [Function.comp_apply]
      split
      · exact (scheduleOf m a.query2 a.query3 a.query4).2 r
      · rfl
  | delete d =>
      obtain rfl := Option.some.inj effect
      show ((db.view.delete _).rows.map _) = (db.view.rows.map _).filter _
      rw [Table.delete_rows, List.filter_map]
      congr 1
  | editTable e =>
      obtain rfl := Option.some.inj effect
      rfl

/-! ## One event -/

/-- What the displayed ids ask of an event.  At a Delete the row at the remembered index displays
the remembered id, or there is no such row and the id is not displayed; an Update finds the id of
the form at `rowToEdit`, or no row there; and an id that is typed over is typed again. -/
def KeepsIds (c : Client) : Event → Prop
  | .press .delete _ => ∀ k, c.billboardID = some k →
      match TableModel.row? c.table2.rows c.selectedRow with
      | some r => rowID r = some k
      | none => ∀ r ∈ c.table2.rows, rowID r ≠ some k
  | .press .update fails => TargetsRow c (.press .update fails)
  | .editCell row column s => ∀ r, c.table2.rows[row]? = some r → c.table2.columns column = 0 →
      parseInt s = rowID r
  | _ => True

section

variable {rows rows' : List TableRow} {ids ids' : List Int32}

lemma hasIds_unique (h : HasIds rows ids) (h' : HasIds rows ids') : ids = ids' :=
  List.map_injective_iff.mpr (Option.some_injective _) (h.symm.trans h')

/-- Erasing one row of a table with distinct ids erases the id `k` exactly if the row has it. -/
lemma hasIds_eraseIdx_iff (h : HasIds rows ids) (nodup : ids.Nodup) {n : ℕ} {r : TableRow}
    (row : rows[n]? = some r) (k : Int32) :
    HasIds (rows.eraseIdx n) (ids.filter fun i => i != k) ↔ rowID r = some k := by
  obtain ⟨j, here, id⟩ := idAt_of_row h (i := n) row
  rw [idAt_natCast h] at here
  rw [id]
  constructor
  · intro erased
    by_contra other
    have kept : j ∈ ids.filter fun i => i != k :=
      List.mem_filter.mpr ⟨List.mem_of_getElem? here, by simpa using other⟩
    rw [← hasIds_unique (h.eraseIdx n) erased] at kept
    exact not_mem_eraseIdx nodup here kept
  · intro same
    obtain rfl := Option.some.inj same
    obtain ⟨inside, rfl⟩ := List.getElem?_eq_some_iff.mp here
    rw [← nodup.erase_eq_filter, nodup.erase_getElem n inside]
    exact h.eraseIdx n

lemma not_mem_iff (h : HasIds rows ids) (k : Int32) :
    k ∉ ids ↔ ∀ r ∈ rows, rowID r ≠ some k := by
  have displayed : k ∈ ids ↔ ∃ r ∈ rows, rowID r = some k := by
    rw [← List.mem_map, h, List.mem_map_of_injective (Option.some_injective _)]
  rw [displayed]
  push Not
  rfl

/-- Dropping an id keeps the ids exactly if no row displays it. -/
lemma hasIds_filter_iff (h : HasIds rows ids) (k : Int32) :
    HasIds rows (ids.filter fun i => i != k) ↔ k ∉ ids := by
  constructor
  · intro filtered mem
    rw [hasIds_unique h filtered] at mem
    simp at mem
  · intro absent
    rw [List.filter_eq_self.mpr]
    · exact h
    · intro i hi
      exact bne_iff_ne.mpr fun same => absent (same ▸ hi)

/-- Setting a row keeps the ids exactly if the new one displays the id of the old one. -/
lemma hasIds_set_iff (h : HasIds rows ids) {n : ℕ} {r r' : TableRow} (row : rows[n]? = some r) :
    HasIds (rows.set n r') ids ↔ rowID r' = rowID r := by
  have old : idAt rows n = rowID r := by rw [idAt, TableModel.row?_natCast, row, Option.bind_some]
  constructor
  · intro set
    have inside : n < rows.length := (List.getElem?_eq_some_iff.mp row).1
    have new : idAt (rows.set n r') n = rowID r' := by
      rw [idAt, TableModel.row?_natCast, List.getElem?_set_self inside, Option.bind_some]
    rw [← old, ← new, idAt_congr h set]
  · intro same
    exact h.set (old.trans same.symm)

end

lemma setValueAt_of_row {rows : List TableRow} {n : ℕ} {r : TableRow} (h : rows[n]? = some r)
    (value : JObject) (column : Fin 8) :
    TableModel.setValueAt rows value n column
      = some (rows.set n (Function.update r column value)) := by
  show rows[n]?.map _ = _
  rw [h, Option.map_some]

lemma removeRow_of_row {rows : List TableRow} {n : ℕ} {r : TableRow} (h : rows[n]? = some r) :
    TableModel.removeRow rows n = some (rows.eraseIdx n) :=
  if_pos (List.getElem?_eq_some_iff.mp h).1

lemma removeRow_of_missing {rows : List TableRow} {i : ℤ} (h : TableModel.row? rows i = none) :
    TableModel.removeRow rows i = none := by
  cases i with
  | ofNat n => exact if_neg (Nat.not_lt.mpr (List.getElem?_eq_none_iff.mp h))
  | negSucc n => rfl

/-- **Exactly under `KeepsIds`** the displayed ids go the way of those of `view`. -/
theorem keepsIds_iff {c : Client} {ids : List Int32} (hasIds : HasIds c.table2.rows ids)
    (nodup : ids.Nodup) {e : Event} (selected : RowSelected c e) :
    HasIds (c.rowsAfter e) ((c.request e).elim ids (Request.idsAfter ids)) ↔ KeepsIds c e := by
  cases e with
  | editCell row column s =>
      show HasIds (c.rowsAfter (.editCell row column s)) ids ↔ _
      cases here : c.table2.rows[row]? with
      | none =>
          have missing : TableModel.row? c.table2.rows row = none := here
          rw [Client.rowsAfter, TableModel.setValueAt_eq_none missing, Option.getD_none]
          refine iff_of_true hasIds ?_
          simp [KeepsIds, here]
      | some r =>
          rw [Client.rowsAfter, setValueAt_of_row here, Option.getD_some,
            hasIds_set_iff hasIds here, rowID_update]
          simp only [KeepsIds, here, Option.some.injEq, forall_eq']
          split_ifs with first
          · simp [first]
          · simp [first]
  | press button fails =>
      cases button with
      | delete =>
          obtain ⟨k, id⟩ := Option.ne_none_iff_exists'.mp selected
          simp only [Client.rowsAfter, Client.request, KeepsIds, id, Option.map_some,
            Option.elim_some, Request.idsAfter, Option.some.injEq, forall_eq']
          cases row : TableModel.row? c.table2.rows c.selectedRow with
          | none =>
              rw [removeRow_of_missing row, Option.getD_none, ← not_mem_iff hasIds]
              exact hasIds_filter_iff hasIds k
          | some r =>
              obtain ⟨n, target, here⟩ := TableModel.row?_eq_some row
              rw [target, removeRow_of_row here, Option.getD_some]
              exact hasIds_eraseIdx_iff hasIds nodup here k
      | update =>
          simp only [Client.rowsAfter, Client.request, KeepsIds, TargetsRow]
          cases id : parseInt (c.text .editBbID) with
          | none => simpa using hasIds
          | some k =>
              simp only [Option.map_some, Option.elim_some, Request.idsAfter, Option.some.injEq,
                forall_eq']
              cases row : TableModel.row? c.table2.rows c.rowToEdit with
              | none => simpa using hasIds
              | some r =>
                  obtain ⟨n, target, here⟩ := TableModel.row?_eq_some row
                  simp only [target, Int.toNat_natCast, Option.some.injEq, forall_eq']
                  rw [hasIds_set_iff hasIds here, rowID_editedRow, eq_comm]
                  rfl
      | edit => exact iff_of_true hasIds trivial
      | submit => exact iff_of_true hasIds trivial
      | scheduleSubmit => exact iff_of_true hasIds trivial
  | select row => exact iff_of_true hasIds trivial
  | clearSelection => exact iff_of_true hasIds trivial
  | type area s => exact iff_of_true hasIds trivial
  | arrangeColumns columns => exact iff_of_true hasIds trivial

/-! ## Sessions -/

lemma happens_unique (s : Session m.backend) (what : Happening) (s' s'' : Session m.backend)
    (step : Happens s what s') (step' : Happens s what s'') : s' = s'' :=
  Option.some.inj (step.symm.trans step')

lemma serves_unique (db : Db m) (r : Request) (db' db'' : Db m) (serves : Serves db r db')
    (serves' : Serves db r db'') : db' = db'' :=
  Option.some.inj ((serves_iff.mp serves).2.symm.trans (serves_iff.mp serves').2)

/-- A step of an orderly session. -/
def Proceeds (s : Session m.backend) (what : Happening) (s' : Session m.backend) : Prop :=
  Orderly s what ∧ Happens s what s'

/-- Once the server has read what is in flight, the window displays exactly the ids of `view`. -/
def Session.Settles (s : Session m.backend) : Prop :=
  ∃ s', Reaches Happens s (List.replicate s.inFlight.length (.read Faults.none)) s'
    ∧ s'.inFlight = []
    ∧ HasIds s'.client.table2.rows (Db.viewIds s'.main.server.store)

/-- Every event of a session meets `KeepsIds`. -/
def Session.KeepsIds (s : Session m.backend) : Happening → Prop
  | .event e => Billboard.KeepsIds s.client e
  | .close => True
  | .read _ => True

section

variable {asked : List Request} {server : Server m.backend} {s s' : Session m.backend}

/-- What the window will be compared with is what the requests asked for make of the database. -/
lemma settles_iff (h : s.Serving asked server) {db : Db m}
    (served : Reaches Serves server.store asked db) :
    s.Settles ↔ HasIds s.client.table2.rows db.viewIds := by
  obtain ⟨s', reads, serving, nothing⟩ := serving_drains h
  have same : s'.main.server.store = db := by
    refine reaches_unique serves_unique ?_ served
    rw [← served_of_nothing serving nothing]
    exact serving.store
  have client : s'.client = s.client := by
    rw [client_of_reaches reads]
    simp [eventsOf, Client.run]
  constructor
  · rintro ⟨s'', reads', -, displays⟩
    obtain rfl := reaches_unique happens_unique reads reads'
    rw [← client, ← same]
    exact displays
  · intro displays
    refine ⟨s', reads, nothing, ?_⟩
    rw [client, same]
    exact displays

/-- The database that serving the requests asked for leads to. -/
lemma exists_served (h : s.Serving asked server) : ∃ db, Reaches Serves server.store asked db := by
  obtain ⟨s', -, serving, nothing⟩ := serving_drains h
  exact ⟨_, served_of_nothing serving nothing ▸ serving.store⟩

lemma viewIds_served {o : Option Request} (ofWindow : ∀ r, o = some r → r.OfWindow)
    {start db db' : Db m} (served : Reaches Serves start asked db)
    (served' : Reaches Serves start (asked ++ o.toList) db') :
    db'.viewIds = o.elim db.viewIds (Request.idsAfter db.viewIds) := by
  obtain ⟨mid, before, later⟩ := (reaches_append _ _ _ _ _).mp served'
  obtain rfl := reaches_unique serves_unique served before
  cases o with
  | none =>
      obtain rfl := later
      rfl
  | some r =>
      obtain ⟨_, serves, rfl⟩ := later
      exact viewIds_effect (ofWindow r rfl) (serves_iff.mp serves).2

/-- **One step** settles exactly under `KeepsIds`. -/
lemma settles_step (h : s.Serving asked server) (settles : s.Settles) {what : Happening}
    (step : Proceeds s what s') : s'.Settles ↔ s.KeepsIds what := by
  obtain ⟨orderly, happens⟩ := step
  obtain ⟨db, served⟩ := exists_served h
  have displays := (settles_iff h served).mp settles
  have serving := serving_step h orderly happens
  obtain ⟨db', served'⟩ := exists_served serving
  rw [settles_iff serving served']
  cases what with
  | event e =>
      obtain ⟨succeeds, selected, -⟩ := orderly
      rw [viewIds_served (fun r asks => ofWindow_request asks) served served']
      have rows : s'.client.table2.rows = s.client.rowsAfter e := by
        obtain ⟨-, rfl⟩ := happens_event.mp happens
        exact rows_step succeeds
      rw [rows]
      exact keepsIds_iff displays (nodup_viewIds db) selected
  | close =>
      obtain rfl := happens_close.mp happens
      rw [Session.request, Option.toList_none, List.append_nil] at served'
      obtain rfl := reaches_unique serves_unique served served'
      exact iff_of_true displays trivial
  | read f =>
      obtain ⟨-, rfl⟩ := happens_read.mp happens
      rw [Session.request, Option.toList_none, List.append_nil] at served'
      obtain rfl := reaches_unique serves_unique served served'
      exact iff_of_true displays trivial

end

/-- **The window displays the ids of `view`.**  In a session in which every write succeeds, Delete
is pressed only where an id is remembered, the texts sent are free of quotes and backslashes and no
database call fails, the displayed ids are at every moment those that `view` has once what is in
flight has been read, in this order, if and only if every event meets `KeepsIds`. -/
theorem session_displays_iff (server : Server m.backend) (happenings : List Happening) :
    Always Proceeds Session.Settles (Session.opened ⟨Db.displayed server.store⟩ server) happenings
      ↔ EveryStep Proceeds Session.KeepsIds (Session.opened ⟨Db.displayed server.store⟩ server)
          happenings := by
  refine always_iff_everyStep (I := fun s => ∃ asked, s.Serving asked server) ?_ ?_
    ⟨_, serving_opened _⟩ ?_
  · rintro s what s' ⟨asked, serving⟩ settles step
    exact settles_step serving settles step
  · rintro s what s' ⟨asked, serving⟩ - ⟨orderly, happens⟩ -
    exact ⟨_, serving_step serving orderly happens⟩
  · exact (settles_iff (serving_opened _) (serving_opened ⟨[]⟩).store).mpr
      (hasIds_viewIds (m := m) server.store)

end Billboard
