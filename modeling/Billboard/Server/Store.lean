import Billboard.Library.Sql.Table
import Billboard.Server.Statements

/-!
# The tables `billboard` and `view`

The database `schedules` has two tables of billboards.  `billboard` is written by `addBillboard`
and `editTable`; `view`, which also holds the schedule, by `addBillboard`, `addView` and `delete`,
and it is the one `showTable` reads.

What the database does beyond the statements themselves is a parameter: `MariaDb` says which
`DATE` and `TIME` it stores for a text it accepts, which integer it makes of a text when it
compares an integer column with one, and in which order the columns of `view` stand.

An assumption on the schema: both tables draw their ids from an `AUTO_INCREMENT` counter, as the
`INSERT`s of the server expect, which give no id.  The shipped `billboard` does.  The shipped `view`
declares its key `NOT NULL DEFAULT 1` without a counter, so that all it can give out is id 1; what
is said here of new ids of `view` is about a `view` with a counter.

`execute` is the effect of a statement that succeeds.  Its lemmas, one for each statement the
server sends, describe that effect on the tables.
-/

namespace Billboard

open Java Sql

/-- The order of the third and fourth column of `view`. -/
inductive ViewOrder
  /-- The order in which `showTable` reads them: 3 is `info`, 4 is `message`. -/
  | infoMessage
  /-- The order in which the shipped table was created: 3 is `message`, 4 is `info`. -/
  | messageInfo
  deriving DecidableEq

/-- The database server.  Stored dates and times are represented by their texts. -/
structure MariaDb where
  date : Text → Text
  time : Text → Text
  keyOf : Text → Option Int32
  order : ViewOrder
  /-- The decimal text of an integer compares equal to this integer. -/
  keyOf_decimal : ∀ k, keyOf (decimal k) = some k

/-- A row of `billboard`.  Every column but the key may be `NULL`. -/
structure BillboardRow where
  billboardID : Int32
  billboardName : Option Text
  message : Option Text
  info : Option Text
  url : Option Text
  deriving DecidableEq

/-- A row of `view`. -/
structure ViewRow where
  billboardID : Int32
  billboardName : Option Text
  message : Option Text
  info : Option Text
  url : Option Text
  scheduledDate : Option Text
  startTime : Option Text
  endTime : Option Text
  deriving DecidableEq

/-! ## Columns -/

/-- The columns besides the key. -/
inductive Column
  | billboardName
  | message
  | info
  | url
  | scheduledDate
  | startTime
  | endTime
  deriving DecidableEq

def columnNames : List (Name × Column) :=
  [(name "billboardname", .billboardName), (name "message", .message), (name "info", .info),
   (name "url", .url), (name "scheduleddate", .scheduledDate), (name "starttime", .startTime),
   (name "endtime", .endTime)]

def column (c : Name) : Option Column :=
  columnNames.lookup c

@[simp] lemma column_billboardName : column (name "billboardname") = some .billboardName := by
  decide +kernel
@[simp] lemma column_message : column (name "message") = some .message := by decide +kernel
@[simp] lemma column_info : column (name "info") = some .info := by decide +kernel
@[simp] lemma column_url : column (name "url") = some .url := by decide +kernel
@[simp] lemma column_scheduledDate : column (name "scheduleddate") = some .scheduledDate := by
  decide +kernel
@[simp] lemma column_startTime : column (name "starttime") = some .startTime := by decide +kernel
@[simp] lemma column_endTime : column (name "endtime") = some .endTime := by decide +kernel

/-- What a text column stores for a value. -/
def varchar : Value → Option Text
  | .null => none
  | .text v => some v
  | .number n => some (toString n).toList

/-- Assignment in `billboard`, which has no schedule columns. -/
def setBillboard (c : Name) (v : Value) :
    Option {f : BillboardRow → BillboardRow // ∀ r, (f r).billboardID = r.billboardID} :=
  match column c with
  | some .billboardName => some ⟨fun r => { r with billboardName := varchar v }, fun _ => rfl⟩
  | some .message => some ⟨fun r => { r with message := varchar v }, fun _ => rfl⟩
  | some .info => some ⟨fun r => { r with info := varchar v }, fun _ => rfl⟩
  | some .url => some ⟨fun r => { r with url := varchar v }, fun _ => rfl⟩
  | _ => none

/-- Assignment in `view`. -/
def setView (m : MariaDb) (c : Name) (v : Value) :
    Option {f : ViewRow → ViewRow // ∀ r, (f r).billboardID = r.billboardID} :=
  match column c with
  | some .billboardName => some ⟨fun r => { r with billboardName := varchar v }, fun _ => rfl⟩
  | some .message => some ⟨fun r => { r with message := varchar v }, fun _ => rfl⟩
  | some .info => some ⟨fun r => { r with info := varchar v }, fun _ => rfl⟩
  | some .url => some ⟨fun r => { r with url := varchar v }, fun _ => rfl⟩
  | some .scheduledDate =>
      some ⟨fun r => { r with scheduledDate := (varchar v).map m.date }, fun _ => rfl⟩
  | some .startTime =>
      some ⟨fun r => { r with startTime := (varchar v).map m.time }, fun _ => rfl⟩
  | some .endTime =>
      some ⟨fun r => { r with endTime := (varchar v).map m.time }, fun _ => rfl⟩
  | none => none

def billboardSchema : Schema BillboardRow where
  columns := [name "billboardid", name "billboardname", name "message", name "info", name "url"]
  idColumn := name "billboardid"
  id := BillboardRow.billboardID
  blank i := ⟨i, none, none, none, none⟩
  set := setBillboard
  id_blank _ := rfl

def viewSchema (m : MariaDb) : Schema ViewRow where
  columns :=
    [name "billboardid", name "billboardname"] ++
    (match m.order with
      | .infoMessage => [name "info", name "message"]
      | .messageInfo => [name "message", name "info"]) ++
    [name "url", name "scheduleddate", name "starttime", name "endtime"]
  idColumn := name "billboardid"
  id := ViewRow.billboardID
  blank i := ⟨i, none, none, none, none, none, none, none⟩
  set := setView m
  id_blank _ := rfl

/-! ## The database -/

/-- The database `schedules`.  Each table has its own counter of ids. -/
structure Db (m : MariaDb) where
  billboard : Table billboardSchema
  view : Table (viewSchema m)

variable {m : MariaDb}

/-- The effect of a statement that succeeds, with the rows a `SELECT` returns.  `none` for a
statement that cannot succeed: an unknown table or column, or an exhausted counter. -/
def execute (s : Stmt) (db : Db m) : Option (Db m × List ViewRow) :=
  match s with
  | .insert t cs vs =>
      if t = name "billboard" then
        (db.billboard.insertValues cs vs).map fun b => ({ db with billboard := b }, [])
      else if t = name "view" then
        (db.view.insertValues cs vs).map fun w => ({ db with view := w }, [])
      else none
  | .update t as k o =>
      if t = name "billboard" then
        (db.billboard.updateWhere m.keyOf as k o).map fun b => ({ db with billboard := b }, [])
      else if t = name "view" then
        (db.view.updateWhere m.keyOf as k o).map fun w => ({ db with view := w }, [])
      else none
  | .delete t k o =>
      if t = name "billboard" then
        (db.billboard.deleteWhere m.keyOf k o).map fun b => ({ db with billboard := b }, [])
      else if t = name "view" then
        (db.view.deleteWhere m.keyOf k o).map fun w => ({ db with view := w }, [])
      else none
  | .selectAll t => if t = name "view" then some (db, db.view.rows) else none

/-- A failed statement has no effect on rows, but an `INSERT` may have drawn ids from its table's
counter before it failed. -/
def burnIds (s : Stmt) (k : ℕ) (db : Db m) : Db m :=
  match s with
  | .insert t _ _ =>
      if t = name "billboard" then { db with billboard := db.billboard.burn k }
      else if t = name "view" then { db with view := db.view.burn k }
      else db
  | _ => db

/-- Both tables have the same rows. -/
def SameRows (db db' : Db m) : Prop :=
  db'.billboard.rows = db.billboard.rows ∧ db'.view.rows = db.view.rows

instance (db db' : Db m) : Decidable (SameRows db db') :=
  inferInstanceAs (Decidable (_ ∧ _))

/-- Neither table has given out fewer ids. -/
def CountersLe (db db' : Db m) : Prop :=
  db.billboard.next ≤ db'.billboard.next ∧ db.view.next ≤ db'.view.next

lemma sameRows_burnIds (s : Stmt) (k : ℕ) (db : Db m) : SameRows db (burnIds s k db) := by
  cases s with
  | insert t cs vs =>
      simp only [burnIds]
      split_ifs
      · exact ⟨rfl, rfl⟩
      · exact ⟨rfl, rfl⟩
      · exact ⟨rfl, rfl⟩
  | update t as k o => exact ⟨rfl, rfl⟩
  | delete t k o => exact ⟨rfl, rfl⟩
  | selectAll t => exact ⟨rfl, rfl⟩

/-- Only an `INSERT` draws ids. -/
lemma burnIds_of_not_insert {s : Stmt} (h : s.isInsert = false) (k : ℕ) (db : Db m) :
    burnIds s k db = db := by
  cases s with
  | insert t cs vs => exact absurd h (by simp [Stmt.isInsert])
  | update t as k o => rfl
  | delete t k o => rfl
  | selectAll t => rfl

lemma countersLe_burnIds (s : Stmt) (k : ℕ) (db : Db m) : CountersLe db (burnIds s k db) := by
  cases s with
  | insert t cs vs =>
      simp only [burnIds]
      split_ifs
      · exact ⟨Nat.le_add_right _ _, le_refl _⟩
      · exact ⟨le_refl _, Nat.le_add_right _ _⟩
      · exact ⟨le_refl _, le_refl _⟩
  | update t as k o => exact ⟨le_refl _, le_refl _⟩
  | delete t k o => exact ⟨le_refl _, le_refl _⟩
  | selectAll t => exact ⟨le_refl _, le_refl _⟩

lemma countersLe_of_billboard {o : Option (Table billboardSchema)} {db db' : Db m}
    {rows : List ViewRow} (h : (o.map fun b => ({ db with billboard := b }, [])) = some (db', rows))
    (le : ∀ b, o = some b → db.billboard.next ≤ b.next) : CountersLe db db' := by
  obtain ⟨b, hb, e⟩ := Option.map_eq_some_iff.mp h
  obtain ⟨rfl, -⟩ := Prod.mk.inj e
  exact ⟨le b hb, le_refl _⟩

lemma countersLe_of_view {o : Option (Table (viewSchema m))} {db db' : Db m} {rows : List ViewRow}
    (h : (o.map fun w => ({ db with view := w }, [])) = some (db', rows))
    (le : ∀ w, o = some w → db.view.next ≤ w.next) : CountersLe db db' := by
  obtain ⟨w, hw, e⟩ := Option.map_eq_some_iff.mp h
  obtain ⟨rfl, -⟩ := Prod.mk.inj e
  exact ⟨le_refl _, le w hw⟩

lemma countersLe_execute {s : Stmt} {db db' : Db m} {rows : List ViewRow}
    (h : execute s db = some (db', rows)) : CountersLe db db' := by
  cases s with
  | insert t cs vs =>
      simp only [execute] at h
      split_ifs at h
      · exact countersLe_of_billboard h fun b hb => by rw [Table.next_insertValues hb]; omega
      · exact countersLe_of_view h fun w hw => by rw [Table.next_insertValues hw]; omega
  | update t as k o =>
      simp only [execute] at h
      split_ifs at h
      · exact countersLe_of_billboard h fun b hb => (Table.next_updateWhere hb).ge
      · exact countersLe_of_view h fun w hw => (Table.next_updateWhere hw).ge
  | delete t k o =>
      simp only [execute] at h
      split_ifs at h
      · exact countersLe_of_billboard h fun b hb => (Table.next_deleteWhere hb).ge
      · exact countersLe_of_view h fun w hw => (Table.next_deleteWhere hw).ge
  | selectAll t =>
      simp only [execute] at h
      split_ifs at h
      obtain ⟨rfl, -⟩ := Prod.mk.inj (Option.some.inj h)
      exact ⟨le_refl _, le_refl _⟩

/-! ## The statements of the server -/

lemma view_ne_billboard : name "view" ≠ name "billboard" := by decide +kernel

/-- The four texts of a billboard, in the order in which a request carries them. -/
def textsOfBillboard (q1 q2 q3 q4 : Text) : billboardSchema.Change :=
  ⟨fun r =>
    { r with
      billboardName := some q1
      message := some q2
      info := some q3
      url := some q4 }, fun _ => rfl⟩

def textsOfView (q1 q2 q3 q4 : Text) : (viewSchema m).Change :=
  ⟨fun r =>
    { r with
      billboardName := some q1
      message := some q2
      info := some q3
      url := some q4 }, fun _ => rfl⟩

/-- The schedule of a billboard, as stored. -/
def scheduleOf (m : MariaDb) (date start stop : Text) : (viewSchema m).Change :=
  ⟨fun r =>
    { r with
      scheduledDate := some (m.date date)
      startTime := some (m.time start)
      endTime := some (m.time stop) }, fun _ => rfl⟩

lemma setAll_billboard (q1 q2 q3 q4 : Text) :
    billboardSchema.setAll [(name "billboardname", .text q1), (name "message", .text q2),
      (name "info", .text q3), (name "url", .text q4)] = some (textsOfBillboard q1 q2 q3 q4) := by
  simp only [Schema.setAll, billboardSchema, setBillboard, column_billboardName, column_message,
    column_info, column_url, Option.bind_some, Option.map_some]
  rfl

lemma setAll_view (q1 q2 q3 q4 : Text) :
    (viewSchema m).setAll [(name "billboardname", .text q1), (name "message", .text q2),
      (name "info", .text q3), (name "url", .text q4)] = some (textsOfView q1 q2 q3 q4) := by
  simp only [Schema.setAll, viewSchema, setView, column_billboardName, column_message,
    column_info, column_url, Option.bind_some, Option.map_some]
  rfl

lemma setAll_schedule (date start stop : Text) :
    (viewSchema m).setAll [(name "scheduleddate", .text date), (name "starttime", .text start),
      (name "endtime", .text stop)] = some (scheduleOf m date start stop) := by
  simp only [Schema.setAll, viewSchema, setView, column_scheduledDate, column_startTime,
    column_endTime, Option.bind_some, Option.map_some]
  rfl

lemma insertAssigns_billboard (q1 q2 q3 q4 : Text) :
    billboardSchema.insertAssigns none [.null, .text q1, .text q2, .text q3, .text q4]
      = some [(name "billboardname", .text q1), (name "message", .text q2),
          (name "info", .text q3), (name "url", .text q4)] := by
  simp [Schema.insertAssigns, billboardSchema]

lemma insertAssigns_view (q1 q2 q3 q4 : Text) :
    (viewSchema m).insertAssigns
        (some [name "billboardname", name "message", name "info", name "url"])
        [.text q1, .text q2, .text q3, .text q4]
      = some [(name "billboardname", .text q1), (name "message", .text q2),
          (name "info", .text q3), (name "url", .text q4)] := by
  simp [Schema.insertAssigns]

/-! ## Their effects -/

namespace Db

/-- The effect of the first `INSERT` of `addBillboard`. -/
def insertBillboard (db : Db m) (a : Add) (h : db.billboard.HasRoom) : Db m where
  billboard := db.billboard.insert h (textsOfBillboard a.query1 a.query2 a.query3 a.query4)
  view := db.view

/-- The effect of the second. -/
def insertView (db : Db m) (a : Add) (h : db.view.HasRoom) : Db m where
  billboard := db.billboard
  view := db.view.insert h (textsOfView a.query1 a.query2 a.query3 a.query4)

/-- The effect of `addView`: the rows of `view` whose id compares equal to the first text. -/
def updateSchedule (db : Db m) (a : Add) : Db m where
  billboard := db.billboard
  view := db.view.update (fun i => m.keyOf a.query1 = some i)
    (scheduleOf m a.query2 a.query3 a.query4)

/-- The effect of `delete`, which leaves `billboard` alone. -/
def deleteView (db : Db m) (d : Delete) : Db m where
  billboard := db.billboard
  view := db.view.delete fun i => i = d.billboardID

/-- The effect of `editTable`, which leaves `view` alone. -/
def updateBillboard (db : Db m) (e : Edit) : Db m where
  billboard := db.billboard.update (fun i => i = e.id)
    (textsOfBillboard e.query1 e.query2 e.query3 e.query4)
  view := db.view

end Db

theorem execute_insertBillboard (a : Add) (db : Db m) :
    execute (insertBillboardStmt a) db
      = if h : db.billboard.HasRoom then some (db.insertBillboard a h, []) else none := by
  simp only [execute, insertBillboardStmt, if_true, Table.insertValues, insertAssigns_billboard,
    setAll_billboard, Option.bind_some]
  split_ifs <;> rfl

theorem execute_insertView (a : Add) (db : Db m) :
    execute (insertViewStmt a) db
      = if h : db.view.HasRoom then some (db.insertView a h, []) else none := by
  simp only [execute, insertViewStmt, if_neg view_ne_billboard, if_true, Table.insertValues,
    insertAssigns_view, setAll_view, Option.bind_some]
  split_ifs <;> rfl

theorem execute_updateSchedule (a : Add) (db : Db m) :
    execute (updateScheduleStmt a) db = some (db.updateSchedule a, []) := by
  simp only [execute, updateScheduleStmt, if_neg view_ne_billboard, if_true, Table.updateWhere,
    setAll_schedule, Option.map_some, Operand.value]
  rfl

theorem execute_selectView (db : Db m) :
    execute selectViewStmt db = some (db, db.view.rows) := rfl

theorem execute_delete (d : Delete) (db : Db m) :
    execute (deleteStmt d) db = some (db.deleteView d, []) := by
  have selected : selects m.keyOf (.number d.billboardID.toInt)
      = fun i => decide (i = d.billboardID) := by
    funext i
    simp [selects, Int32.toInt_inj]
  simp only [execute, deleteStmt, if_neg view_ne_billboard, if_true, Table.deleteWhere,
    Operand.value, selected]
  rfl

theorem execute_updateBillboard (e : Edit) (db : Db m) :
    execute (updateBillboardStmt e) db = some (db.updateBillboard e, []) := by
  have selected : selects m.keyOf (.text (decimal e.id)) = fun i => decide (i = e.id) := by
    funext i
    simp [selects, m.keyOf_decimal, eq_comm]
  simp only [execute, updateBillboardStmt, if_true, Table.updateWhere, setAll_billboard,
    Option.map_some, Operand.value, selected]
  rfl

end Billboard
