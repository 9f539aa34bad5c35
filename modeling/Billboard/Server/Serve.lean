import Billboard.Server.ResultSet
import Billboard.Server.Store

/-!
# The cases of the server

The bodies of the five cases of `Server.main`, after the payload has been read.  They run on a
database that is a parameter: `Backend` says what a statement text that succeeds does and returns,
and what a failed one leaves behind.  `MariaDb.backend` is the database of this repository, as far
as the statements of `Stmt` go.

Which database call of a request fails is a parameter too, `Faults`, so every failure point of
every case is a run of the model.
-/

namespace Billboard

open Java Sql

/-! ## The database -/

/-- A database as `executeQuery` sees it. -/
structure Backend where
  Store : Type
  /-- The effect and the result of a text; `none` if its execution cannot succeed. -/
  execute : Text → Store → Option (Store × List ResultRow)
  /-- What a text that failed after it had drawn so many ids leaves behind. -/
  fail : Text → ℕ → Store → Store

/-- A row of `view` as a row of the result set. -/
def ViewRow.result (order : ViewOrder) (r : ViewRow) : ResultRow where
  key := r.billboardID
  text := match order with
    | .infoMessage =>
        ![r.billboardName, r.info, r.message, r.url, r.scheduledDate, r.startTime, r.endTime]
    | .messageInfo =>
        ![r.billboardName, r.message, r.info, r.url, r.scheduledDate, r.startTime, r.endTime]

/-- The database `schedules`.  A text that is none of the statements of `Stmt` is rejected. -/
abbrev MariaDb.backend (m : MariaDb) : Backend where
  Store := Db m
  execute text db := do
    let stmt ← readStatement text
    let (db', rows) ← Billboard.execute stmt db
    some (db', rows.map (ViewRow.result m.order))
  fail text ids db := match readStatement text with
    | some stmt => burnIds stmt ids db
    | none => db

/-! ## The server -/

/-- Which database calls fail while one request is served.  `statement.close()` is not among them:
at the fetch size 0, which `main` leaves as it is, the driver makes no call there that can throw. -/
structure Faults where
  connect : Bool
  createStatement : Bool
  /-- The `k`-th `executeQuery` of the request fails, after it has drawn so many ids. -/
  statement : ℕ → Option ℕ
  resultSet : ResultSetCall → Bool

/-- No call fails. -/
def Faults.none : Faults :=
  ⟨false, false, fun _ => Option.none, fun _ => false⟩

/-- The state of the server process and its database. -/
structure Server (B : Backend) where
  store : B.Store
  /-- Whether `DBConnection.instance` has been set. -/
  connected : Bool
  /-- The statement texts that have taken effect. -/
  executed : List Text
  /-- The objects written to the client. -/
  replies : List DataArray

variable {B : Backend}

/-- `DBConnection.getInstance().createStatement()`.  The constructor of `DBConnection` swallows the
exception of a failed connection, so `getInstance` then returns `null`. -/
def createStatement (f : Faults) : Act (Server B) Unit := do
  let server ← get
  if !server.connected && !f.connect then
    set { server with connected := true }
  let server ← get
  Act.call (!server.connected) .nullPointer
  Act.call f.createStatement .sql

/-- The `k`-th `statement.executeQuery(sql)` of a request. -/
def executeQuery (f : Faults) (k : ℕ) (sql : Text) : Act (Server B) (List ResultRow) := do
  let server ← get
  match f.statement k with
  | some ids =>
      set { server with store := B.fail sql ids server.store }
      throw .sql
  | none =>
      let (store, rows) ← Act.orThrow .sql (B.execute sql server.store)
      set { server with store := store, executed := server.executed ++ [sql] }
      pure rows

/-- `oos.writeObject(tableData); oos.flush()`. -/
def reply (tableData : DataArray) : Act (Server B) Unit :=
  modify fun server => { server with replies := server.replies ++ [tableData] }

def serveAddBillboard (f : Faults) (o2 : Add) : Act (Server B) Unit := do
  let data := o2.getVal
  createStatement f
  let _ ← executeQuery f 0 (insertBillboardSql data)
  let _ ← executeQuery f 1 (insertViewSql data)

/-- What the cases with a single statement and no reply do. -/
def serveStatement (f : Faults) (sql : Text) : Act (Server B) Unit := do
  createStatement f
  let _ ← executeQuery f 0 sql

def serveAddView (f : Faults) (o3 : Add) : Act (Server B) Unit :=
  serveStatement f (updateScheduleSql o3.getVal)

def serveShowTable (f : Faults) : Act (Server B) Unit := do
  createStatement f
  let resultSet ← executeQuery f 0 selectViewSql
  let data ← readTable f.resultSet resultSet
  reply ⟨data⟩

def serveDelete (f : Faults) (deleteData : Delete) : Act (Server B) Unit :=
  serveStatement f (deleteSql deleteData.getVal)

def serveEditTable (f : Faults) (editData : Edit) : Act (Server B) Unit :=
  serveStatement f (updateBillboardSql editData.getVal)

/-- The body of the case of a request. -/
def serve (f : Faults) : Request → Act (Server B) Unit
  | .addBillboard o2 => serveAddBillboard f o2
  | .addView o3 => serveAddView f o3
  | .showTable => serveShowTable f
  | .delete deleteData => serveDelete f deleteData
  | .editTable editData => serveEditTable f editData

/-! ## The database calls -/

/-- The server once it is connected. -/
def Server.connecting (s : Server B) : Server B :=
  { s with connected := true }

/-- The server after a text has taken effect. -/
def Server.performing (s : Server B) (sql : Text) (store : B.Store) : Server B :=
  { s with
    store := store
    executed := s.executed ++ [sql] }

@[simp] lemma connecting_store (s : Server B) : s.connecting.store = s.store := rfl
@[simp] lemma connecting_executed (s : Server B) : s.connecting.executed = s.executed := rfl
@[simp] lemma connecting_replies (s : Server B) : s.connecting.replies = s.replies := rfl
@[simp] lemma performing_store (s : Server B) (sql : Text) (store : B.Store) :
    (s.performing sql store).store = store := rfl
@[simp] lemma performing_executed (s : Server B) (sql : Text) (store : B.Store) :
    (s.performing sql store).executed = s.executed ++ [sql] := rfl
@[simp] lemma performing_replies (s : Server B) (sql : Text) (store : B.Store) :
    (s.performing sql store).replies = s.replies := rfl

/-- With a connection at hand or to be had, there is one afterwards. -/
lemma run_createStatement {f : Faults} (connects : f.connect = false)
    (creates : f.createStatement = false) (s : Server B) :
    (createStatement f).run s = .ok () s.connecting := by
  obtain ⟨store, connected, executed, replies⟩ := s
  cases connected <;> simp [createStatement, connects, creates, Server.connecting]

lemma run_executeQuery_ok {f : Faults} {k : ℕ} {sql : Text} {s : Server B} {store : B.Store}
    {rows : List ResultRow} (succeeds : f.statement k = none)
    (effect : B.execute sql s.store = some (store, rows)) :
    (executeQuery f k sql).run s = .ok rows (s.performing sql store) := by
  simp only [executeQuery, EStateM.run_bind, EStateM.run_get, succeeds, effect,
    Act.run_orThrow_some]
  rfl

lemma run_executeQuery_reject {f : Faults} {k : ℕ} {sql : Text} {s : Server B}
    (succeeds : f.statement k = none) (effect : B.execute sql s.store = none) :
    (executeQuery f k sql).run s = .error .sql s := by
  simp [executeQuery, succeeds, effect]

lemma run_executeQuery_fail {f : Faults} {k ids : ℕ} {sql : Text} {s : Server B}
    (fails : f.statement k = some ids) :
    (executeQuery f k sql).run s = .error .sql { s with store := B.fail sql ids s.store } := by
  simp [executeQuery, fails]

/-- A query that is not made to fail takes effect or is rejected. -/
lemma run_executeQuery_none (k : ℕ) (sql : Text) (s : Server B) :
    (∃ store rows, (executeQuery Faults.none k sql).run s = .ok rows (s.performing sql store))
      ∨ (executeQuery Faults.none k sql).run s = .error .sql s := by
  cases effect : B.execute sql s.store with
  | none => exact .inr (run_executeQuery_reject rfl effect)
  | some out => exact .inl ⟨out.1, out.2, run_executeQuery_ok rfl effect⟩

/-! ## A request none of whose calls is made to fail -/

/-- The number of replies to a request. -/
def Request.answers (r : Request) : ℕ :=
  if r = .showTable then 1 else 0

/-- What a completed request has added to the logs of the server. -/
structure Logged (r : Request) (s s' : Server B) : Prop where
  executed : s'.executed = s.executed ++ sqlTexts r
  replies : s'.replies.length = s.replies.length + r.answers

lemma run_serveStatement_none (sql : Text) (s : Server B) :
    (∃ store, (serveStatement Faults.none sql).run s = .ok () (s.connecting.performing sql store))
      ∨ ∃ s', (serveStatement Faults.none sql).run s = .error .sql s' := by
  have connect := run_createStatement (f := Faults.none) rfl rfl s
  rcases run_executeQuery_none 0 sql s.connecting with ⟨store, rows, query⟩ | query
  · refine .inl ⟨store, ?_⟩
    rw [serveStatement, Act.run_bind_of_ok connect, Act.run_bind_of_ok query]
    rfl
  · refine .inr ⟨s.connecting, ?_⟩
    rw [serveStatement, Act.run_bind_of_ok connect, Act.run_bind_of_error query]

lemma logged_one {r : Request} {sql : Text} (texts : sqlTexts r = [sql]) (silent : r.answers = 0)
    (s : Server B) (store : B.Store) : Logged r s (s.connecting.performing sql store) where
  executed := by simp [texts]
  replies := by simp [silent]

/-- **A request served without a failing call either completes**, its statements executed in order
and one reply written if it asks for one, **or ends by an `SQLException`**. -/
theorem run_serve_none (r : Request) (s : Server B) :
    (∃ s', (serve Faults.none r).run s = .ok () s' ∧ Logged r s s')
      ∨ ∃ s', (serve Faults.none r).run s = .error .sql s' := by
  have connect := run_createStatement (f := Faults.none) rfl rfl s
  have one : ∀ sql, sqlTexts r = [sql] → r.answers = 0 →
      (∃ s', (serveStatement Faults.none sql).run s = .ok () s' ∧ Logged r s s')
        ∨ ∃ s', (serveStatement Faults.none sql).run s = .error .sql s' := by
    intro sql texts silent
    rcases run_serveStatement_none sql s with ⟨store, run⟩ | failed
    · exact .inl ⟨_, run, logged_one texts silent s store⟩
    · exact .inr failed
  cases r with
  | addBillboard a =>
      rw [serve, serveAddBillboard, Act.run_bind_of_ok connect]
      rcases run_executeQuery_none 0 (insertBillboardSql a.getVal) s.connecting
        with ⟨store, rows, first⟩ | first
      · rw [Act.run_bind_of_ok first]
        rcases run_executeQuery_none 1 (insertViewSql a.getVal)
            (s.connecting.performing (insertBillboardSql a.getVal) store)
          with ⟨store', rows', second⟩ | second
        · rw [Act.run_bind_of_ok second]
          exact .inl ⟨_, rfl, by simp [sqlTexts], by simp [Request.answers]⟩
        · rw [Act.run_bind_of_error second]
          exact .inr ⟨_, rfl⟩
      · rw [Act.run_bind_of_error first]
        exact .inr ⟨_, rfl⟩
  | addView a => exact one (updateScheduleSql a.getVal) rfl rfl
  | showTable =>
      rw [serve, serveShowTable, Act.run_bind_of_ok connect]
      rcases run_executeQuery_none 0 selectViewSql s.connecting with ⟨store, rows, query⟩ | query
      · have calls : ∀ c ∈ readCalls rows, Faults.none.resultSet c = false := fun _ _ => rfl
        have read := run_readTable calls (s.connecting.performing selectViewSql store)
        rw [Act.run_bind_of_ok query, Act.run_bind_of_ok read]
        exact .inl ⟨_, rfl, by simp [sqlTexts], by simp [Request.answers]⟩
      · rw [Act.run_bind_of_error query]
        exact .inr ⟨_, rfl⟩
  | delete d => exact one (deleteSql d.getVal) rfl rfl
  | editTable e => exact one (updateBillboardSql e.getVal) rfl rfl

end Billboard
