import Billboard.Server.Serve

/-!
# What a request does to the tables

`Db.effect` is the effect of a request whose statements succeed, and **`serves_iff`** says that the
server, run on the database of this repository with a request free of quotes and backslashes, has
exactly this effect.  The results on the tables are then results on `Db.effect`.
-/

namespace Billboard

open Java Sql

variable {m : MariaDb}

/-- The effect of a request on the tables; `none` if one of its statements cannot succeed. -/
def Db.effect (db : Db m) : Request → Option (Db m)
  | .addBillboard a =>
      if h : db.billboard.HasRoom then
        if h' : (db.insertBillboard a h).view.HasRoom then
          some ((db.insertBillboard a h).insertView a h')
        else none
      else none
  | .addView a => some (db.updateSchedule a)
  | .showTable => some db
  | .delete d => some (db.deleteView d)
  | .editTable e => some (db.updateBillboard e)

/-- The table that `showTable` replies with. -/
def Db.displayed (db : Db m) : List TableRow :=
  db.view.rows.map fun r => (r.result m.order).myString

/-- The reply to a request. -/
def Db.answer (db : Db m) : Request → List DataArray
  | .showTable => [⟨db.displayed⟩]
  | _ => []

/-! ## Statements on the database -/

lemma wellNamed_intended (r : Request) : ∀ s ∈ intended r, s.WellNamed := by
  have free : ∀ c ∈ ["billboardname", "message", "info", "url", "scheduleddate", "starttime",
      "endtime"], name c ≠ name "where" := by decide +kernel
  simp only [List.forall_mem_cons, List.not_mem_nil, false_implies, implies_true, and_true]
    at free
  cases r with
  | addBillboard a => simp [intended, Stmt.WellNamed, insertBillboardStmt, insertViewStmt]
  | addView a =>
      simp only [intended, Stmt.WellNamed, updateScheduleStmt, List.forall_mem_cons]
      simp [free]
  | showTable => simp [intended, Stmt.WellNamed, selectViewStmt]
  | delete d => simp [intended, Stmt.WellNamed, deleteStmt]
  | editTable e =>
      simp only [intended, Stmt.WellNamed, updateBillboardStmt, List.forall_mem_cons]
      simp [free]

lemma backend_execute {text : Text} {stmt : Stmt} (reads : Reads text stmt)
    (named : stmt.WellNamed) (db : Db m) :
    m.backend.execute text db
      = (execute stmt db).map fun out => (out.1, out.2.map (ViewRow.result m.order)) := by
  simp only [MariaDb.backend, readStatement_of_reads reads named, Option.bind_eq_bind,
    Option.bind_some]
  cases execute stmt db <;> rfl

/-- A text that reads as a statement which succeeds is executed as that statement. -/
lemma run_query_ok {text : Text} {stmt : Stmt} {s : Server m.backend} {db' : Db m}
    {rows : List ViewRow} (k : ℕ) (reads : Reads text stmt) (named : stmt.WellNamed)
    (effect : execute stmt s.store = some (db', rows)) :
    (executeQuery Faults.none k text).run s
      = .ok (rows.map (ViewRow.result m.order)) (s.performing text db') :=
  run_executeQuery_ok rfl ((backend_execute reads named s.store).trans (by rw [effect]; rfl))

lemma run_query_reject {text : Text} {stmt : Stmt} {s : Server m.backend} (k : ℕ)
    (reads : Reads text stmt) (named : stmt.WellNamed) (effect : execute stmt s.store = none) :
    (executeQuery Faults.none k text).run s = .error .sql s :=
  run_executeQuery_reject rfl ((backend_execute reads named s.store).trans (by rw [effect]; rfl))

/-! ## Requests on the database -/

/-- What a completed request has done to the database and what it has replied. -/
structure Served (r : Request) (s : Server m.backend) (db' : Db m) (s' : Server m.backend) :
    Prop where
  store : s'.store = db'
  replies : s'.replies = s.replies ++ db'.answer r

lemma run_serveStatement_plain {r : Request} {text : Text} {stmt : Stmt} {s : Server m.backend}
    {db' : Db m} (texts : sqlTexts r = [text]) (meant : intended r = [stmt]) (plain : r.Plain)
    (silent : db'.answer r = []) (effect : execute stmt s.store = some (db', [])) :
    ∃ s', (serveStatement Faults.none text).run s = .ok () s' ∧ Served r s db' s' := by
  have connect := run_createStatement (f := Faults.none) rfl rfl s
  have reads : Reads text stmt := by
    have := reads_of_plain plain
    rwa [texts, meant, List.forall₂_cons, and_iff_left .nil] at this
  have named : stmt.WellNamed := wellNamed_intended r stmt (by simp [meant])
  have query := run_query_ok (s := s.connecting) 0 reads named effect
  rw [serveStatement, Act.run_bind_of_ok connect, Act.run_bind_of_ok query]
  exact ⟨_, rfl, rfl, by rw [silent]; exact (List.append_nil _).symm⟩

lemma run_serveAddBillboard_plain {a : Add} (plain : (Request.addBillboard a).Plain)
    (s : Server m.backend) :
    (∃ db' s', Db.effect s.store (.addBillboard a) = some db'
        ∧ (serveAddBillboard Faults.none a).run s = .ok () s' ∧ Served (.addBillboard a) s db' s')
      ∨ Db.effect s.store (.addBillboard a) = none
        ∧ ∃ s', (serveAddBillboard Faults.none a).run s = .error .sql s' := by
  have connect := run_createStatement (f := Faults.none) rfl rfl s
  obtain ⟨reads, reads', -⟩ : Reads (insertBillboardSql a.getVal) (insertBillboardStmt a)
      ∧ Reads (insertViewSql a.getVal) (insertViewStmt a) ∧ List.Forall₂ Reads [] [] := by
    simpa only [sqlTexts, intended, List.forall₂_cons] using reads_of_plain plain
  have named := wellNamed_intended (.addBillboard a) (insertBillboardStmt a) (by simp [intended])
  have named' := wellNamed_intended (.addBillboard a) (insertViewStmt a) (by simp [intended])
  have first := execute_insertBillboard a s.store
  rw [serveAddBillboard, Act.run_bind_of_ok connect]
  by_cases h : Table.HasRoom (Db.billboard s.store)
  · rw [dif_pos h] at first
    rw [Act.run_bind_of_ok (run_query_ok (s := s.connecting) 0 reads named first)]
    have second := execute_insertView a (Db.insertBillboard s.store a h)
    by_cases h' : (Db.insertBillboard s.store a h).view.HasRoom
    · rw [dif_pos h'] at second
      rw [Act.run_bind_of_ok
        (run_query_ok (s := s.connecting.performing (insertBillboardSql a.getVal)
          (Db.insertBillboard s.store a h)) 1 reads' named' second)]
      refine .inl ⟨(Db.insertBillboard s.store a h).insertView a h', _, ?_, rfl, rfl,
        (List.append_nil _).symm⟩
      simp only [Db.effect, dif_pos h, dif_pos h']
    · rw [dif_neg h'] at second
      rw [Act.run_bind_of_error
        (run_query_reject (s := s.connecting.performing (insertBillboardSql a.getVal)
          (Db.insertBillboard s.store a h)) 1 reads' named' second)]
      exact .inr ⟨by simp only [Db.effect, dif_pos h, dif_neg h'], _, rfl⟩
  · rw [dif_neg h] at first
    rw [Act.run_bind_of_error (run_query_reject (s := s.connecting) 0 reads named first)]
    exact .inr ⟨by simp only [Db.effect, dif_neg h], _, rfl⟩

lemma run_serveShowTable_none (s : Server m.backend) :
    ∃ s', (serveShowTable Faults.none).run s = .ok () s' ∧ Served .showTable s s.store s' := by
  have connect := run_createStatement (f := Faults.none) rfl rfl s
  have named := wellNamed_intended .showTable selectViewStmt (by simp [intended])
  have query := run_query_ok (s := s.connecting) 0 selectView_reads named
    (execute_selectView s.store)
  have calls : ∀ c ∈ readCalls ((Db.view s.store).rows.map (ViewRow.result m.order)),
      Faults.none.resultSet c = false := fun _ _ => rfl
  have read := run_readTable calls (s.connecting.performing selectViewSql s.store)
  rw [serveShowTable, Act.run_bind_of_ok connect, Act.run_bind_of_ok query,
    Act.run_bind_of_ok read]
  exact ⟨_, rfl, rfl, by simp [Db.answer, Db.displayed]⟩

/-- **A plain request has its effect**, or is rejected where it has none. -/
theorem run_serve_plain {r : Request} (plain : r.Plain) (s : Server m.backend) :
    (∃ db' s', Db.effect s.store r = some db'
        ∧ (serve Faults.none r).run s = .ok () s' ∧ Served r s db' s')
      ∨ Db.effect s.store r = none
        ∧ ∃ s', (serve Faults.none r).run s = .error .sql s' := by
  cases r with
  | addBillboard a => exact run_serveAddBillboard_plain plain s
  | addView a =>
      exact .inl ⟨_, (run_serveStatement_plain rfl rfl plain rfl
        (execute_updateSchedule a s.store)).imp fun _ => .intro rfl⟩
  | showTable => exact .inl ⟨_, (run_serveShowTable_none s).imp fun _ => .intro rfl⟩
  | delete d =>
      exact .inl ⟨_, (run_serveStatement_plain rfl rfl plain rfl
        (execute_delete d s.store)).imp fun _ => .intro rfl⟩
  | editTable e =>
      exact .inl ⟨_, (run_serveStatement_plain rfl rfl plain rfl
        (execute_updateBillboard e s.store)).imp fun _ => .intro rfl⟩

/-! ## The step relation of the tables -/

/-- The server, none of whose calls is made to fail, completes the request and thereby changes the
tables from `db` to `db'`.  The request is free of quotes and backslashes. -/
def Serves (db : Db m) (r : Request) (db' : Db m) : Prop :=
  r.Plain ∧ ∃ s s' : Server m.backend,
    s.store = db ∧ (serve Faults.none r).run s = .ok () s' ∧ s'.store = db'

/-- **The server on the tables is the effect of the requests.** -/
theorem serves_iff {db db' : Db m} {r : Request} :
    Serves db r db' ↔ r.Plain ∧ db.effect r = some db' := by
  refine and_congr_right fun plain => ?_
  constructor
  · rintro ⟨s, s', rfl, run, rfl⟩
    rcases run_serve_plain plain s with ⟨db', s'', effect, run', served⟩ | ⟨-, s'', run'⟩
    · obtain rfl : s' = s'' := by simpa [run] using run'
      rw [effect, served.store]
    · rw [run] at run'
      exact absurd run' (by simp)
  · intro effect
    rcases run_serve_plain plain (⟨db, true, [], []⟩ : Server m.backend)
      with ⟨db'', s', effect', run, served⟩ | ⟨nothing, -⟩
    · obtain rfl : db' = db'' := Option.some.inj (effect.symm.trans effect')
      exact ⟨_, s', rfl, run, served.store⟩
    · exact absurd (effect.symm.trans nothing) (by simp)

/-! ## Small tables -/

/-- A database that stores dates and times as they are given, and takes a text for an integer when
it is the decimal text of one. -/
def MariaDb.simple (order : ViewOrder) : MariaDb :=
  ⟨id, id, parseInt, order, parseInt_decimal⟩

/-- The tables before the first request. -/
def Db.empty : Db m :=
  ⟨⟨[], 1, .nil, by simp⟩, ⟨[], 1, .nil, by simp⟩⟩

/-- The tables after one billboard has been added. -/
def Db.single (a : Add) : Db m :=
  (Db.empty.insertBillboard a (by decide : 1 < 2 ^ 31)).insertView a (by decide : 1 < 2 ^ 31)

/-- A server that has just been started on the empty tables. -/
def Server.initial : Server m.backend :=
  ⟨Db.empty, false, [], []⟩

end Billboard
