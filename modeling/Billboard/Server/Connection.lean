import Billboard.Server.Availability

/-!
# The connection to the database

`DBConnection` holds the connection of the process in a static field.  `getInstance` runs the
constructor while the field is `null`, and the constructor swallows the `SQLException`s of the
driver and the `IOException`s of the properties file, so that `null` may come out again.  Loading a
file with a malformed escape throws an exception of another class, which it lets through.

* `createStatement_refines`, `read_refines` — where nothing gets through, the server's way to a
  statement, with its flag, is the way through `getInstance`, and so are its reads.
* **`connects_once`** — a server process tries to connect at most once: it comes to a second attempt
  only where the first one has failed, and that has ended `main`.
-/

namespace Billboard

open Java Runs

variable {B : Backend} {C : Type}

/-! ## The static field -/

/-- What the constructor meets: the properties file and the driver manager. -/
structure Environment (C : Type) where
  /-- `new FileInputStream("src/db.props")` throws. -/
  openFails : Bool
  /-- `props.load(in)`, with what `props.getProperty` then returns.  It may throw an `IOException`,
  or an `IllegalArgumentException` for a malformed escape. -/
  load : Except Throwable (Text → Option Text)
  closeFails : Bool
  /-- `DriverManager.getConnection(url, user, password)`. -/
  getConnection : Text → Option Text → Option Text → Option C

/-- The static part of the class, with the number of calls of its constructor. -/
structure DBConnection (C : Type) where
  instance_ : Option C
  constructed : ℕ

/-- A class that has just been loaded. -/
def DBConnection.loaded : DBConnection C :=
  ⟨none, 0⟩

/-- A reference in a concatenation: `null` becomes a word. -/
def shown (property : Option Text) : Text :=
  property.getD "null".toList

/-- The classes of the three `catch` clauses. -/
def printed (t : Throwable) : Bool :=
  t == .sql || t.isIOException

/-- The block of the `try` of the constructor. -/
def connect (env : Environment C) : Act (DBConnection C) Unit := do
  Act.call env.openFails .io
  let props ← Act.ofExcept env.load
  Act.call env.closeFails .io
  let url := props "jdbc.url".toList
  let username := props "jdbc.username".toList
  let password := props "jdbc.password".toList
  let schema := props "jdbc.schema".toList
  let connection ← Act.orThrow .sql
    (env.getConnection (shown url ++ "/".toList ++ shown schema) username password)
  modify fun db => { db with instance_ := some connection }

/-- `new DBConnection()`. -/
def newDBConnection (env : Environment C) : Act (DBConnection C) Unit := do
  modify fun db => { db with constructed := db.constructed + 1 }
  Act.catching printed (connect env)

/-- `DBConnection.getInstance()`. -/
def getInstance (env : Environment C) : Act (DBConnection C) (Option C) := do
  let db ← get
  if db.instance_.isNone then
    newDBConnection env
  let db ← get
  pure db.instance_

/-- `DBConnection.getInstance().createStatement()`, which may throw in itself. -/
def instanceStatement (env : Environment C) (fails : Bool) : Act (DBConnection C) Unit := do
  let connection ← getInstance env
  Act.call connection.isNone .nullPointer
  Act.call fails .sql

/-! ## What an attempt comes to -/

/-- The connection that the constructor gets, if it gets one. -/
def Environment.attempt (env : Environment C) : Option C :=
  if env.openFails then none
  else match env.load with
    | .error _ => none
    | .ok props =>
        if env.closeFails then none
        else env.getConnection
          (shown (props "jdbc.url".toList) ++ "/".toList ++ shown (props "jdbc.schema".toList))
          (props "jdbc.username".toList) (props "jdbc.password".toList)

/-- The exception that no `catch` clause of the constructor takes. -/
def Environment.escapes (env : Environment C) : Option Throwable :=
  if env.openFails then none
  else match env.load with
    | .error t => if printed t then none else some t
    | .ok _ => none

/-- The block sets the field, or throws. -/
lemma run_connect (env : Environment C) (db : DBConnection C) :
    (∃ c, env.attempt = some c ∧ env.escapes = none
        ∧ (connect env).run db = .ok () { db with instance_ := some c })
      ∨ env.attempt = none ∧ ∃ t, (connect env).run db = .error t db
        ∧ env.escapes = if printed t then none else some t := by
  obtain ⟨openFails, load, closeFails, getConnection⟩ := env
  cases openFails with
  | true => exact .inr ⟨rfl, .io, rfl, rfl⟩
  | false =>
      cases load with
      | error t => exact .inr ⟨rfl, t, rfl, rfl⟩
      | ok props =>
          cases closeFails with
          | true => exact .inr ⟨rfl, .io, rfl, rfl⟩
          | false =>
              cases h : getConnection (shown (props "jdbc.url".toList) ++ "/".toList
                  ++ shown (props "jdbc.schema".toList))
                  (props "jdbc.username".toList) (props "jdbc.password".toList) with
              | none =>
                  refine .inr ⟨h, .sql, ?_, rfl⟩
                  simp only [connect, EStateM.run_bind, Act.run_call, Bool.false_eq_true, if_false,
                    Act.ofExcept, EStateM.run_pure, h]
                  rfl
              | some c =>
                  refine .inl ⟨c, h, rfl, ?_⟩
                  simp only [connect, EStateM.run_bind, Act.run_call, Bool.false_eq_true, if_false,
                    Act.ofExcept, EStateM.run_pure, h]
                  rfl

lemma escapes_printed {env : Environment C} {t : Throwable} (escapes : env.escapes = some t) :
    printed t = false := by
  rw [Environment.escapes] at escapes
  split_ifs at escapes
  cases load : env.load with
  | ok props => simp [load] at escapes
  | error t' =>
      simp only [load] at escapes
      split_ifs at escapes with swallowed
      obtain rfl := Option.some.inj escapes
      simpa using swallowed

/-- What `getInstance` lets through: only without a connection is there an attempt. -/
def DBConnection.escapes (env : Environment C) (db : DBConnection C) : Option Throwable :=
  match db.instance_ with
  | some _ => none
  | none => env.escapes

/-- The class after `getInstance`: a connection at hand is kept. -/
def DBConnection.asked (env : Environment C) (db : DBConnection C) : DBConnection C :=
  match db.instance_ with
  | some _ => db
  | none => ⟨env.attempt, db.constructed + 1⟩

/-- The constructor sets the field where it gets a connection, and leaves it `null` otherwise. -/
lemma run_newDBConnection (env : Environment C) (constructed : ℕ) :
    (newDBConnection env).run ⟨none, constructed⟩ = match env.escapes with
      | none => .ok () ⟨env.attempt, constructed + 1⟩
      | some t => .error t ⟨env.attempt, constructed + 1⟩ := by
  rw [newDBConnection, Act.run_bind_of_ok (EStateM.run_modify _ _)]
  rcases run_connect env ⟨none, constructed + 1⟩ with
    ⟨c, attempt, escapes, run⟩ | ⟨attempt, t, run, escapes⟩
  · rw [Act.run_catching_of_ok run, attempt, escapes]
  · cases swallowed : printed t with
    | true => rw [Act.run_catching_of_caught run swallowed, attempt, escapes, swallowed]; rfl
    | false => rw [Act.run_catching_of_error run swallowed, attempt, escapes, swallowed]; rfl

lemma run_getInstance (env : Environment C) (db : DBConnection C) :
    (getInstance env).run db = match db.escapes env with
      | none => .ok (db.asked env).instance_ (db.asked env)
      | some t => .error t (db.asked env) := by
  obtain ⟨inst, constructed⟩ := db
  rw [getInstance, Act.run_bind_of_ok (Act.run_get _)]
  cases inst with
  | some c => rfl
  | none =>
      have construct := run_newDBConnection env constructed
      rw [if_pos (by rfl), DBConnection.escapes]
      cases escapes : env.escapes with
      | none =>
          rw [escapes] at construct
          rw [Act.run_bind_of_ok construct]
          rfl
      | some t =>
          rw [escapes] at construct
          rw [Act.run_bind_of_error construct]
          rfl

/-- Where there is no connection to be had, the call on `null` throws. -/
lemma run_instanceStatement (env : Environment C) (fails : Bool) (db : DBConnection C) :
    (instanceStatement env fails).run db = match db.escapes env with
      | some t => .error t (db.asked env)
      | none =>
          if (db.asked env).instance_.isNone then .error .nullPointer (db.asked env)
          else if fails then .error .sql (db.asked env)
          else .ok () (db.asked env) := by
  have ask := run_getInstance env db
  cases escapes : db.escapes env with
  | some t =>
      rw [escapes] at ask
      rw [instanceStatement, Act.run_bind_of_error ask]
  | none =>
      rw [escapes] at ask
      rw [instanceStatement, Act.run_bind_of_ok ask]
      cases (db.asked env).instance_ with
      | none => rfl
      | some c => cases fails <;> rfl

/-! ## The flag of the server -/

/-- The faults of a request that meets this environment. -/
def Faults.inEnvironment (f : Faults) (env : Environment C) : Faults :=
  { f with connect := env.attempt.isNone }

/-- The server with its flag as the static field says. -/
def Server.withField (s : Server B) (db : DBConnection C) : Server B :=
  { s with connected := db.instance_.isSome }

/-- **The flag is the field.**  Where the flag says whether the field is set, and nothing gets
through the constructor, getting a statement by the flag ends as it does through `getInstance`, and
the flag says so afterwards. -/
theorem createStatement_refines (f : Faults) {env : Environment C} (swallows : env.escapes = none)
    (s : Server B) (db : DBConnection C) :
    (createStatement (f.inEnvironment env)).run (s.withField db)
      = match (instanceStatement env f.createStatement).run db with
        | .ok u db' => .ok u (s.withField db')
        | .error t db' => .error t (s.withField db') := by
  rw [run_instanceStatement]
  obtain ⟨inst, constructed⟩ := db
  obtain ⟨connect, creates, statement, resultSet⟩ := f
  cases inst with
  | some c => cases creates <;> rfl
  | none =>
      cases attempt : env.attempt with
      | some c =>
          cases creates <;> simp [createStatement, Faults.inEnvironment, attempt, swallows,
            DBConnection.asked, DBConnection.escapes, Server.withField]
      | none =>
          simp [createStatement, Faults.inEnvironment, attempt, swallows, DBConnection.asked,
            DBConnection.escapes, Server.withField]

/-! ## The process -/

/-- The request that a read completes, which is then served. -/
def Main.completed (main : Main B) (stream : List Item) : Option Request :=
  match main.position, stream with
  | .readTag, .utf requestType :: _ =>
      if switchOn requestType = .showTable then some .showTable else none
  | .readPayload c, .object p :: _ => c.cast p
  | _, _ => none

/-- A read serves the request it completes.  One that completes none takes `main` to another
position, whichever calls would fail, and leaves it where it has ended. -/
lemma read_cases (main : Main B) (stream : List Item) :
    (∃ r, main.completed stream = some r ∧ ∀ f, (main.read f stream).1 = main.serve f r)
      ∨ main.completed stream = none ∧ ∃ position,
        (∀ f, (main.read f stream).1 = { main with position := position })
          ∧ ∀ t, main.position = .ended t → position = .ended t := by
  obtain ⟨server, position, served⟩ := main
  cases position with
  | readTag =>
      cases stream with
      | nil => exact .inr ⟨rfl, .readTag, fun f => rfl, fun t h => by cases h⟩
      | cons i rest =>
          cases i with
          | object p => exact .inr ⟨rfl, .readTag, fun f => rfl, fun t h => by cases h⟩
          | utf requestType =>
              cases branch : switchOn requestType with
              | showTable =>
                  refine .inl ⟨.showTable, ?_, fun f => ?_⟩
                  · simp only [Main.completed, branch, if_true]
                  · simp only [Main.read, readUTF, branch]
              | reads c =>
                  refine .inr ⟨?_, .readPayload c, fun f => ?_, fun t h => by cases h⟩
                  · simp [Main.completed, branch]
                  · simp only [Main.read, readUTF, branch]
              | noCase =>
                  refine .inr ⟨?_, .readTag, fun f => ?_, fun t h => by cases h⟩
                  · simp [Main.completed, branch]
                  · simp only [Main.read, readUTF, branch]
  | readPayload c =>
      cases stream with
      | nil => exact .inr ⟨rfl, .readTag, fun f => rfl, fun t h => by cases h⟩
      | cons i rest =>
          cases i with
          | utf s => exact .inr ⟨rfl, .ended .optionalData, fun f => rfl, fun t h => by cases h⟩
          | object p =>
              cases cast : c.cast p with
              | some r =>
                  refine .inl ⟨r, cast, fun f => ?_⟩
                  simp only [Main.read, readObject, cast]
              | none =>
                  refine .inr ⟨cast, .ended .classCast, fun f => ?_, fun t h => by cases h⟩
                  simp only [Main.read, readObject, cast, Position.caught]
  | ended t => exact .inr ⟨rfl, .ended t, fun f => rfl, fun t' h => h⟩

/-- What a case does with its statement. -/
def withStatement (f : Faults) : Request → Act (Server B) Unit
  | .addBillboard o2 => do
      let _ ← executeQuery f 0 (insertBillboardSql o2.getVal)
      let _ ← executeQuery f 1 (insertViewSql o2.getVal)
  | .addView o3 => do
      let _ ← executeQuery f 0 (updateScheduleSql o3.getVal)
  | .showTable => do
      let resultSet ← executeQuery f 0 selectViewSql
      let data ← readTable f.resultSet resultSet
      reply ⟨data⟩
  | .delete deleteData => do
      let _ ← executeQuery f 0 (deleteSql deleteData.getVal)
  | .editTable editData => do
      let _ ← executeQuery f 0 (updateBillboardSql editData.getVal)

/-- The server process: `main` and the class it gets its connection from. -/
structure Process (B : Backend) (C : Type) where
  main : Main B
  db : DBConnection C

/-- Serving a request through `getInstance`. -/
def Process.serve (env : Environment C) (f : Faults) (p : Process B C) (r : Request) :
    Process B C :=
  match (instanceStatement env f.createStatement).run p.db with
  | .error t db => ⟨⟨p.main.server.withField db, .caught t, p.main.served⟩, db⟩
  | .ok _ db =>
      match (withStatement f r).run (p.main.server.withField db) with
      | .ok _ server => ⟨⟨server, .readTag, p.main.served ++ [r]⟩, db⟩
      | .error t server => ⟨⟨server, .caught t, p.main.served⟩, db⟩

/-- The return of a read, in an environment that may be another one each time. -/
structure Arrival (C : Type) where
  env : Environment C
  faults : Faults
  stream : List Item

/-- `main` goes on, and where the read completes a request it serves it. -/
def Process.read (p : Process B C) (a : Arrival C) : Process B C :=
  match p.main.completed a.stream with
  | some r => p.serve a.env a.faults r
  | none => { p with main := (p.main.read a.faults a.stream).1 }

/-- The step relation of the process. -/
def Advances (p : Process B C) (a : Arrival C) (p' : Process B C) : Prop :=
  p' = p.read a

/-! ## Serving a request -/

/-- A request starts by getting a statement. -/
lemma serve_eq (f : Faults) (r : Request) :
    serve (B := B) f r = createStatement f >>= fun _ => withStatement f r := by
  cases r <;> rfl

lemma keeps_executeQuery (f : Faults) (k : ℕ) (sql : Text) :
    Act.Keeps Server.connected (executeQuery (B := B) f k sql) := by
  intro s
  cases fault : f.statement k with
  | some ids => rw [Act.after_eq_of_error (run_executeQuery_fail fault)]
  | none =>
      cases effect : B.execute sql s.store with
      | none => rw [Act.after_eq_of_error (run_executeQuery_reject fault effect)]
      | some out =>
          rw [Act.after_eq_of_ok (run_executeQuery_ok fault effect)]
          rfl

/-- The rest of it leaves the flag alone. -/
lemma keeps_withStatement (f : Faults) (r : Request) :
    Act.Keeps Server.connected (withStatement (B := B) f r) := by
  have query := fun k sql => keeps_executeQuery (B := B) f k sql
  cases r with
  | addBillboard a => exact .bind (query 0 _) fun _ => .bind (query 1 _) fun _ => .pure ()
  | addView a => exact .bind (query 0 _) fun _ => .pure ()
  | showTable =>
      refine .bind (query 0 _) fun rows => .bind ?_ fun _ => .modify fun _ => rfl
      exact fun s => congrArg Server.connected (keeps_readTable f.resultSet rows s)
  | delete d => exact .bind (query 0 _) fun _ => .pure ()
  | editTable e => exact .bind (query 0 _) fun _ => .pure ()

/-- **A request served through `getInstance`** is served as by the flag. -/
lemma serve_refines {env : Environment C} (swallows : env.escapes = none) {p : Process B C}
    (flag : p.main.server.connected = p.db.instance_.isSome) (f : Faults) (r : Request) :
    (p.serve env f r).main = p.main.serve (f.inEnvironment env) r := by
  have same : p.main.server.withField p.db = p.main.server := by
    rw [Server.withField, ← flag]
  have statement := createStatement_refines f swallows p.main.server p.db
  have rest : withStatement (B := B) (f.inEnvironment env) r = withStatement f r := by
    cases r <;> rfl
  rw [same] at statement
  rw [Process.serve, Main.serve, serve_eq, rest]
  cases run : (instanceStatement env f.createStatement).run p.db with
  | error t db =>
      rw [run] at statement
      rw [Act.run_bind_of_error statement]
  | ok u db =>
      rw [run] at statement
      rw [Act.run_bind_of_ok statement]
      dsimp only
      cases (withStatement f r).run (p.main.server.withField db) <;> rfl

/-- **The process refines `main`.** -/
theorem read_refines {p : Process B C} {a : Arrival C} (swallows : a.env.escapes = none)
    (flag : p.main.server.connected = p.db.instance_.isSome) :
    (p.read a).main = (p.main.read (a.faults.inEnvironment a.env) a.stream).1 := by
  rcases read_cases p.main a.stream with ⟨r, completes, serves⟩ | ⟨completes, position, moves, -⟩
  · simp only [Process.read, completes, serves]
    exact serve_refines swallows flag a.faults r
  · simp only [Process.read, completes, moves]

/-! ## The first attempt decides -/

lemma after_instanceStatement (env : Environment C) (fails : Bool) (db : DBConnection C) :
    (instanceStatement env fails).after db = db.asked env := by
  rw [Act.after, run_instanceStatement]
  cases db.escapes env with
  | none => dsimp only; split_ifs <;> rfl
  | some t => rfl

variable {p p' : Process B C} {a : Arrival C} {arrivals later : List (Arrival C)}

/-- A request asks for the connection, and leaves the flag as the field says. -/
lemma serve_asks (env : Environment C) (f : Faults) (p : Process B C) (r : Request) :
    (p.serve env f r).db = p.db.asked env
      ∧ (p.serve env f r).main.server.connected = (p.db.asked env).instance_.isSome := by
  have asked := after_instanceStatement env f.createStatement p.db
  rw [Process.serve]
  cases run : (instanceStatement env f.createStatement).run p.db with
  | error t db =>
      rw [Act.after_eq_of_error run] at asked
      exact ⟨asked, congrArg (fun db => db.instance_.isSome) asked⟩
  | ok u db =>
      rw [Act.after_eq_of_ok run] at asked
      have kept := keeps_withStatement f r (p.main.server.withField db)
      dsimp only
      cases rest : (withStatement f r).run (p.main.server.withField db) with
      | ok u server =>
          rw [Act.after_eq_of_ok rest] at kept
          exact ⟨asked, kept.trans (congrArg (fun db => db.instance_.isSome) asked)⟩
      | error t server =>
          rw [Act.after_eq_of_error rest] at kept
          exact ⟨asked, kept.trans (congrArg (fun db => db.instance_.isSome) asked)⟩

/-- `main` has ended for want of a connection: by the call on `null`, or by what the constructor let
through. -/
def NoConnection (arrivals : List (Arrival C)) (position : Position) : Prop :=
  position = .ended .nullPointer
    ∨ ∃ a ∈ arrivals, ∃ t, a.env.escapes = some t ∧ position = .ended t

/-- A request that finds no connection ends `main`. -/
lemma serve_ends (mem : a ∈ arrivals) (first : p.db.instance_ = none)
    (null : (p.db.asked a.env).instance_ = none) (r : Request) :
    NoConnection arrivals (p.serve a.env a.faults r).main.position := by
  have run := run_instanceStatement a.env a.faults.createStatement p.db
  have attempt : p.db.escapes a.env = a.env.escapes := by rw [DBConnection.escapes, first]
  rw [attempt] at run
  cases escapes : a.env.escapes with
  | none =>
      rw [escapes, null] at run
      simp only [Process.serve, run]
      exact .inl rfl
  | some t =>
      rw [escapes] at run
      simp only [Process.serve, run]
      refine .inr ⟨a, mem, t, escapes, ?_⟩
      have other := escapes_printed escapes
      cases t <;> first | rfl | cases other

/-- The class has not been asked for a connection, or has one, or could not get one and `main` has
ended. -/
structure Asked (arrivals : List (Arrival C)) (p : Process B C) : Prop where
  flag : p.main.server.connected = p.db.instance_.isSome
  once : p.db = .loaded ∨ p.db.constructed = 1
    ∧ (p.db.instance_.isSome = true ∨ NoConnection arrivals p.main.position)

lemma NoConnection.ended {position : Position} (h : NoConnection arrivals position) :
    ∃ t, position = .ended t := by
  rcases h with ended | ⟨a, -, t, -, ended⟩
  · exact ⟨_, ended⟩
  · exact ⟨t, ended⟩

/-- A server process that has ended completes no request. -/
lemma completed_of_ended {main : Main B} (ended : ∃ t, main.position = .ended t)
    (stream : List Item) : main.completed stream = none := by
  obtain ⟨t, ended⟩ := ended
  simp only [Main.completed, ended]

/-- Where the process has nothing but a field that is `null`, it has ended. -/
lemma Asked.ended (asked : Asked arrivals p) (once : p.db.constructed = 1)
    (null : p.db.instance_ = none) : NoConnection arrivals p.main.position := by
  rcases asked.once with start | ⟨-, set | ended⟩
  · rw [start] at once
    cases once
  · rw [null] at set
    cases set
  · exact ended

/-- **One read** keeps it. -/
lemma asked_step (mem : a ∈ arrivals) (asked : Asked arrivals p) (step : Advances p a p') :
    Asked arrivals p' := by
  subst step
  rcases read_cases p.main a.stream with ⟨r, completes, -⟩ | ⟨completes, position, moves, ended⟩
  · have reads : p.read a = p.serve a.env a.faults r := by simp only [Process.read, completes]
    obtain ⟨db, flag⟩ := serve_asks a.env a.faults p r
    rw [reads]
    refine ⟨by rw [flag, db], .inr ?_⟩
    rw [db]
    cases field : p.db.instance_ with
    | some c =>
        have kept : p.db.asked a.env = p.db := by rw [DBConnection.asked, field]
        rcases asked.once with start | ⟨once, -⟩
        · rw [start] at field
          cases field
        · rw [kept, field]
          exact ⟨once, .inl rfl⟩
    | none =>
        rcases asked.once with start | ⟨once, -⟩
        · refine ⟨by rw [start]; rfl, ?_⟩
          cases null : (p.db.asked a.env).instance_ with
          | some c => exact .inl rfl
          | none => exact .inr (serve_ends mem field null r)
        · rw [completed_of_ended (asked.ended once field).ended] at completes
          cases completes
  · have reads : p.read a = { p with main := { p.main with position := position } } := by
      simp only [Process.read, completes, moves]
    rw [reads]
    refine ⟨asked.flag, asked.once.imp_right fun h => ⟨h.1, h.2.imp_right ?_⟩⟩
    rintro (null | ⟨a', mem', t, escapes, threw⟩)
    · exact .inl (ended _ null)
    · exact .inr ⟨a', mem', t, escapes, ended t threw⟩

/-- The field is this one, and where it is `null`, `main` has ended. -/
structure Settled (db : DBConnection C) (p : Process B C) : Prop where
  same : p.db = db
  ended : db.instance_ = none → ∃ t, p.main.position = .ended t

/-- Once settled, the class does not change any more. -/
lemma settled_step {db : DBConnection C} (settled : Settled db p) (step : Advances p a p') :
    Settled db p' := by
  subst step
  rcases read_cases p.main a.stream with ⟨r, completes, -⟩ | ⟨completes, position, moves, ended⟩
  · cases field : db.instance_ with
    | none =>
        rw [completed_of_ended (settled.ended field)] at completes
        cases completes
    | some c =>
        have reads : p.read a = p.serve a.env a.faults r := by simp only [Process.read, completes]
        refine ⟨?_, fun null => by rw [field] at null; cases null⟩
        rw [reads, (serve_asks a.env a.faults p r).1, settled.same, DBConnection.asked, field]
  · have reads : p.read a = { p with main := { p.main with position := position } } := by
      simp only [Process.read, completes, moves]
    rw [reads]
    refine ⟨settled.same, fun null => ?_⟩
    obtain ⟨t, before⟩ := settled.ended null
    exact ⟨t, ended t before⟩

lemma asked_reaches {main : Main B} (fresh : main.server.connected = false)
    (run : Reaches Advances ⟨main, .loaded⟩ arrivals p) : Asked arrivals p := by
  have start : Asked (C := C) arrivals ⟨main, .loaded⟩ := ⟨fresh, .inl rfl⟩
  refine reaches_invariant_of_everyStep (C := fun _ a => a ∈ arrivals) (P := Asked arrivals)
    (fun _ _ _ asked step mem => asked_step mem asked step) start ?_ run
  intro pre a post m s' split _ _
  rw [split]
  exact List.mem_append_right pre (.head post)

/-- **A process tries to connect at most once.**  Whatever fails in whichever order, `DBConnection`
is constructed at most once, and from then on its field stays as it is: a connection that serves
every later request, or `null`, which has ended `main`, by the call on `null` or by an exception of
loading the properties that no `catch` clause takes. -/
theorem connects_once {main : Main B} (fresh : main.server.connected = false)
    (run : Reaches Advances ⟨main, .loaded⟩ arrivals p) (run' : Reaches Advances p later p') :
    p.db.constructed ≤ 1 ∧ p.main.server.connected = p.db.instance_.isSome
      ∧ (p.db.constructed = 1 → p'.db = p.db
        ∧ (p.db.instance_ = none → p.main.position = .ended .nullPointer
          ∨ ∃ a ∈ arrivals, ∃ t, a.env.escapes = some t ∧ p.main.position = .ended t)) := by
  have asked : Asked arrivals p := asked_reaches fresh run
  refine ⟨?_, asked.flag, fun once => ⟨?_, asked.ended once⟩⟩
  · rcases asked.once with start | ⟨once, -⟩
    · rw [start]
      exact Nat.zero_le 1
    · exact once.le
  · have settled : Settled p.db p := ⟨rfl, fun null => (asked.ended once null).ended⟩
    exact (reaches_invariant (P := Settled p.db) (fun _ _ _ => settled_step) settled run').same

/-- A machine on which the properties file is missing; the driver would connect. -/
def Environment.withoutFile : Environment Unit :=
  ⟨true, .ok fun _ => none, false, fun _ _ _ => some ()⟩

/-- The first request cannot be served without the file.  The file is there for the second one,
which is not even read. -/
theorem connects_once_withoutFile :
    let start : Process (MariaDb.simple .infoMessage).backend Unit :=
      ⟨⟨.initial, .readTag, []⟩, .loaded⟩
    let first : Arrival Unit := ⟨.withoutFile, Faults.none, Request.showTable.items⟩
    let second := { first with env := { Environment.withoutFile with openFails := false } }
    second.env.attempt = some ()
      ∧ ((start.read first).read second).db.instance_ = none
      ∧ (start.read first).main.position = .ended .nullPointer := by
  intro start first second
  have run : Reaches Advances start [first] (start.read first) := ⟨_, rfl, rfl⟩
  have run' : Reaches Advances (start.read first) [second] ((start.read first).read second) :=
    ⟨_, rfl, rfl⟩
  obtain ⟨-, -, decided⟩ := connects_once rfl run run'
  obtain ⟨stays, ended⟩ := decided (by decide +kernel)
  refine ⟨rfl, ?_, (ended (by decide +kernel)).resolve_right ?_⟩
  · rw [stays]
    decide +kernel
  · rintro ⟨a, mem, t, escapes, -⟩
    obtain rfl := List.mem_singleton.mp mem
    cases escapes

/-- A file with a malformed escape ends the process by the exception of loading it. -/
example :
    let env : Environment Unit := ⟨false, .error .illegalArgument, false, fun _ _ _ => some ()⟩
    let start : Process (MariaDb.simple .infoMessage).backend Unit :=
      ⟨⟨.initial, .readTag, []⟩, .loaded⟩
    (start.read ⟨env, Faults.none, Request.showTable.items⟩).main.position
      = .ended .illegalArgument := by
  decide +kernel

end Billboard
