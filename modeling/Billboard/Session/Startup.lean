import Billboard.Session.Session

/-!
# The start of a session

The constructor of `clientGUI` and `Server.main` up to its loop, in any interleaving.  Each of them
writes the header of its `ObjectOutputStream` before it waits for the header of the other, then the
window asks for the table and waits for the reply.

Whether the constructor of `ObjectOutputStream` hands the header on, or leaves it in its buffer
until the next `flush`, its documentation does not say: it is the parameter `drains`.

* **`startup_ends`** — the order of the steps does not matter: every run can be continued to one
  and the same end, in the same number of steps.  If the header is handed on, the window opens with
  the reply, or throws where the database has failed; otherwise both wait for ever.
* `startup_opens` — on the tables, where no database call fails, this end is the state in which a
  session begins.
-/

namespace Billboard

open Java Runs

variable {B : Backend}

/-! ## The two parties -/

/-- Where the constructor of `clientGUI` stands. -/
inductive Opening
  /-- `new Socket("localhost", 3310)` -/
  | connect
  /-- `new ObjectOutputStream(os)` -/
  | writeHeader
  /-- `new ObjectInputStream(inputStream)` -/
  | readHeader
  /-- `oos.writeUTF("showTable"); oos.flush()` -/
  | request
  /-- `ois.readObject()` -/
  | readTable
  | returned (client : Client)
  | threw (t : Throwable)

/-- A window and its connection to the server. -/
structure Link where
  window : Opening
  connected : Bool
  /-- The header of the window's stream can be read. -/
  headerToServer : Bool
  headerToClient : Bool
  toServer : List Item
  toClient : List DataArray

/-- The window is about to open. -/
def Link.start : Link where
  window := .connect
  connected := false
  headerToServer := false
  headerToClient := false
  toServer := []
  toClient := []

/-- The next step of the constructor; `none` while it waits.  Where the server process has ended,
its side of the connection is closed. -/
def Link.step (drains ended : Bool) (l : Link) : Option Link :=
  match l.window with
  | .connect => some { l with connected := true, window := .writeHeader }
  | .writeHeader =>
      some { l with headerToServer := l.headerToServer || drains, window := .readHeader }
  | .readHeader => if l.headerToClient then some { l with window := .request } else none
  | .request => some
      { l with
        headerToServer := true
        toServer := l.toServer ++ Request.showTable.items
        window := .readTable }
  | .readTable =>
      match l.toClient with
      | tableData :: rest =>
          some { l with toClient := rest, window := .returned (Client.start tableData) }
      | [] => if ended then some { l with window := .threw .eof } else none
  | .returned _ => none
  | .threw _ => none

/-- Where `Server.main` stands; its socket is bound. -/
inductive Starting
  /-- `serverSocket.accept()` -/
  | accept
  | writeHeader
  | readHeader
  | loop

/-- The server process. -/
structure Host (B : Backend) where
  starting : Starting
  main : Main B

/-- The server waits for a connection. -/
def Host.start (server : Server B) : Host B :=
  ⟨.accept, ⟨server, .readTag, []⟩⟩

/-- The process has ended by an exception. -/
def Host.ended (h : Host B) : Bool :=
  match h.main.position with
  | .ended _ => true
  | _ => false

@[simp] lemma Host.ended_mk (h : Host B) (starting : Starting) :
    Host.ended ⟨starting, h.main⟩ = h.ended := rfl

/-- The server after it has read an item of a stream, and its connection. -/
def Host.read (f : Faults) (h : Host B) (l : Link) (stream : List Item) : Host B × Link :=
  ({ h with main := (h.main.read f stream).1 },
    { l with
      toServer := (h.main.read f stream).2
      toClient := l.toClient ++
        (h.main.read f stream).1.server.replies.drop h.main.server.replies.length })

/-- The next step of the server on its connection. -/
def Host.step (drains : Bool) (f : Faults) (h : Host B) (l : Link) : Option (Host B × Link) :=
  match h.starting with
  | .accept => if l.connected then some ({ h with starting := .writeHeader }, l) else none
  | .writeHeader => some
      ({ h with starting := .readHeader },
        { l with headerToClient := l.headerToClient || drains })
  | .readHeader => if l.headerToServer then some ({ h with starting := .loop }, l) else none
  | .loop =>
      if h.ended then none
      else match l.toServer with
        | [] => none
        | i :: rest => some (h.read f l (i :: rest))

/-! ## Together -/

/-- A window and the server. -/
structure Startup (B : Backend) where
  link : Link
  host : Host B

def Startup.start (server : Server B) : Startup B :=
  ⟨.start, .start server⟩

inductive Party
  | window
  | server
  deriving DecidableEq

def Startup.step (drains : Bool) (f : Faults) (s : Startup B) : Party → Option (Startup B)
  | .window => (s.link.step drains s.host.ended).map fun l => { s with link := l }
  | .server => (s.host.step drains f s.link).map fun next => ⟨next.2, next.1⟩

def Starts (drains : Bool) (f : Faults) (s : Startup B) (party : Party) (s' : Startup B) : Prop :=
  s.step drains f party = some s'

/-- The session that has begun once the constructor has returned. -/
def Startup.session (s : Startup B) : Option (Session B) :=
  match s.link.window with
  | .returned client => some ⟨client, false, s.link.toServer, s.host.main⟩
  | _ => none

/-! ## The steps commute -/

/-- A read that finds an item is not affected by what arrives behind. -/
lemma read_append (f : Faults) (main : Main B) (i : Item) (rest more : List Item) :
    main.read f (i :: rest ++ more)
      = ((main.read f (i :: rest)).1, (main.read f (i :: rest)).2 ++ more) := by
  cases position : main.position with
  | readTag =>
      cases i with
      | object p => simp only [Main.read, position, readUTF, List.cons_append]
      | utf x =>
          simp only [Main.read, position, readUTF, List.cons_append]
          cases switchOn x <;> rfl
  | readPayload c =>
      cases i with
      | utf x => simp only [Main.read, position, readObject, List.cons_append]
      | object p =>
          simp only [Main.read, position, readObject, List.cons_append]
          cases c.cast p <;> rfl
  | ended t => simp only [Main.read, position, List.cons_append]

lemma Host.step_loop {drains : Bool} {f : Faults} {h : Host B} {l : Link} {i : Item}
    {rest : List Item} (starting : h.starting = .loop) (running : h.ended = false)
    (arrived : l.toServer = i :: rest) : h.step drains f l = some (h.read f l (i :: rest)) := by
  simp [Host.step, starting, running, arrived]

/-- The steps of the server. -/
lemma Host.step_cases {drains : Bool} {f : Faults} {h h' : Host B} {l l' : Link}
    (step : h.step drains f l = some (h', l')) :
    h.starting = .accept ∧ l.connected = true ∧ h' = { h with starting := .writeHeader } ∧ l' = l
      ∨ h.starting = .writeHeader ∧ h' = { h with starting := .readHeader }
        ∧ l' = { l with headerToClient := l.headerToClient || drains }
      ∨ h.starting = .readHeader ∧ l.headerToServer = true ∧ h' = { h with starting := .loop }
        ∧ l' = l
      ∨ h.starting = .loop ∧ h.ended = false
        ∧ ∃ i rest, l.toServer = i :: rest ∧ (h', l') = h.read f l (i :: rest) := by
  cases starting : h.starting with
  | accept =>
      simp only [Host.step, starting] at step
      split_ifs at step with connected
      obtain ⟨rfl, rfl⟩ := Prod.mk.inj (Option.some.inj step)
      exact .inl ⟨rfl, connected, rfl, rfl⟩
  | writeHeader =>
      simp only [Host.step, starting] at step
      obtain ⟨rfl, rfl⟩ := Prod.mk.inj (Option.some.inj step)
      exact .inr (.inl ⟨rfl, rfl, rfl⟩)
  | readHeader =>
      simp only [Host.step, starting] at step
      split_ifs at step with header
      obtain ⟨rfl, rfl⟩ := Prod.mk.inj (Option.some.inj step)
      exact .inr (.inr (.inl ⟨rfl, header, rfl, rfl⟩))
  | loop =>
      simp only [Host.step, starting] at step
      split_ifs at step with ended
      cases arrived : l.toServer with
      | nil => simp [arrived] at step
      | cons i rest =>
          simp only [arrived] at step
          exact .inr (.inr (.inr
            ⟨rfl, by simpa using ended, i, rest, rfl, (Option.some.inj step).symm⟩))

lemma Link.step_request {drains ended : Bool} {l : Link} (at_ : l.window = .request) :
    l.step drains ended = some
      { l with
        headerToServer := true
        toServer := l.toServer ++ Request.showTable.items
        window := .readTable } := by
  simp only [Link.step, at_]

/-- The steps of the window. -/
lemma Link.step_cases {drains ended : Bool} {l l' : Link} (step : l.step drains ended = some l') :
    l.window = .connect ∧ l' = { l with connected := true, window := .writeHeader }
      ∨ l.window = .writeHeader
        ∧ l' = { l with headerToServer := l.headerToServer || drains, window := .readHeader }
      ∨ l.window = .readHeader ∧ l.headerToClient = true ∧ l' = { l with window := .request }
      ∨ l.window = .request
        ∧ l' =
          { l with
            headerToServer := true
            toServer := l.toServer ++ Request.showTable.items
            window := .readTable }
      ∨ l.window = .readTable
        ∧ ((∃ tableData rest, l.toClient = tableData :: rest
            ∧ l' = { l with toClient := rest, window := .returned (Client.start tableData) })
          ∨ l.toClient = [] ∧ ended = true ∧ l' = { l with window := .threw .eof }) := by
  cases at_ : l.window with
  | connect =>
      simp only [Link.step, at_] at step
      exact .inl ⟨rfl, (Option.some.inj step).symm⟩
  | writeHeader =>
      simp only [Link.step, at_] at step
      exact .inr (.inl ⟨rfl, (Option.some.inj step).symm⟩)
  | readHeader =>
      simp only [Link.step, at_] at step
      split_ifs at step with header
      exact .inr (.inr (.inl ⟨rfl, header, (Option.some.inj step).symm⟩))
  | request =>
      simp only [Link.step, at_] at step
      exact .inr (.inr (.inr (.inl ⟨rfl, (Option.some.inj step).symm⟩)))
  | readTable =>
      refine .inr (.inr (.inr (.inr ⟨rfl, ?_⟩)))
      cases reply : l.toClient with
      | cons tableData rest =>
          simp only [Link.step, at_, reply] at step
          exact .inl ⟨tableData, rest, rfl, (Option.some.inj step).symm⟩
      | nil =>
          simp only [Link.step, at_, reply] at step
          split_ifs at step with gone
          exact .inr ⟨rfl, gone, (Option.some.inj step).symm⟩
  | returned client => simp [Link.step, at_] at step
  | threw t => simp [Link.step, at_] at step

/-- **A step of the window and one of the server** lead to the same in either order. -/
lemma commutes_link_host {drains : Bool} {f : Faults} {l l₁ l₂ : Link} {h h₂ : Host B}
    (window : l.step drains h.ended = some l₁) (server : h.step drains f l = some (h₂, l₂)) :
    ∃ l', h.step drains f l₁ = some (h₂, l') ∧ l₂.step drains h₂.ended = some l' := by
  rcases Link.step_cases window with ⟨at_, rfl⟩ | ⟨at_, rfl⟩ | ⟨at_, header, rfl⟩ | ⟨at_, rfl⟩ |
    ⟨at_, ⟨tableData, left, reply, rfl⟩ | ⟨reply, ended, rfl⟩⟩ <;>
  rcases Host.step_cases server with ⟨starting, connected, rfl, rfl⟩ | ⟨starting, rfl, rfl⟩ |
    ⟨starting, header', rfl, rfl⟩ | ⟨starting, running, i, rest, arrived, next⟩
  -- the request of the window arrives behind the item that is read
  case inr.inr.inr.inl.inr.inr.inr =>
    obtain ⟨rfl, rfl⟩ := Prod.mk.inj next
    have behind : l.toServer ++ Request.showTable.items
        = i :: (rest ++ Request.showTable.items) := by rw [arrived, List.cons_append]
    have read := read_append f h.main i rest Request.showTable.items
    rw [List.cons_append] at read
    refine ⟨_, (Host.step_loop starting running behind).trans ?_, Link.step_request at_⟩
    simp only [Host.read, read]
  -- the server has ended, and takes no step
  case inr.inr.inr.inr.inr.inr.inr.inr =>
    rw [running] at ended
    cases ended
  all_goals first
    | obtain ⟨rfl, rfl⟩ := Prod.mk.inj next
      refine ⟨_, Host.step_loop starting running arrived, ?_⟩
      simp [Link.step, *]
    | simp [Link.step, Host.step, *]

lemma starts_window {drains : Bool} {f : Faults} {s s' : Startup B} :
    Starts drains f s .window s'
      ↔ ∃ l, s.link.step drains s.host.ended = some l ∧ s' = ⟨l, s.host⟩ := by
  simp [Starts, Startup.step, eq_comm]

lemma starts_server {drains : Bool} {f : Faults} {s s' : Startup B} :
    Starts drains f s .server s'
      ↔ ∃ h l, s.host.step drains f s.link = some (h, l) ∧ s' = ⟨l, h⟩ := by
  simp [Starts, Startup.step, eq_comm]

lemma commutes_starts (drains : Bool) (f : Faults) : Commutes (Starts (B := B) drains f) := by
  have both : ∀ s a b : Startup B, Starts drains f s .window a → Starts drains f s .server b →
      ∃ c, Starts drains f a .server c ∧ Starts drains f b .window c := by
    intro s a b window server
    obtain ⟨l, opens, rfl⟩ := starts_window.mp window
    obtain ⟨h, l₂, serves, rfl⟩ := starts_server.mp server
    obtain ⟨l', left, right⟩ := commutes_link_host opens serves
    exact ⟨⟨l', h⟩, starts_server.mpr ⟨h, l', left, rfl⟩, starts_window.mpr ⟨l', right, rfl⟩⟩
  intro s party party' a b other step step'
  cases party with
  | window =>
      cases party' with
      | window => exact absurd rfl other
      | server => exact both s a b step step'
  | server =>
      cases party' with
      | window =>
          obtain ⟨c, left, right⟩ := both s b a step' step
          exact ⟨c, right, left⟩
      | server => exact absurd rfl other

lemma starts_unique (drains : Bool) (f : Faults) (s : Startup B) (party : Party)
    (s' s'' : Startup B) (step : Starts drains f s party s') (step' : Starts drains f s party s'') :
    s' = s'' :=
  Option.some.inj (step.symm.trans step')

/-! ## One run -/

/-- How the start can end. -/
inductive Startup.Ended (drains : Bool) (f : Faults) (server : Server B) (s : Startup B) : Prop
  /-- The window displays the reply, and the session has begun. -/
  | opened (tableData : DataArray) (server' : Server B) (drained : drains = true)
      (served : (serve f .showTable).run server = .ok () server')
      (replied : server'.replies = server.replies ++ [tableData])
      (session : s.session = some (Session.opened tableData server'))
  /-- The database has failed: the server process ends, and the window meets the end of its
  stream. -/
  | failed (t : Throwable) (server' : Server B) (drained : drains = true)
      (thrown : (serve f .showTable).run server = .error t server') (database : FromDatabase t)
      (position : s.host.main.position = .ended t) (window : s.link.window = .threw .eof)
  /-- Each waits for the header of the other. -/
  | waiting (buffered : drains = false) (window : s.link.window = .readHeader)
      (server : s.host.starting = .readHeader)

/-- How many steps it takes. -/
def startupLength (drains : Bool) : ℕ :=
  if drains then 9 else 4

/-- The reply to a `showTable` that completes. -/
lemma reply_of_ok {f : Faults} {s s' : Server B} (h : (serve f .showTable).run s = .ok () s') :
    ∃ tableData, s'.replies = s.replies ++ [tableData] := by
  rw [serve, serveShowTable, Act.run_bind_eq_ok] at h
  obtain ⟨u, m, create, h⟩ := h
  rw [Act.run_bind_eq_ok] at h
  obtain ⟨rows, m', query, h⟩ := h
  rw [Act.run_bind_eq_ok] at h
  obtain ⟨data, m'', read, written⟩ := h
  have connected : m.replies = s.replies := by
    rw [← Act.after_eq_of_ok create]
    exact congrArg (fun done => done.2.2) (done_createStatement f s)
  have queried : m'.replies = m.replies := by
    rcases run_executeQuery_cases f 0 selectViewSql m with ⟨store, rows', -, run⟩ | ⟨-, m₀, run⟩
    · rw [run] at query
      obtain ⟨-, rfl⟩ := EStateM.Result.ok.inj query
      rfl
    · rw [run] at query
      cases query
  have kept : m'' = m' := by
    rw [← Act.after_eq_of_ok read]
    exact keeps_readTable _ _ m'
  obtain ⟨-, rfl⟩ := EStateM.Result.ok.inj written
  refine ⟨⟨data⟩, ?_⟩
  show m''.replies ++ [⟨data⟩] = _
  rw [kept, queried, connected]

/-- The window waits for the table, both headers having been read. -/
def Link.waiting (items : List Item) (replies : List DataArray) : Link where
  window := .readTable
  connected := true
  headerToServer := true
  headerToClient := true
  toServer := items
  toClient := replies

/-- The replies of the server to the request of the window. -/
def Host.replies (f : Faults) (server : Server B) : List DataArray :=
  (Main.serve f ⟨server, .readTag, []⟩ .showTable).server.replies.drop server.replies.length

lemma starts_serve (drains : Bool) (f : Faults) (server : Server B) :
    Starts drains f ⟨.waiting Request.showTable.items [], ⟨.loop, ⟨server, .readTag, []⟩⟩⟩ .server
      ⟨.waiting [] (Host.replies f server),
        ⟨.loop, Main.serve f ⟨server, .readTag, []⟩ .showTable⟩⟩ := by
  have read : Main.read f ⟨server, .readTag, []⟩ Request.showTable.items
      = (Main.serve f ⟨server, .readTag, []⟩ .showTable, []) := read_showTable f [] rfl
  have reads : Host.read f ⟨.loop, ⟨server, .readTag, []⟩⟩ (.waiting Request.showTable.items [])
        Request.showTable.items
      = (⟨.loop, Main.serve f ⟨server, .readTag, []⟩ .showTable⟩,
          .waiting [] (Host.replies f server)) := by
    rw [Host.read, read]
    rfl
  exact starts_server.mpr ⟨_, _, (Host.step_loop rfl rfl rfl).trans (congrArg some reads), rfl⟩

lemma reaches_served (f : Faults) (server : Server B) :
    Reaches (Starts true f) (Startup.start server)
      [.window, .window, .server, .server, .server, .window, .window, .server]
      ⟨.waiting [] (Host.replies f server),
        ⟨.loop, Main.serve f ⟨server, .readTag, []⟩ .showTable⟩⟩ := by
  have asks : Reaches (Starts true f) (Startup.start server)
      [.window, .window, .server, .server, .server, .window, .window]
      ⟨.waiting Request.showTable.items [], ⟨.loop, ⟨server, .readTag, []⟩⟩⟩ :=
    ⟨_, rfl, _, rfl, _, rfl, _, rfl, _, rfl, _, rfl, _, rfl, rfl⟩
  exact (reaches_snoc _ _ _ _ _).mpr ⟨_, asks, starts_serve true f server⟩

/-- **One run** comes to such an end. -/
lemma run_startup (drains : Bool) (f : Faults) (server : Server B) :
    ∃ steps final, Reaches (Starts drains f) (Startup.start server) steps final
      ∧ steps.length = startupLength drains ∧ final.Ended drains f server
      ∧ ∀ party s', ¬ Starts drains f final party s' := by
  cases drains with
  | false =>
      refine ⟨[.window, .window, .server, .server], _,
        ⟨_, rfl, _, rfl, _, rfl, _, rfl, rfl⟩, rfl, .waiting rfl rfl rfl, ?_⟩
      intro party s'
      cases party <;> simp [Starts, Startup.step, Link.step, Host.step, Link.start, Startup.start]
  | true =>
      have serves := reaches_served f server
      rcases serve_cases f ⟨server, .readTag, []⟩ .showTable with
        ⟨server', run, main⟩ | ⟨t, server', database, run, main⟩
      · obtain ⟨tableData, replied⟩ := reply_of_ok run
        have reply : Host.replies f server = [tableData] := by
          rw [Host.replies, main, replied, List.drop_left]
        rw [main, reply] at serves
        refine ⟨_, _, (reaches_snoc _ _ _ _ _).mpr
          ⟨_, serves, show Starts _ _ _ .window _ from rfl⟩, rfl,
          .opened tableData server' rfl run replied rfl, ?_⟩
        intro party s'
        cases party <;> simp [Starts, Startup.step, Link.step, Host.step, Link.waiting, Host.ended]
      · have silent : Host.replies f server = [] := by
          obtain ⟨performed, rest, m, -, progress, abandoned, -⟩ := progress_of_error run
          rw [Host.replies, main, abandoned.replies, List.drop_eq_nil_iff, progress.replies]
          exact le_refl _
        rw [main, silent] at serves
        refine ⟨_, _, (reaches_snoc _ _ _ _ _).mpr
          ⟨_, serves, show Starts _ _ _ .window _ from rfl⟩, rfl,
          .failed t server' rfl run database rfl rfl, ?_⟩
        intro party s'
        cases party <;> simp [Starts, Startup.step, Link.step, Host.step, Host.ended]

/-- **The start of a session.**  In whichever order the window and the server take their steps, and
whichever database call fails, every run can be continued to one and the same end, a state in which
neither can take a step, and takes as many steps to it. -/
theorem startup_ends (drains : Bool) (f : Faults) (server : Server B) :
    ∃ final : Startup B, final.Ended drains f server
      ∧ (∀ party s', ¬ Starts drains f final party s')
      ∧ ∀ steps s, Reaches (Starts drains f) (Startup.start server) steps s →
        ∃ rest, Reaches (Starts drains f) s rest final
          ∧ steps.length + rest.length = startupLength drains := by
  obtain ⟨one, final, run, length, ended, stuck⟩ := run_startup drains f server
  refine ⟨final, ended, stuck, fun steps s run' => ?_⟩
  rw [← length]
  exact reaches_final (starts_unique drains f) (commutes_starts drains f) stuck run run'

/-- **The session begins with the table `view`**, where no database call fails: every run of the
start can be continued to the state in which the session opens, the tables as they were. -/
theorem startup_opens {m : MariaDb} (server : Server m.backend) (steps : List Party)
    (s : Startup m.backend)
    (run : Reaches (Starts true Faults.none) (Startup.start server) steps s) :
    ∃ rest final server', Reaches (Starts true Faults.none) s rest final
      ∧ final.session = some (Session.opened ⟨Db.displayed server.store⟩ server')
      ∧ server'.store = server.store := by
  obtain ⟨one, final, run', -, ended, stuck⟩ := run_startup true Faults.none server
  obtain ⟨rest, continued, -⟩ :=
    reaches_final (starts_unique true Faults.none) (commutes_starts true Faults.none) stuck run' run
  obtain ⟨server₀, serves, served⟩ := run_serveShowTable_none server
  cases ended with
  | opened tableData server' drained run₁ replied session =>
      obtain ⟨-, rfl⟩ := EStateM.Result.ok.inj (serves.symm.trans run₁)
      have reply : [tableData] = [⟨Db.displayed server.store⟩] :=
        List.append_cancel_left (replied.symm.trans served.replies)
      obtain rfl := List.singleton_inj.mp reply
      exact ⟨rest, final, server₀, continued, session, served.store⟩
  | failed t server' drained thrown =>
      have both := serves.symm.trans thrown
      cases both
  | waiting buffered => cases buffered

end Billboard
