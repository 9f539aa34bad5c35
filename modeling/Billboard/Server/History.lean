import Billboard.Server.Agreement
import Billboard.Server.Atomicity

/-!
# Histories of the tables

Over the life of the database one server process follows another, and each may fail anywhere.
`Attempts` is one request dealt with by some process, completed or not, and a history is a run of
these.  The rows at its end can be traced back:

* **`view_origin`** — a row of `view` has the texts of a row that was there at the start under the
  same id, or of the `addBillboard` of the history that drew the id.
* `view_not_reused` — so an id that `view` has given out and that is gone does not come back.
* **`billboard_origin`** — a row of `billboard` has the texts it had at the start, or of an
  `addBillboard` or `editTable` of the history, and no row of `billboard` is ever lost.

The first two rest on the counter that `view` is taken to draw its ids from.
-/

namespace Billboard

open Java Runs Sql

variable {m : MariaDb}

/-! ## One request, completed or not -/

/-- Some server process, any of whose database calls may fail, deals with the request.  The request
is free of quotes and backslashes. -/
def Attempts (db : Db m) (r : Request) (db' : Db m) : Prop :=
  r.Plain ∧ ∃ (f : Faults) (s : Server m.backend), s.store = db ∧ ((serve f r).after s).store = db'

/-- The statement that a text reads as is the one that is executed. -/
lemma execute_of_backend {text : Text} {stmt : Stmt} {db db' : Db m} {rows : List ResultRow}
    (reads : Reads text stmt) (named : stmt.WellNamed)
    (h : m.backend.execute text db = some (db', rows)) :
    ∃ viewRows, execute stmt db = some (db', viewRows) := by
  rw [backend_execute reads named] at h
  obtain ⟨out, effect, e⟩ := Option.map_eq_some_iff.mp h
  obtain ⟨rfl, -⟩ := Prod.mk.inj e
  exact ⟨out.2, effect⟩

lemma executes_one {text : Text} {db db' : Db m} :
    Executes (B := m.backend) [text] db db'
      ↔ ∃ rows, m.backend.execute text db = some (db', rows) := by
  constructor
  · rintro ⟨mid, ⟨rows, effect⟩, rfl⟩
    exact ⟨rows, effect⟩
  · rintro ⟨rows, effect⟩
    exact ⟨db', ⟨rows, effect⟩, rfl⟩

lemma execute_of_plain {r : Request} {text : Text} {stmt : Stmt} {db db' : Db m}
    {rows : List ResultRow} (plain : r.Plain) (texts : sqlTexts r = [text])
    (meant : intended r = [stmt]) (h : m.backend.execute text db = some (db', rows)) :
    ∃ viewRows, execute stmt db = some (db', viewRows) := by
  have reads : Reads text stmt := by
    have := reads_of_plain plain
    rwa [texts, meant, List.forall₂_cons, and_iff_left .nil] at this
  exact execute_of_backend reads (wellNamed_intended r stmt (by simp [meant])) h

lemma insertView_of_backend {a : Add} (plain : (Request.addBillboard a).Plain) {db db' : Db m}
    {rows : List ResultRow} (h : m.backend.execute (insertViewSql a.getVal) db = some (db', rows)) :
    ∃ room, db' = db.insertView a room := by
  have reads : Reads (insertViewSql a.getVal) (insertViewStmt a) := by
    have all := reads_of_plain plain
    simp only [sqlTexts, intended, List.forall₂_cons] at all
    exact all.2.1
  have named := wellNamed_intended (.addBillboard a) (insertViewStmt a) (by simp [intended])
  obtain ⟨viewRows, effect⟩ := execute_of_backend reads named h
  rw [execute_insertView] at effect
  split_ifs at effect with room
  exact ⟨room, (Prod.mk.inj (Option.some.inj effect)).1.symm⟩

/-- A plain request all of whose statements are executed has its effect. -/
lemma effect_of_executes {r : Request} (plain : r.Plain) {db db' : Db m}
    (h : Executes (B := m.backend) (sqlTexts r) db db') : db.effect r = some db' := by
  cases r with
  | addBillboard a =>
      obtain ⟨db₁, ⟨rows, first⟩, second⟩ := h
      obtain ⟨rows', second⟩ := executes_one.mp second
      obtain ⟨room, rfl⟩ := effect_of_plain_insert plain first
      obtain ⟨room', rfl⟩ := insertView_of_backend plain second
      simp only [Db.effect, dif_pos room, dif_pos room']
  | addView a =>
      obtain ⟨rows, h⟩ := executes_one.mp h
      obtain ⟨viewRows, effect⟩ := execute_of_plain plain rfl rfl h
      rw [execute_updateSchedule] at effect
      exact congrArg some (Prod.mk.inj (Option.some.inj effect)).1
  | showTable =>
      obtain ⟨rows, h⟩ := executes_one.mp h
      rw [backend_execute_select h]
      rfl
  | delete d =>
      obtain ⟨rows, h⟩ := executes_one.mp h
      obtain ⟨viewRows, effect⟩ := execute_of_plain plain rfl rfl h
      rw [execute_delete] at effect
      exact congrArg some (Prod.mk.inj (Option.some.inj effect)).1
  | editTable e =>
      obtain ⟨rows, h⟩ := executes_one.mp h
      obtain ⟨viewRows, effect⟩ := execute_of_plain plain rfl rfl h
      rw [execute_updateBillboard] at effect
      exact congrArg some (Prod.mk.inj (Option.some.inj effect)).1

/-- What an attempt leaves: the effect of the request, the rows as they were, or what the first
`INSERT` of `addBillboard` did.  Ids may have been drawn in vain. -/
inductive Left (db : Db m) (r : Request) (db' : Db m) : Prop
  | completed (effect : db.effect r = some db')
  | nothing (rows : SameRows db db') (counters : CountersLe db db')
  | firstInsert (a : Add) (request : r = .addBillboard a) (room : db.billboard.HasRoom)
      (rows : SameRows (db.insertBillboard a room) db')
      (counters : CountersLe (db.insertBillboard a room) db')

lemma left_of_error {f : Faults} {r : Request} (plain : r.Plain) {t : Throwable}
    {s s' : Server m.backend} (h : (serve f r).run s = .error t s') :
    Left (m := m) s.store r s'.store := by
  obtain ⟨performed, rest, mid, cut, progress, abandoned, -⟩ := progress_of_error h
  have kept := sameRows_givenUp abandoned.store
  have counters := countersLe_givenUp abandoned.store
  cases performed with
  | nil =>
      have same : mid.store = s.store := progress.store
      rw [same] at kept counters
      exact .nothing kept counters
  | cons sql performed =>
      cases rest with
      | nil =>
          -- given up after its last statement, as `showTable` may be
          rw [List.append_nil] at cut
          have same : s'.store = mid.store := by
            rcases abandoned.store with same | ⟨sql', tl, ids, absurd', -⟩
            · exact same
            · cases absurd'
          rw [same]
          exact .completed (effect_of_executes plain (cut ▸ progress.store))
      | cons sql' rest =>
          cases r with
          | addBillboard a =>
              obtain ⟨rfl, others⟩ := List.cons.inj cut
              obtain ⟨rfl, -⟩ : performed = [] ∧ rest = [] := by
                cases performed with
                | nil => exact ⟨rfl, (List.cons.inj others).2.symm⟩
                | cons x performed => simp at others
              obtain ⟨rows, effect⟩ := executes_one.mp progress.store
              obtain ⟨room, first⟩ := effect_of_plain_insert plain effect
              rw [first] at kept counters
              exact .firstInsert a rfl room kept counters
          | addView a => simp [sqlTexts] at cut
          | showTable => simp [sqlTexts] at cut
          | delete d => simp [sqlTexts] at cut
          | editTable e => simp [sqlTexts] at cut

/-- **One attempt.** -/
theorem left_of_attempts {db db' : Db m} {r : Request} (h : Attempts db r db') :
    Left db r db' := by
  obtain ⟨plain, f, s, rfl, rfl⟩ := h
  cases run : (serve f r).run s with
  | ok u s' =>
      rw [Act.after_eq_of_ok run]
      exact .completed (effect_of_executes plain (progress_of_ok run).store)
  | error t s' =>
      rw [Act.after_eq_of_error run]
      exact left_of_error plain run

/-! ## Where a row comes from -/

lemma find_of_rows {Row : Type} {S : Schema Row} {t t' : Table S} (rows : t'.rows = t.rows)
    (i : Int32) : t'.find i = t.find i := by
  rw [Table.find, Table.find, rows]

/-- A row with the four texts of an `Add`. -/
def Add.billboardRow (a : Add) (i : Int32) : BillboardRow :=
  ⟨i, some a.query1, some a.query2, some a.query3, some a.query4⟩

/-- A row with the four texts of an `Edit`. -/
def Edit.billboardRow (e : Edit) : BillboardRow :=
  ⟨e.id, some e.query1, some e.query2, some e.query3, some e.query4⟩

/-- The schedule of a row. -/
def ViewRow.schedule (r : ViewRow) : Option Text × Option Text × Option Text :=
  (r.scheduledDate, r.startTime, r.endTime)

/-- The schedule that an `addView` stores. -/
def Add.schedule (m : MariaDb) (a : Add) : Option Text × Option Text × Option Text :=
  (some (m.date a.query2), some (m.time a.query3), some (m.time a.query4))

/-- The row that an `addBillboard` inserts into `view`. -/
def Add.viewRow (a : Add) (i : Int32) : ViewRow :=
  ⟨i, some a.query1, some a.query2, some a.query3, some a.query4, none, none, none⟩

/-- The id a table gives out is its counter. -/
lemma next_le_newId {Row : Type} {S : Schema Row} {t : Table S} (room : t.HasRoom) :
    (t.next : ℤ) ≤ t.newId.toInt :=
  (Table.newId_toInt room).ge

/-- **A row of `view` after an attempt** was there before, has just been added, or has just been
scheduled. -/
lemma view_attempt {db db' : Db m} {r : Request} (h : Attempts db r db') {i : Int32}
    {row' : ViewRow} (found : db'.view.find i = some row') :
    db.view.find i = some row'
      ∨ (∃ a, r = .addBillboard a ∧ db.view.HasRoom ∧ i = db.view.newId ∧ row' = a.viewRow i)
      ∨ ∃ a row, r = .addView a ∧ m.keyOf a.query1 = some i ∧ db.view.find i = some row
          ∧ row'.billboard = row.billboard ∧ row'.schedule = a.schedule m := by
  cases left_of_attempts h with
  | nothing rows counters =>
      rw [find_of_rows rows.2] at found
      exact .inl found
  | firstInsert a request room rows counters =>
      rw [find_of_rows rows.2] at found
      exact .inl found
  | completed effect =>
      cases r with
      | addBillboard a =>
          simp only [Db.effect] at effect
          split_ifs at effect with room room'
          obtain rfl := Option.some.inj effect
          rw [Db.insertView, Table.find_insert] at found
          split_ifs at found with here
          · obtain rfl := Option.some.inj found
            refine .inr (.inl ⟨a, rfl, room', here, ?_⟩)
            rw [here]
            rfl
          · exact .inl found
      | addView a =>
          obtain rfl := Option.some.inj effect
          rw [Db.updateSchedule, Table.find_update] at found
          split_ifs at found with here
          · obtain ⟨row, before, rfl⟩ := Option.map_eq_some_iff.mp found
            exact .inr (.inr ⟨a, row, rfl, of_decide_eq_true here, before, rfl, rfl⟩)
          · exact .inl found
      | showTable =>
          obtain rfl := Option.some.inj effect
          exact .inl found
      | delete d =>
          obtain rfl := Option.some.inj effect
          rw [Db.deleteView, Table.find_delete] at found
          split_ifs at found
          exact .inl found
      | editTable e =>
          obtain rfl := Option.some.inj effect
          exact .inl found

/-- **A row of `billboard` before an attempt** is there afterwards, as it was or edited. -/
lemma billboard_kept {db db' : Db m} {r : Request} (h : Attempts db r db') {i : Int32}
    {row : BillboardRow} (found : db.billboard.find i = some row) :
    ∃ row', db'.billboard.find i = some row' := by
  have inserted : ∀ (a : Add) (room : db.billboard.HasRoom),
      (db.insertBillboard a room).billboard.find i = some row := by
    intro a room
    rw [Db.insertBillboard, Table.find_insert, if_neg, found]
    rintro rfl
    rw [Table.find_newId room] at found
    cases found
  cases left_of_attempts h with
  | nothing rows counters => exact ⟨row, (find_of_rows rows.1 i).trans found⟩
  | firstInsert a request room rows counters =>
      exact ⟨row, (find_of_rows rows.1 i).trans (inserted a room)⟩
  | completed effect =>
      cases r with
      | addBillboard a =>
          simp only [Db.effect] at effect
          split_ifs at effect with room room'
          obtain rfl := Option.some.inj effect
          exact ⟨row, inserted a room⟩
      | addView a => obtain rfl := Option.some.inj effect; exact ⟨row, found⟩
      | showTable => obtain rfl := Option.some.inj effect; exact ⟨row, found⟩
      | delete d => obtain rfl := Option.some.inj effect; exact ⟨row, found⟩
      | editTable e =>
          obtain rfl := Option.some.inj effect
          rw [Db.updateBillboard, Table.find_update, found]
          split_ifs
          · exact ⟨_, rfl⟩
          · exact ⟨_, rfl⟩

/-- **A row of `billboard` after an attempt** was there before, has just been added, or has just
been edited. -/
lemma billboard_attempt {db db' : Db m} {r : Request} (h : Attempts db r db') {i : Int32}
    {row' : BillboardRow} (found : db'.billboard.find i = some row') :
    db.billboard.find i = some row'
      ∨ (∃ a, r = .addBillboard a ∧ (db.billboard.next : ℤ) ≤ i.toInt ∧ row' = a.billboardRow i)
      ∨ ∃ e, r = .editTable e ∧ e.id = i ∧ row' = e.billboardRow
          ∧ (db.billboard.find i).isSome := by
  have inserted : ∀ (a : Add) (room : db.billboard.HasRoom),
      (db.insertBillboard a room).billboard.find i = some row' →
        db.billboard.find i = some row'
          ∨ (db.billboard.next : ℤ) ≤ i.toInt ∧ row' = a.billboardRow i := by
    intro a room found
    rw [Db.insertBillboard, Table.find_insert] at found
    split_ifs at found with here
    · obtain rfl := Option.some.inj found
      refine .inr ⟨?_, ?_⟩
      · rw [here]
        exact next_le_newId room
      · rw [here]
        rfl
    · exact .inl found
  cases left_of_attempts h with
  | nothing rows counters =>
      rw [find_of_rows rows.1] at found
      exact .inl found
  | firstInsert a request room rows counters =>
      rw [find_of_rows rows.1] at found
      exact (inserted a room found).imp_right fun new => .inl ⟨a, request, new⟩
  | completed effect =>
      cases r with
      | addBillboard a =>
          simp only [Db.effect] at effect
          split_ifs at effect with room room'
          obtain rfl := Option.some.inj effect
          exact (inserted a room found).imp_right fun new => .inl ⟨a, rfl, new⟩
      | addView a => obtain rfl := Option.some.inj effect; exact .inl found
      | showTable => obtain rfl := Option.some.inj effect; exact .inl found
      | delete d => obtain rfl := Option.some.inj effect; exact .inl found
      | editTable e =>
          obtain rfl := Option.some.inj effect
          by_cases here : e.id = i
          · subst here
            cases before : db.billboard.find e.id with
            | none =>
                rw [Db.updateBillboard, Table.find_update, before] at found
                simp at found
            | some row =>
                rw [find_updateBillboard before] at found
                obtain rfl := Option.some.inj found
                exact .inr (.inr ⟨e, rfl, rfl, rfl, rfl⟩)
          · rw [Db.updateBillboard, Table.find_update, if_neg (by simpa using Ne.symm here)]
              at found
            exact .inl found

/-- Counters only grow. -/
lemma countersLe_attempts {db db' : Db m} {r : Request} (h : Attempts db r db') :
    CountersLe db db' := by
  cases left_of_attempts h with
  | nothing rows counters => exact counters
  | firstInsert a request room rows counters =>
      have first : CountersLe db (db.insertBillboard a room) := ⟨Nat.le_succ _, le_refl _⟩
      exact first.trans counters
  | completed effect =>
      have served : Reaches Serves db [r] db' := ⟨db', serves_iff.mpr ⟨h.1, effect⟩, rfl⟩
      obtain ⟨billboard, view⟩ := counters_of_reaches served
      exact ⟨by omega, by omega⟩

lemma countersLe_reaches {db db' : Db m} {rs : List Request} (h : Reaches Attempts db rs db') :
    CountersLe db db' :=
  reaches_invariant (P := CountersLe db)
    (fun _ _ _ before one => before.trans (countersLe_attempts one)) ⟨le_refl _, le_refl _⟩ h

/-! ## A history -/

/-- In the history from `db` to `db'` the `addBillboard` was dealt with in a state whose counter
stood at the id, and put its row under it. -/
def Draws (db : Db m) (rs : List Request) (db' : Db m) (a : Add) (i : Int32) : Prop :=
  ∃ before after mid mid', rs = before ++ .addBillboard a :: after ∧ Reaches Attempts db before mid
    ∧ Attempts mid (.addBillboard a) mid' ∧ Reaches Attempts mid' after db'
    ∧ mid.view.HasRoom ∧ i = mid.view.newId ∧ mid'.view.find i = some (a.viewRow i)

/-- In this history the `addView` was dealt with in a state in which the id that it names was
there. -/
def Schedules (db : Db m) (rs : List Request) (db' : Db m) (a : Add) (i : Int32) : Prop :=
  ∃ before after mid mid', rs = before ++ .addView a :: after ∧ Reaches Attempts db before mid
    ∧ Attempts mid (.addView a) mid' ∧ Reaches Attempts mid' after db'
    ∧ m.keyOf a.query1 = some i ∧ (mid.view.find i).isSome

/-- The counter was past the ids of the start when the id was drawn. -/
lemma Draws.fresh {db db' : Db m} {rs : List Request} {a : Add} {i : Int32}
    (h : Draws db rs db' a i) : (db.view.next : ℤ) ≤ i.toInt := by
  obtain ⟨before, after, mid, mid', -, run, -, -, room, rfl, -⟩ := h
  have later : (db.view.next : ℤ) ≤ mid.view.next := by
    exact_mod_cast (countersLe_reaches run).2
  exact later.trans (next_le_newId room)

/-- The texts of a row of `view` were there at the start, or came with its id. -/
lemma texts_origin {db db' : Db m} {rs : List Request} (run : Reaches Attempts db rs db')
    {i : Int32} {row' : ViewRow} (found : db'.view.find i = some row') :
    (∃ row, db.view.find i = some row ∧ row'.billboard = row.billboard)
      ∨ ∃ a, Draws db rs db' a i ∧ row'.billboard = a.billboardRow i := by
  rcases reaches_origin (Q := fun d : Db m => ∃ row, d.view.find i = some row
      ∧ row'.billboard = row.billboard) run ⟨row', found, rfl⟩ with
    start | ⟨before, r, after, mid, mid', split, earlier, one, later, not, row, here, texts⟩
  · exact .inl start
  · rcases view_attempt one here with
      same | ⟨a, rfl, room, drawn, rfl⟩ | ⟨a, row₀, -, -, same, kept, -⟩
    · exact absurd ⟨row, same, texts⟩ not
    · exact .inr ⟨a, ⟨before, after, mid, mid', split, earlier, one, later, room, drawn, here⟩,
        texts⟩
    · exact absurd ⟨row₀, same, texts.trans kept⟩ not

/-- Its schedule was there at the start, or empty when its id was drawn, or it has been given to
it. -/
lemma schedule_origin {db db' : Db m} {rs : List Request} (run : Reaches Attempts db rs db')
    {i : Int32} {row' : ViewRow} (found : db'.view.find i = some row') :
    (∃ row, db.view.find i = some row ∧ row'.schedule = row.schedule)
      ∨ (∃ a, Draws db rs db' a i ∧ row'.schedule = (none, none, none))
      ∨ ∃ a, Schedules db rs db' a i ∧ row'.schedule = a.schedule m := by
  rcases reaches_origin (Q := fun d : Db m => ∃ row, d.view.find i = some row
      ∧ row'.schedule = row.schedule) run ⟨row', found, rfl⟩ with
    start | ⟨before, r, after, mid, mid', split, earlier, one, later, not, row, here, schedule⟩
  · exact .inl start
  · rcases view_attempt one here with
      same | ⟨a, rfl, room, drawn, rfl⟩ | ⟨a, row₀, rfl, key, same, -, given⟩
    · exact absurd ⟨row, same, schedule⟩ not
    · exact .inr (.inl ⟨a,
        ⟨before, after, mid, mid', split, earlier, one, later, room, drawn, here⟩, schedule⟩)
    · have there : (mid.view.find i).isSome := by
        rw [same]
        rfl
      exact .inr (.inr ⟨a, ⟨before, after, mid, mid', split, earlier, one, later, key, there⟩,
        schedule.trans given⟩)

/-- **Where a row of `view` comes from.**  Its texts are those of the row that was there under its
id at the start, or of the `addBillboard` of the history that drew the id from the counter of
`view`.  Its schedule is that of the start, or empty since the id was drawn, or of an `addView` of
the history that names the id and came while it was there. -/
theorem view_origin {db db' : Db m} {rs : List Request} (run : Reaches Attempts db rs db')
    {i : Int32} {row' : ViewRow} (found : db'.view.find i = some row') :
    ((∃ row, db.view.find i = some row ∧ row'.billboard = row.billboard)
        ∨ ∃ a, Draws db rs db' a i ∧ row'.billboard = a.billboardRow i)
      ∧ ((∃ row, db.view.find i = some row ∧ row'.schedule = row.schedule)
        ∨ (∃ a, Draws db rs db' a i ∧ row'.schedule = (none, none, none))
        ∨ ∃ a, Schedules db rs db' a i ∧ row'.schedule = a.schedule m) :=
  ⟨texts_origin run found, schedule_origin run found⟩

/-- The second `INSERT` of a billboard fails, and the billboard is sent again. -/
theorem view_origin_again :
    let db : Db (MariaDb.simple .infoMessage) := Db.empty
    let rs := [Request.addBillboard someBillboard, .addBillboard someBillboard]
    ∃ db', Reaches Attempts db rs db'
      ∧ ∃ row', db'.view.find 1 = some row'
        ∧ ((∃ row, db.view.find 1 = some row ∧ row'.billboard = row.billboard)
          ∨ ∃ a, Draws db rs db' a 1 ∧ row'.billboard = a.billboardRow 1) := by
  intro db rs
  let failed := (serve secondFails (.addBillboard someBillboard)).after firstServer
  let completed := (serve Faults.none (.addBillboard someBillboard)).after failed
  have plain : (Request.addBillboard someBillboard).Plain := by decide +kernel
  have run : Reaches Attempts db rs completed.store :=
    ⟨_, ⟨plain, secondFails, firstServer, rfl, rfl⟩, _, ⟨plain, Faults.none, failed, rfl, rfl⟩, rfl⟩
  have found : (Db.view completed.store).find 1
      = some ⟨1, some "a".toList, some "b".toList, some "c".toList, some "d".toList, none, none,
        none⟩ := by decide +kernel
  exact ⟨completed.store, run, _, found, (view_origin run found).1⟩

/-- **No id of `view` is used twice.**  One that has been given out and is gone stays away. -/
theorem view_not_reused {db db' : Db m} {rs : List Request} (run : Reaches Attempts db rs db')
    {i : Int32} (given : i.toInt < db.view.next) (gone : db.view.find i = none) :
    db'.view.find i = none := by
  cases found : db'.view.find i with
  | none => rfl
  | some row' =>
      rcases texts_origin run found with ⟨row, there, -⟩ | ⟨a, draws, -⟩
      · rw [gone] at there
        cases there
      · exact absurd draws.fresh (not_le.mpr given)

/-- **Where a row of `billboard` comes from**, and that it stays.  It is as at the start, or has the
texts of an `addBillboard` or `editTable` of the history; and no row of the start is lost. -/
theorem billboard_origin {db db' : Db m} {rs : List Request} (run : Reaches Attempts db rs db')
    (i : Int32) :
    (∀ row', db'.billboard.find i = some row' →
        db.billboard.find i = some row'
          ∨ (∃ a, .addBillboard a ∈ rs ∧ (db.billboard.next : ℤ) ≤ i.toInt
              ∧ row' = a.billboardRow i)
          ∨ ∃ e, .editTable e ∈ rs ∧ e.id = i ∧ row' = e.billboardRow)
      ∧ ∀ row, db.billboard.find i = some row → ∃ row', db'.billboard.find i = some row' := by
  induction rs using List.reverseRecOn generalizing db' with
  | nil =>
      obtain rfl := run
      exact ⟨fun row' found => .inl found, fun row found => ⟨row, found⟩⟩
  | append_singleton rs r ih =>
      obtain ⟨mid, before, one⟩ := (reaches_snoc _ _ _ _ _).mp run
      obtain ⟨origin, stays⟩ := ih before
      have last : r ∈ rs ++ [r] := List.mem_append_right rs (.head [])
      have next : (db.billboard.next : ℤ) ≤ mid.billboard.next := by
        exact_mod_cast (countersLe_reaches before).1
      refine ⟨?_, ?_⟩
      · intro row' found
        rcases billboard_attempt one found with same | ⟨a, rfl, new, texts⟩ | ⟨e, rfl, id, texts, -⟩
        · refine (origin row' same).imp_right (Or.imp ?_ ?_)
          · rintro ⟨a, mem, rest⟩
            exact ⟨a, List.mem_append_left _ mem, rest⟩
          · rintro ⟨e, mem, rest⟩
            exact ⟨e, List.mem_append_left _ mem, rest⟩
        · exact .inr (.inl ⟨a, last, next.trans new, texts⟩)
        · exact .inr (.inr ⟨e, last, id, texts⟩)
      · intro row found
        obtain ⟨row', kept⟩ := stays row found
        exact billboard_kept one kept

/-- The billboard that the failed request has left in `billboard` stays there. -/
theorem billboard_origin_failed :
    let failed := (serve secondFails (.addBillboard someBillboard)).after firstServer
    let db : Db (MariaDb.simple .infoMessage) := failed.store
    ∃ row', (db.deleteView ⟨1⟩).billboard.find 1 = some row' := by
  intro failed db
  have plain : (Request.delete ⟨1⟩).Plain := by decide +kernel
  have served : Serves db (.delete ⟨1⟩) (db.deleteView ⟨1⟩) := serves_iff.mpr ⟨plain, rfl⟩
  obtain ⟨-, s, s', start, run, result⟩ := served
  have run : Reaches Attempts db [.delete ⟨1⟩] (db.deleteView ⟨1⟩) :=
    ⟨_, ⟨plain, Faults.none, s, start, by rw [Act.after_eq_of_ok run, result]⟩, rfl⟩
  have found : db.billboard.find 1
      = some ⟨1, some "a".toList, some "b".toList, some "c".toList, some "d".toList⟩ := by
    decide +kernel
  exact (billboard_origin run 1).2 _ found

end Billboard
