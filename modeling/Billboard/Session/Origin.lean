import Billboard.Server.History
import Billboard.Session.Safety

/-!
# What a session can do to the tables

* **`session_origin`** — a window whose texts are free of quotes and backslashes adds nothing to the
  tables and loses nothing of `billboard`, whatever fails: what is found under an id at the end was
  there at the start, and differs from it only as an edit, a schedule or a delete of this id says
  that the window has written to the end.
-/

namespace Billboard

open Java Runs Sql

variable {m : MariaDb} {i : Int32} {db mid db' : Db m} {sent sent' : List Request}

/-! ## Descent -/

/-- What is found under the id `i` in `db'` comes from `db`, by these requests. -/
structure Descends (sent : List Request) (i : Int32) (db db' : Db m) : Prop where
  view : ∀ row', db'.view.find i = some row' → ∃ row, db.view.find i = some row
    ∧ row'.billboard = row.billboard
    ∧ (row'.schedule = row.schedule
      ∨ ∃ a, .addView a ∈ sent ∧ m.keyOf a.query1 = some i ∧ row'.schedule = a.schedule m)
  deleted : ∀ row, db.view.find i = some row → db'.view.find i = none → .delete ⟨i⟩ ∈ sent
  billboard : ∀ row', db'.billboard.find i = some row' → db.billboard.find i = some row'
    ∨ ∃ e, .editTable e ∈ sent ∧ e.id = i ∧ row' = e.billboardRow
  kept : (db'.billboard.find i).isSome = (db.billboard.find i).isSome

namespace Descends

/-- Where nothing has changed under the id. -/
lemma of_same (view : db'.view.find i = db.view.find i)
    (billboard : db'.billboard.find i = db.billboard.find i) : Descends sent i db db' where
  view row' found := ⟨row', view ▸ found, rfl, .inl rfl⟩
  deleted row found gone := by
    rw [view, found] at gone
    cases gone
  billboard row' found := .inl (billboard ▸ found)
  kept := by rw [billboard]

/-- More requests explain as much. -/
lemma mono (h : Descends sent i db db') (more : ∀ r ∈ sent, r ∈ sent') :
    Descends sent' i db db' where
  view row' found := by
    obtain ⟨row, before, texts, schedule⟩ := h.view row' found
    refine ⟨row, before, texts, schedule.imp_right ?_⟩
    rintro ⟨a, mem, rest⟩
    exact ⟨a, more _ mem, rest⟩
  deleted row found gone := more _ (h.deleted row found gone)
  billboard row' found := by
    refine (h.billboard row' found).imp_right ?_
    rintro ⟨e, mem, rest⟩
    exact ⟨e, more _ mem, rest⟩
  kept := h.kept

lemma trans (h : Descends sent i db mid) (h' : Descends sent i mid db') :
    Descends sent i db db' where
  view row' found := by
    obtain ⟨row₁, between, texts', schedule'⟩ := h'.view row' found
    obtain ⟨row, before, texts, schedule⟩ := h.view row₁ between
    refine ⟨row, before, texts'.trans texts, ?_⟩
    rcases schedule' with same | scheduled
    · rw [same]
      exact schedule
    · exact .inr scheduled
  deleted row found gone := by
    cases between : mid.view.find i with
    | none => exact h.deleted row found between
    | some row₁ => exact h'.deleted row₁ between gone
  billboard row' found := by
    rcases h'.billboard row' found with between | edited
    · exact h.billboard row' between
    · exact .inr edited
  kept := h'.kept.trans h.kept

end Descends

/-- Only a delete of its id takes a row out of `view`. -/
lemma view_gone {r : Request} (window : r.OfWindow) (h : Attempts db r db') {row : ViewRow}
    (found : db.view.find i = some row) (gone : db'.view.find i = none) : r = .delete ⟨i⟩ := by
  have changed : db'.view.find i ≠ db.view.find i := by
    rw [found, gone]
    exact (Option.some_ne_none row).symm
  cases left_of_attempts h with
  | nothing rows counters => exact absurd (find_of_rows rows.2 i) changed
  | firstInsert a request room rows counters => exact absurd (find_of_rows rows.2 i) changed
  | completed effect =>
      cases r with
      | addBillboard a => exact window.elim
      | showTable => exact window.elim
      | addView a =>
          obtain rfl := Option.some.inj effect
          rw [Db.updateSchedule, Table.find_update, found] at gone
          split_ifs at gone
          cases gone
      | delete d =>
          obtain rfl := Option.some.inj effect
          rw [Db.deleteView, Table.find_delete] at gone
          split_ifs at gone with here
          · rw [of_decide_eq_true here]
          · rw [found] at gone
            cases gone
      | editTable e =>
          obtain rfl := Option.some.inj effect
          exact absurd rfl changed

/-- **One request of a window**, completed or not. -/
lemma descends_attempt {r : Request} (window : r.OfWindow) (h : Attempts db r db') (i : Int32) :
    Descends [r] i db db' where
  view row' found := by
    rcases view_attempt h found with same | ⟨a, rfl, -⟩ | ⟨a, row, rfl, key, same, texts, schedule⟩
    · exact ⟨row', same, rfl, .inl rfl⟩
    · exact window.elim
    · exact ⟨row, same, texts, .inr ⟨a, .head _, key, schedule⟩⟩
  deleted row found gone := by
    rw [view_gone window h found gone]
    exact .head _
  billboard row' found := by
    rcases billboard_attempt h found with same | ⟨a, rfl, -⟩ | ⟨e, rfl, id, texts, -⟩
    · exact .inl same
    · exact window.elim
    · exact .inr ⟨e, .head _, id, texts⟩
  kept := by
    rw [Bool.eq_iff_iff, Option.isSome_iff_exists, Option.isSome_iff_exists]
    constructor
    · rintro ⟨row', found⟩
      rcases billboard_attempt h found with same | ⟨a, rfl, -⟩ | ⟨e, -, -, -, before⟩
      · exact ⟨row', same⟩
      · exact window.elim
      · exact Option.isSome_iff_exists.mp before
    · rintro ⟨row, found⟩
      exact billboard_kept h found

/-- **All requests of a window.** -/
lemma descends_reaches {rs : List Request} (window : ∀ r ∈ rs, r.OfWindow)
    (run : Reaches Attempts db rs db') (i : Int32) : Descends rs i db db' := by
  induction rs generalizing db with
  | nil =>
      obtain rfl := run
      exact .of_same rfl rfl
  | cons r rs ih =>
      obtain ⟨mid, one, later⟩ := run
      rw [List.forall_mem_cons] at window
      have first : Descends (r :: rs) i db mid := (descends_attempt window.1 one i).mono (by simp)
      have rest : Descends (r :: rs) i mid db' :=
        (ih window.2 later).mono fun _ => List.mem_cons_of_mem r
      exact first.trans rest

/-! ## Sessions -/

/-- What is sent is free of quotes and backslashes, so a request dealt with is an attempt. -/
lemma attempts_of_deals {rs : List Request} (plain : ∀ r ∈ rs, r.Plain)
    (run : Reaches (Deals (B := m.backend)) db rs db') : Reaches Attempts db rs db' := by
  induction rs generalizing db with
  | nil => exact run
  | cons r rs ih =>
      obtain ⟨mid, one, later⟩ := run
      rw [List.forall_mem_cons] at plain
      exact ⟨mid, ⟨plain.1, one⟩, ih plain.2 later⟩

lemma attempted_of_reaches {reply : DataArray} {server : Server m.backend}
    {happenings : List Happening} {s : Session m.backend}
    (run : Reaches Happens (Session.opened reply server) happenings s)
    (plain : ∀ r ∈ (Client.start reply).sendsAll (eventsOf happenings), r.Plain) :
    ∃ dealt, dealt <+: (Client.start reply).sendsAll (eventsOf happenings)
      ∧ (∀ r ∈ dealt, r.OfWindow) ∧ Reaches Attempts server.store dealt s.main.server.store := by
  obtain ⟨dealt, cut, history⟩ := dealt_of_reaches run
  exact ⟨dealt, cut, fun r hr => ofWindow_asks ((sendsAll_sublist _ _).subset (cut.subset hr)),
    attempts_of_deals (fun r hr => plain r (cut.subset hr)) history⟩

/-- **Where the tables come from.**  Whatever the user does, whichever writes and database calls
fail, and in whichever order the server reads: what is found under an id was there when the window
opened, and differs from it only as the requests say that the window has written to the end. -/
theorem session_origin {reply : DataArray} {server : Server m.backend}
    {happenings : List Happening} {s : Session m.backend}
    (run : Reaches Happens (Session.opened reply server) happenings s)
    (plain : ∀ r ∈ (Client.start reply).sendsAll (eventsOf happenings), r.Plain) (i : Int32) :
    Descends ((Client.start reply).sendsAll (eventsOf happenings)) i server.store
      s.main.server.store := by
  obtain ⟨dealt, cut, window, attempts⟩ := attempted_of_reaches run plain
  exact (descends_reaches window attempts i).mono fun r hr => cut.subset hr

/-- A server whose tables hold the billboard 1. -/
def Server.single : Server (MariaDb.simple .infoMessage).backend :=
  ⟨Db.single ⟨[], [], [], []⟩, true, [], []⟩

/-- The billboard 1 is selected and Delete is pressed twice; the first delete is executed, the
second one fails.  The row that is gone from `view` was to be deleted. -/
theorem session_origin_delete :
    let happenings : List Happening :=
      [.event (.select 0), .event (.press .delete noFailure), .read Faults.none, .read Faults.none,
        .event (.press .delete noFailure), .read Faults.none,
        .read { Faults.none with createStatement := true }]
    ∃ s : Session (MariaDb.simple .infoMessage).backend,
      Reaches Happens (Session.opened ⟨Db.displayed Server.single.store⟩ Server.single) happenings s
        ∧ s.main.position = .ended .sql
        ∧ .delete ⟨1⟩ ∈ (Client.start ⟨Db.displayed Server.single.store⟩).sendsAll
          (eventsOf happenings) := by
  intro happenings
  obtain ⟨s, run, position, gone⟩ : ∃ s : Session (MariaDb.simple .infoMessage).backend,
      Reaches Happens (Session.opened ⟨Db.displayed Server.single.store⟩ Server.single) happenings s
        ∧ s.main.position = .ended .sql ∧ (Db.view s.main.server.store).find 1 = none :=
    ⟨_, ⟨_, rfl, _, rfl, _, rfl, _, rfl, _, rfl, _, rfl, _, rfl, rfl⟩, rfl, rfl⟩
  exact ⟨s, run, position, (session_origin run (by decide +kernel) 1).deleted _ rfl gone⟩

end Billboard
