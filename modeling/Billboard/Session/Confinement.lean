import Billboard.Client.Confined
import Billboard.Session.Displayed
import Billboard.Session.Origin

/-!
# What a session can touch

**`session_confined`**: as long as the user types no other id, neither into the edit form nor into
the first column of the table, and leaves this column in its place, a session deletes and edits
nothing but what its window displayed when it opened, whichever writes and database calls fail.
-/

namespace Billboard

open Java Runs Sql

variable {m : MariaDb} {ids : List Int32}

lemma within_start (db : Db m) : Within db.viewIds (Client.start ⟨db.displayed⟩) where
  rows r hr := by
    obtain ⟨row, mem, rfl⟩ := List.mem_map.mp hr
    rintro s ⟨rfl⟩ k parsed
    have id : row.billboardID = k :=
      Option.some.inj ((parseInt_decimal row.billboardID).symm.trans parsed)
    exact id ▸ List.mem_map_of_mem mem
  first := rfl
  billboardID k h := by cases h
  form := names_nil
  sent i hi := by
    obtain rfl := List.mem_singleton.mp hi
    trivial

/-- What the user may type. -/
def Session.Confines (ids : List Int32) (_ : Session m.backend) : Happening → Prop
  | .event e => Confined ids e
  | .close => True
  | .read _ => True

variable {server : Server m.backend} {s s' : Session m.backend}

lemma within_happens {what : Happening} (within : Within ids s.client)
    (step : Happens s what s') (confines : s.Confines ids what) : Within ids s'.client := by
  rcases client_of_happens step with ⟨e, rfl, client⟩ | client
  · rw [client]
    exact within_step within confines
  · rwa [client]

/-- **What a session can touch.**  In a session whose user types no other id, whatever fails, every
billboard that the window did not display when it opened stays in `billboard` as it was, and out of
`view`. -/
theorem session_confined {happenings : List Happening}
    (run : Reaches Happens (Session.opened ⟨Db.displayed server.store⟩ server) happenings s)
    (plain : ∀ r ∈ (Client.start ⟨Db.displayed server.store⟩).sendsAll (eventsOf happenings),
      r.Plain)
    (confined : EveryStep Happens (Session.Confines (Db.viewIds server.store))
      (Session.opened ⟨Db.displayed server.store⟩ server) happenings)
    {i : Int32} (other : i ∉ Db.viewIds server.store) :
    (Db.billboard s.main.server.store).find i = (Db.billboard server.store).find i
      ∧ (Db.view s.main.server.store).find i = none := by
  obtain ⟨dealt, cut, window, attempts⟩ := attempted_of_reaches run plain
  have descends := descends_reaches window attempts i
  have within : Within (Db.viewIds server.store) s.client :=
    reaches_invariant_of_everyStep (R := Happens)
      (P := fun s : Session m.backend => Within (Db.viewIds server.store) s.client)
      (fun _ _ _ within step confines => within_happens within step confines)
      (within_start (m := m) server.store) confined run
  constructor
  · cases after : (Db.billboard s.main.server.store).find i with
    | none =>
        have kept := descends.kept
        rw [after, Option.isSome_none, eq_comm, Option.isSome_eq_false_iff,
          Option.isNone_iff_eq_none] at kept
        exact kept.symm
    | some row' =>
        rcases descends.billboard row' after with same | ⟨e, mem, rfl, -⟩
        · exact same.symm
        · have sent : Item.object (.edit e) ∈ s.client.sent :=
            (sent_of_reaches run).mem (List.mem_cons_of_mem _ (cut.subset mem))
              (by simp [Request.items, Request.payload])
          exact absurd (within.sent _ sent) other
  · cases after : (Db.view s.main.server.store).find i with
    | none => rfl
    | some row' =>
        obtain ⟨row, before, -⟩ := descends.view row' after
        rw [Table.find] at before
        have same := List.find?_some before
        have displayed : i ∈ Db.viewIds server.store :=
          List.mem_map.mpr ⟨row, List.mem_of_find?_eq_some before, of_decide_eq_true same⟩
        exact absurd displayed other

/-- The row of the billboard is selected and deleted: nothing is known of an id 2. -/
theorem session_confined_delete :
    ∃ s : Session (MariaDb.simple .infoMessage).backend,
      Reaches Happens (Session.opened ⟨Db.displayed Server.single.store⟩ Server.single)
        [.event (.select 0), .event (.press .delete noFailure), .read Faults.none,
          .read Faults.none] s
      ∧ (Db.view s.main.server.store).find 2 = none := by
  obtain ⟨s, run⟩ : ∃ s : Session (MariaDb.simple .infoMessage).backend,
      Reaches Happens (Session.opened ⟨Db.displayed Server.single.store⟩ Server.single)
        [.event (.select 0), .event (.press .delete noFailure), .read Faults.none,
          .read Faults.none] s :=
    ⟨_, _, rfl, _, rfl, _, rfl, _, rfl, rfl⟩
  refine ⟨s, run, (session_confined run (by decide +kernel) ?_ (by decide)).2⟩
  rw [everyStep_cons]
  refine ⟨fun _ _ => trivial, fun mid _ => ?_⟩
  rw [everyStep_cons]
  refine ⟨fun _ _ => trivial, fun mid _ => ?_⟩
  rw [everyStep_cons]
  refine ⟨fun _ _ => trivial, fun mid _ => ?_⟩
  rw [everyStep_cons]
  exact ⟨fun _ _ => trivial, fun mid _ => everyStep_nil _ _ _⟩

end Billboard
