import Billboard.Server.Ahead

/-!
# Client writes and server reads in any order

The client writes the items of its requests one after the other and may close its side at any
point, also in the middle of an item.  The server reads an item when one has arrived, and meets the
end of the stream when the client has closed and nothing is left to read.

* `running_step` — whichever database calls fail, one move leaves the server in its loop, with what
  it has completed executed and no part of another request, or it has ended in the next request.
* **`served_in_order`** — at every moment of every interleaving in which no statement has failed,
  the requests completed are a prefix of the requests sent, their statements are the ones executed,
  and there is a reply for each `showTable` among them.
-/

namespace Billboard

open Java Runs

variable {B : Backend}

/-- Client, stream and server. -/
structure System (B : Backend) where
  toWrite : List Item
  /-- Some bytes of the next item are on the stream, but not all. -/
  begun : Bool
  closed : Bool
  written : List Item
  inFlight : List Item
  main : Main B

inductive Move
  | begin
  | write
  | close
  | read
  deriving DecidableEq

/-- One move; `none` where it is not possible: a closed client does not write, and a read blocks
while the item it waits for is not complete. -/
def System.step (sys : System B) : Move → Option (System B)
  | .begin =>
      if sys.closed = false ∧ sys.toWrite ≠ [] then some { sys with begun := true } else none
  | .write =>
      match sys.closed, sys.toWrite with
      | false, i :: rest => some
          { sys with
            toWrite := rest
            begun := false
            written := sys.written ++ [i]
            inFlight := sys.inFlight ++ [i] }
      | _, _ => none
  | .close => some { sys with closed := true }
  | .read =>
      if sys.inFlight ≠ [] ∨ sys.closed then some
        { sys with
          main := (sys.main.read Faults.none sys.inFlight).1
          inFlight := (sys.main.read Faults.none sys.inFlight).2 }
      else none

/-- The client is about to send the requests, and the server is at the head of its loop. -/
def System.start (requests : List Request) (server : Server B) : System B where
  toWrite := requests.flatMap Request.items
  begun := false
  closed := false
  written := []
  inFlight := []
  main := ⟨server, .readTag, []⟩

/-- The step relation of the system. -/
def Moves (sys : System B) (move : Move) (sys' : System B) : Prop :=
  sys.step move = some sys'

/-- One move, in which these database calls fail. -/
def System.stepWith (sys : System B) : Move × Faults → Option (System B)
  | (.read, f) =>
      if sys.inFlight ≠ [] ∨ sys.closed then some
        { sys with
          main := (sys.main.read f sys.inFlight).1
          inFlight := (sys.main.read f sys.inFlight).2 }
      else none
  | (move, _) => sys.step move

/-- The step relation of the system whose database may fail. -/
def MovesWith (sys : System B) (move : Move × Faults) (sys' : System B) : Prop :=
  sys.stepWith move = some sys'

/-- The server reads. -/
def System.reading (f : Faults) (sys : System B) : System B :=
  { sys with
    main := (sys.main.read f sys.inFlight).1
    inFlight := (sys.main.read f sys.inFlight).2 }

/-! ## The invariant -/

/-- The server is in its loop: it has completed the requests served, and no part of another. -/
structure Running (requests : List Request) (server : Server B) (sys : System B) : Prop where
  ahead : ∃ left, requests = sys.main.served ++ left
    ∧ Ahead left sys.closed sys.inFlight sys.toWrite sys.main
  progress : Progress (sys.main.served.flatMap sqlTexts) (sys.main.served.count .showTable) server
    sys.main.server

/-- The server has ended while it served the next request, some of whose statements had been
executed. -/
def Crashed (requests : List Request) (server : Server B) (main : Main B) : Prop :=
  ∃ r left t performed rest m, requests = main.served ++ r :: left
    ∧ main.position = .ended t ∧ FromDatabase t
    ∧ sqlTexts r = performed ++ rest
    ∧ Progress (main.served.flatMap sqlTexts ++ performed) (main.served.count .showTable) server m
    ∧ Abandoned rest m main.server

variable {requests : List Request} {server : Server B} {sys sys' : System B}

lemma running_start : Running requests server (System.start requests server) where
  ahead := ⟨requests, rfl, [], .atTag _ _, rfl⟩
  progress := .refl server

/-- A completed request is one more of those served. -/
lemma Progress.serve {main : Main B} {r : Request} {s' : Server B}
    (h : Progress (main.served.flatMap sqlTexts) (main.served.count .showTable) server main.server)
    (run : Progress (sqlTexts r) r.answers main.server s') :
    Progress ((main.served ++ [r]).flatMap sqlTexts) ((main.served ++ [r]).count .showTable) server
      s' := by
  have answers : [r].count .showTable = r.answers := by
    cases r <;> simp [Request.answers]
  rw [List.flatMap_append, List.count_append, answers, List.flatMap_singleton]
  exact h.trans run

/-- **A read** leaves the server running or crashed, whichever calls fail in it. -/
lemma running_read (f : Faults) (h : Running requests server sys)
    (enabled : sys.inFlight ≠ [] ∨ sys.closed = true) :
    Running requests server (sys.reading f) ∨ Crashed requests server (sys.reading f).main := by
  obtain ⟨left, split, ahead⟩ := h.ahead
  rcases ahead_read f ahead enabled with
    ⟨r, left', rfl, read, items⟩ | ⟨position, read, ahead'⟩
  · have main' : (sys.reading f).main = sys.main.serve f r := congrArg Prod.fst read
    have inFlight' : (sys.reading f).inFlight = sys.inFlight.tail := congrArg Prod.snd read
    rcases serve_cases f sys.main r with ⟨s', run, served⟩ | ⟨t, s', kind, run, ended⟩
    · refine .inl ⟨⟨left', ?_, [], ?_, ?_⟩, ?_⟩
      · rw [main', served, split, List.append_assoc]
        rfl
      · rw [main', served]
        exact .atTag _ _
      · rw [inFlight']
        exact items
      · rw [main', served]
        exact h.progress.serve (progress_of_ok run)
    · obtain ⟨performed, texts, m, cut, progress, abandoned, -⟩ := progress_of_error run
      refine .inr ⟨r, left', t, performed, texts, m, ?_, ?_, kind, cut, ?_, ?_⟩
      · rw [main', ended]
        exact split
      · rw [main', ended]
      · rw [main', ended]
        exact h.progress.trans progress
      · rw [main', ended]
        exact abandoned
  · have main' : (sys.reading f).main = { sys.main with position := position } :=
      congrArg Prod.fst read
    have inFlight' : (sys.reading f).inFlight = sys.inFlight.tail := congrArg Prod.snd read
    refine .inl ⟨⟨left, ?_, ?_⟩, ?_⟩
    · rw [main']
      exact split
    · rw [main', inFlight']
      exact ahead'
    · rw [main']
      exact h.progress

/-- **One move** of a running system. -/
lemma running_step {move : Move × Faults} (h : Running requests server sys)
    (step : MovesWith sys move sys') :
    Running requests server sys' ∨ Crashed requests server sys'.main := by
  obtain ⟨move, f⟩ := move
  obtain ⟨left, split, consumed, stands, items⟩ := h.ahead
  cases move with
  | begin =>
      simp only [MovesWith, System.stepWith, System.step] at step
      split_ifs at step
      obtain rfl := Option.some.inj step
      exact .inl ⟨h.ahead, h.progress⟩
  | write =>
      simp only [MovesWith, System.stepWith, System.step] at step
      split at step
      · next i rest closed toWrite =>
          obtain rfl := Option.some.inj step
          refine .inl ⟨⟨left, split, consumed, ?_, by simpa [toWrite] using items⟩, h.progress⟩
          rw [closed] at stands ⊢
          exact stands.write _
      · exact absurd step (by simp)
  | close =>
      obtain rfl := Option.some.inj step
      exact .inl ⟨⟨left, split, consumed, stands.close, items⟩, h.progress⟩
  | read =>
      simp only [MovesWith, System.stepWith] at step
      split_ifs at step with enabled
      obtain rfl := Option.some.inj step
      exact running_read f h enabled

/-- Only a read concerns the server. -/
lemma main_of_step {move : Move} {f : Faults} (step : MovesWith sys (move, f) sys') :
    sys'.main = sys.main
      ∨ move = .read ∧ (sys.inFlight ≠ [] ∨ sys.closed = true) ∧ sys' = sys.reading f := by
  cases move with
  | begin =>
      simp only [MovesWith, System.stepWith, System.step] at step
      split_ifs at step
      obtain rfl := Option.some.inj step
      exact .inl rfl
  | write =>
      simp only [MovesWith, System.stepWith, System.step] at step
      split at step
      · obtain rfl := Option.some.inj step
        exact .inl rfl
      · exact absurd step (by simp)
  | close =>
      obtain rfl := Option.some.inj step
      exact .inl rfl
  | read =>
      simp only [MovesWith, System.stepWith] at step
      split_ifs at step with enabled
      exact .inr ⟨rfl, enabled, (Option.some.inj step).symm⟩

/-- Nothing the client still does reaches a server that has ended. -/
lemma main_of_ended {move : Move × Faults} {t : Throwable} (ended : sys.main.position = .ended t)
    (step : MovesWith sys move sys') : sys'.main = sys.main := by
  obtain ⟨move, f⟩ := move
  rcases main_of_step step with same | ⟨-, -, rfl⟩
  · exact same
  · simp only [System.reading, Main.read, ended]

/-! ## Any interleaving -/

lemma movesWith_none {move : Move} (step : Moves sys move sys') :
    MovesWith sys (move, Faults.none) sys' := by
  cases move <;> exact step

/-- Where no call is made to fail, only a rejected statement ends the server. -/
lemma sql_of_ended {move : Move} {t : Throwable} (h : Running requests server sys)
    (step : Moves sys move sys') (ended : sys'.main.position = .ended t) : t = .sql := by
  obtain ⟨left, -, ahead⟩ := h.ahead
  rcases main_of_step (movesWith_none step) with same | ⟨-, enabled, rfl⟩
  · rw [same] at ended
    exact absurd ended (ahead.running t)
  · rcases ahead_read Faults.none ahead enabled with
      ⟨r, left', -, read, -⟩ | ⟨position, read, ahead'⟩
    · have main' : (sys.reading Faults.none).main = sys.main.serve Faults.none r :=
        congrArg Prod.fst read
      rw [main'] at ended
      rcases serve_none sys.main r with sql | ⟨position, -⟩
      · exact (Position.ended.inj (sql.symm.trans ended)).symm
      · rw [position] at ended
        cases ended
    · have main' : (sys.reading Faults.none).main = { sys.main with position := position } :=
        congrArg Prod.fst read
      rw [main'] at ended
      exact absurd ended (ahead'.running t)

/-- What has been written and what is yet to be are what was to be written. -/
lemma written_step {move : Move} (step : Moves sys move sys') :
    sys'.written ++ sys'.toWrite = sys.written ++ sys.toWrite := by
  cases move with
  | begin =>
      simp only [Moves, System.step] at step
      split_ifs at step
      obtain rfl := Option.some.inj step
      rfl
  | write =>
      simp only [Moves, System.step] at step
      split at step
      · next i rest closed toWrite =>
          obtain rfl := Option.some.inj step
          rw [toWrite, List.append_assoc, List.singleton_append]
      · exact absurd step (by simp)
  | close =>
      obtain rfl := Option.some.inj step
      rfl
  | read =>
      simp only [Moves, System.step] at step
      split_ifs at step
      obtain rfl := Option.some.inj step
      rfl

lemma running_moves {moves : List Move}
    (run : Reaches Moves (System.start requests server) moves sys)
    (succeeded : sys.main.position ≠ .ended .sql) : Running requests server sys := by
  have reached : sys.main.position = .ended .sql ∨ Running requests server sys := by
    refine reaches_invariant
      (P := fun sys => sys.main.position = .ended .sql ∨ Running requests server sys)
      ?_ (.inr running_start) run
    rintro sys move sys' (ended | running) step
    · rw [main_of_ended ended (movesWith_none step)]
      exact .inl ended
    · rcases running_step running (movesWith_none step) with running' | crashed
      · exact .inr running'
      · obtain ⟨r, left, t, performed, rest, m, -, ended, -⟩ := crashed
        rw [sql_of_ended running step ended] at ended
        exact .inl ended
  exact reached.resolve_left succeeded

/-- **Requests are served in order.**  While no statement has failed, in every state that client
and server can reach from the start: the requests completed are a prefix of the requests sent, and
wholly written; exactly their statements have been executed, in order; each `showTable` among them
has had one reply; and the server is still in its loop. -/
theorem served_in_order {moves : List Move}
    (run : Reaches Moves (System.start requests server) moves sys)
    (succeeded : sys.main.position ≠ .ended .sql) :
    sys.main.served <+: requests
      ∧ sys.main.served.flatMap Request.items <+: sys.written
      ∧ sys.main.server.executed = server.executed ++ sys.main.served.flatMap sqlTexts
      ∧ sys.main.server.replies.length
          = server.replies.length + sys.main.served.count .showTable
      ∧ ∀ t, sys.main.position ≠ .ended t := by
  have running := running_moves run succeeded
  obtain ⟨left, split, ahead⟩ := running.ahead
  have everything : sys.written ++ sys.toWrite = requests.flatMap Request.items :=
    reaches_invariant
      (P := fun sys => sys.written ++ sys.toWrite = requests.flatMap Request.items)
      (fun _ _ _ before step => (written_step step).trans before) rfl run
  have written : sys.main.served.flatMap Request.items <+: sys.written := by
    obtain ⟨consumed, -, items⟩ := ahead
    refine ⟨consumed ++ sys.inFlight, (List.append_left_inj sys.toWrite).mp ?_⟩
    rw [everything, split, List.flatMap_append, items]
    simp only [List.append_assoc]
  exact ⟨⟨left, split.symm⟩, written, running.progress.executed, running.progress.replies,
    ahead.running⟩

/-- The client sends a `delete` and is cut off behind the tag of the next request. -/
theorem served_in_order_cutOff :
    let requests := [Request.delete ⟨1⟩, Request.delete ⟨2⟩]
    let server : Server (MariaDb.simple .infoMessage).backend := .initial
    ∃ sys, Reaches Moves (System.start requests server)
        [.begin, .write, .read, .write, .write, .read, .begin, .close, .read, .read] sys
      ∧ sys.main.served <+: requests
      ∧ sys.main.server.executed = server.executed ++ sys.main.served.flatMap sqlTexts := by
  intro requests server
  let moves : List Move :=
    [.begin, .write, .read, .write, .write, .read, .begin, .close, .read, .read]
  let sys? := moves.foldlM System.step (System.start requests server)
  have position : sys?.map (·.main.position) = some .readTag := by decide +kernel
  obtain ⟨sys, run, position⟩ := Option.map_eq_some_iff.mp position
  have reach := (reaches_foldlM System.step _ sys _).mpr run
  have spec := served_in_order reach (by rw [position]; simp)
  exact ⟨sys, reach, spec.1, spec.2.2.1⟩

end Billboard
