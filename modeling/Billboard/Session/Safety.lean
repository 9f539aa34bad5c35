import Billboard.Session.Session

/-!
# What comes of a session whatever fails

Whichever writes of the window and whichever database calls fail, in whichever order the server
reads, and whenever the window is closed:

* **`session_safe`** — the requests served are a beginning of those that the window has written to
  the end, in this order, and so are the statements executed.  No request is left out, invented, or
  served twice; where nothing is left to read and the server is in its loop, all have been served.
* **`server_misled_iff`** — when no database call fails, and every payload can be written, the
  server leaves its loop exactly if an event left a tag alone and a later one wrote something.
-/

namespace Billboard

open Java Runs

variable {B : Backend}

/-- Nothing but a tag is left of the stream: there is no further request. -/
lemma left_of_consumed {position : Position} {closed : Bool} {consumed : List Item}
    {left : List Request} (stands : Consumed position closed [] consumed)
    (sends : Sends consumed left) : left = [] := by
  have nothing : ∀ {rs : List Request}, Sends [] rs → rs = [] := by
    intro rs h
    generalize none : [] = items at h
    cases h with
    | nothing => rfl
    | tag k later => cases none
    | request r later => cases none
  have tag : ∀ {c : Case}, Sends [.utf c.tag] left → left = [] := by
    intro c h
    rcases Sends.of_cons h with
      ⟨k, -, later⟩ | ⟨same, -⟩ | ⟨c', p, r, left', rest', -, object, -⟩
    · exact nothing later
    · exact absurd (Item.utf.inj same) (tag_ne_showTable c)
    · cases object
  cases stands with
  | atTag => exact nothing sends
  | inCase c => exact tag sends
  | cutOff c => exact tag sends

/-- The server could read all that has been sent. -/
lemma readable_consumed {position : Position} {closed : Bool} {consumed : List Item}
    (stands : Consumed position closed [] consumed) (served : List Request) :
    Position.readTag.expectsAll (served.flatMap Request.items ++ consumed) ≠ none := by
  have tag : ∀ c : Case,
      Position.readTag.expectsAll (served.flatMap Request.items ++ [.utf c.tag]) ≠ none := by
    intro c
    rw [expectsAll_endsInTag]
    exact Option.some_ne_none _
  cases stands with
  | atTag =>
      rw [List.append_nil, expectsAll_complete ⟨served, rfl⟩]
      exact Option.some_ne_none _
  | inCase c => exact tag c
  | cutOff c => exact tag c

/-! ## The invariant -/

/-- Some server process, any of whose database calls may fail, deals with the request. -/
def Deals (store : B.Store) (r : Request) (store' : B.Store) : Prop :=
  ∃ (f : Faults) (s : Server B), s.store = store ∧ ((serve f r).after s).store = store'

/-- The server is in its loop.  It has served these requests of the window, and has consumed of the
stream their items and a part of the next one. -/
structure Session.Looping (server : Server B) (mine : List Request) (s : Session B) : Prop where
  served : s.main.served = .showTable :: mine
  stream : ∃ consumed, Consumed s.main.position s.closed s.inFlight consumed
    ∧ s.client.sent = s.main.served.flatMap Request.items ++ (consumed ++ s.inFlight)
  progress : ∃ answers, Progress (mine.flatMap sqlTexts) answers server s.main.server
  history : Reaches Deals server.store mine s.main.server.store

/-- It has ended, after these requests or in the next one: a database call has failed, or it cannot
read what has been sent. -/
structure Session.Stopped (server : Server B) (mine : List Request) (s : Session B) : Prop where
  served : s.main.served = .showTable :: mine
  ended : ∃ t, s.main.position = .ended t
    ∧ (FromDatabase t ∨ Position.readTag.expectsAll s.client.sent = none)
  stream : ∃ next rest,
    s.client.sent = (s.main.served ++ next).flatMap Request.items ++ rest
      ∧ Reaches Deals server.store (mine ++ next) s.main.server.store
      ∧ ∃ texts, s.main.server.executed = server.executed ++ texts
        ∧ texts <+: (mine ++ next).flatMap sqlTexts

variable {server : Server B} {s s' : Session B} {mine : List Request}

lemma looping_opened (reply : DataArray) : (Session.opened reply server).Looping server [] where
  served := rfl
  stream := ⟨[], .atTag _ _, rfl⟩
  progress := ⟨0, .refl server⟩
  history := rfl

/-- Serving the next request leaves the server in its loop, or ends it. -/
lemma looping_serve (h : s.Looping server mine) (f : Faults) {r : Request} {rest : List Item}
    (sent : s.client.sent = s.main.served.flatMap Request.items ++ (r.items ++ rest)) :
    ∃ mine', Session.Looping server mine' { s with main := s.main.serve f r, inFlight := rest }
      ∨ Session.Stopped server mine' { s with main := s.main.serve f r, inFlight := rest } := by
  obtain ⟨answers, progress⟩ := h.progress
  have mine' : s.main.served ++ [r] = .showTable :: (mine ++ [r]) := by
    rw [h.served, List.cons_append]
  have stream : s.client.sent = (s.main.served ++ [r]).flatMap Request.items ++ rest := by
    rw [sent, List.flatMap_append, List.flatMap_singleton, List.append_assoc]
  have history : Reaches Deals server.store (mine ++ [r])
      ((serve f r).after s.main.server).store :=
    (reaches_snoc _ _ _ _ _).mpr ⟨_, h.history, f, s.main.server, rfl, rfl⟩
  rcases serve_cases f s.main r with ⟨server', run, main⟩ | ⟨t, server', database, run, main⟩
  · rw [main]
    rw [Act.after_eq_of_ok run] at history
    refine ⟨mine ++ [r], .inl ⟨mine', ⟨[], .atTag _ _, stream⟩, ⟨answers + r.answers, ?_⟩,
      history⟩⟩
    rw [List.flatMap_append, List.flatMap_singleton]
    exact progress.trans (progress_of_ok run)
  · rw [main]
    rw [Act.after_eq_of_error run] at history
    obtain ⟨performed, left, mid, cut, before, abandoned, -⟩ := progress_of_error run
    refine ⟨mine, .inr ⟨h.served, ⟨t, rfl, .inl database⟩, [r], rest, stream, history,
      mine.flatMap sqlTexts ++ performed, ?_, left, ?_⟩⟩
    · exact abandoned.executed.trans (progress.trans before).executed
    · rw [List.flatMap_append, List.flatMap_singleton, cut, List.append_assoc]

/-- The tag of a case is taken up. -/
lemma looping_tag (h : s.Looping server mine) (f : Faults) {k : Case} {rest : List Item}
    (position : s.main.position = .readTag) (arrived : s.inFlight = .utf k.tag :: rest)
    (stream : s.client.sent = s.main.served.flatMap Request.items ++ .utf k.tag :: rest) :
    (s.reading f).Looping server mine := by
  have reads : s.reading f
      = { s with main := { s.main with position := .readPayload k }, inFlight := rest } := by
    rw [Session.reading, arrived, read_tag f k rest position]
  rw [reads]
  exact ⟨h.served, ⟨[.utf k.tag], .inCase k _ _, stream⟩, h.progress, h.history⟩

/-- **A read** of a server in its loop: it takes up a part of the next request, serves it, or meets
a tag in the place of a payload. -/
lemma looping_read (h : s.Looping server mine) {sent : List Request}
    (sends : Sends s.client.sent sent) (f : Faults)
    (enabled : s.inFlight ≠ [] ∨ s.closed = true) :
    ∃ mine', (s.reading f).Looping server mine' ∨ (s.reading f).Stopped server mine' := by
  obtain ⟨consumed, stands, stream⟩ := h.stream
  cases arrived : s.inFlight with
  | nil =>
      have closed : s.closed = true := by simpa [arrived] using enabled
      rw [arrived] at stream
      rw [arrived, closed] at stands
      have reads : s.reading f
          = { s with main := { s.main with position := .readTag }, inFlight := [] } := by
        rw [Session.reading, arrived, read_end f stands.running]
      rw [reads]
      refine ⟨mine, .inl ⟨h.served, ⟨consumed, ?_, stream⟩, h.progress, h.history⟩⟩
      show Consumed .readTag s.closed [] consumed
      rw [closed]
      exact stands.ended
  | cons i rest =>
      rw [arrived] at stands stream
      rw [stream] at sends
      obtain ⟨left, -, next⟩ := sends_split sends
      rcases stands.of_arrived with ⟨position, rfl⟩ | ⟨c, position, rfl⟩
      · rcases Sends.of_cons next with ⟨k, rfl, -⟩ | ⟨rfl, -⟩ | ⟨c, p, r, left', rest', rfl, -⟩
        · exact ⟨mine, .inl (looping_tag h f position arrived stream)⟩
        · have reads : s.reading f
              = { s with main := s.main.serve f .showTable, inFlight := rest } := by
            rw [Session.reading, arrived, read_showTable f rest position]
          rw [reads]
          exact looping_serve h f stream
        · exact ⟨mine, .inl (looping_tag h f position arrived stream)⟩
      · rcases Sends.of_cons next with
          ⟨k, -, later⟩ | ⟨same, -⟩ | ⟨c', p, r, left', rest', same, object, shape, cast, -⟩
        · -- the tag was alone, and another one follows
          obtain ⟨x, rfl⟩ := later.head
          have reads : s.reading f
              = { s with main := { s.main with position := .ended .optionalData } } := by
            simp only [Session.reading, Main.read, position, readObject, Position.caught, arrived]
          have broken : Broken s.client.sent := ⟨s.main.served, c, x, rest, stream⟩
          obtain ⟨answers, progress⟩ := h.progress
          rw [reads]
          refine ⟨mine, .inr ⟨h.served, ⟨_, rfl, .inr (expectsAll_broken broken)⟩, [],
            [.utf c.tag] ++ .utf x :: rest, ?_, ?_, (mine ++ []).flatMap sqlTexts, ?_,
            List.prefix_refl _⟩⟩
          · rw [List.append_nil]
            exact stream
          · rw [List.append_nil]
            exact h.history
          · rw [List.append_nil]
            exact progress.executed
        · exact absurd (Item.utf.inj same) (tag_ne_showTable c)
        · obtain rfl := tag_injective (Item.utf.inj same)
          obtain ⟨rfl, rfl⟩ := List.cons.inj object
          have reads : s.reading f = { s with main := s.main.serve f r, inFlight := rest } := by
            rw [Session.reading, arrived, read_payload f rest position cast]
          rw [reads]
          refine looping_serve h f ?_
          rw [stream, shape]
          rfl

/-- An event puts more behind what is in flight. -/
lemma looping_event (h : s.Looping server mine) (running : s.closed = false) (e : Event) :
    (s.acting e).Looping server mine := by
  obtain ⟨consumed, stands, stream⟩ := h.stream
  refine ⟨h.served, ⟨consumed, ?_, ?_⟩, h.progress, h.history⟩
  · show Consumed s.main.position s.closed (s.inFlight ++ s.client.writes e) consumed
    rw [running] at stands ⊢
    exact stands.write _
  · show (s.client.step e).sent
      = s.main.served.flatMap Request.items ++ (consumed ++ (s.inFlight ++ s.client.writes e))
    rw [(fragment_writes s.client e).2, stream]
    simp only [List.append_assoc]

/-- A server that has ended stays as it is. -/
lemma stopped_step (h : s.Stopped server mine) {what : Happening} (step : Happens s what s') :
    s'.Stopped server mine := by
  obtain ⟨served, ⟨t, ended, cause⟩, next, rest, stream, executed⟩ := h
  cases what with
  | event e =>
      obtain ⟨-, rfl⟩ := happens_event.mp step
      have sent : (s.acting e).client.sent = s.client.sent ++ s.client.writes e :=
        (fragment_writes s.client e).2
      refine ⟨served, ⟨t, ended, ?_⟩, next, rest ++ s.client.writes e, ?_, executed⟩
      · refine cause.imp id fun unreadable => ?_
        rw [sent, expectsAll_append, unreadable]
        rfl
      · rw [sent, stream, List.append_assoc]
        rfl
  | close =>
      obtain rfl := happens_close.mp step
      exact ⟨served, ⟨t, ended, cause⟩, next, rest, stream, executed⟩
  | read f =>
      obtain ⟨-, rfl⟩ := happens_read.mp step
      have reads : s.reading f = s := by
        simp only [Session.reading, Main.read, ended]
      rw [reads]
      exact ⟨served, ⟨t, ended, cause⟩, next, rest, stream, executed⟩

/-- **One step** keeps the invariant. -/
lemma safe_step {sent : List Request} (sends : Sends s.client.sent sent)
    (safe : ∃ mine, s.Looping server mine ∨ s.Stopped server mine) {what : Happening}
    (step : Happens s what s') : ∃ mine, s'.Looping server mine ∨ s'.Stopped server mine := by
  obtain ⟨mine, loops | stopped⟩ := safe
  · cases what with
    | event e =>
        obtain ⟨running, rfl⟩ := happens_event.mp step
        exact ⟨mine, .inl (looping_event loops running e)⟩
    | close =>
        obtain rfl := happens_close.mp step
        obtain ⟨consumed, stands, stream⟩ := loops.stream
        exact ⟨mine, .inl ⟨loops.served, ⟨consumed, stands.close, stream⟩, loops.progress,
          loops.history⟩⟩
    | read f =>
        obtain ⟨enabled, rfl⟩ := happens_read.mp step
        exact looping_read loops sends f enabled
  · exact ⟨mine, .inr (stopped_step stopped step)⟩

/-- What the server does leaves alone what the window has written. -/
lemma sends_step (sends : ∃ sent, Sends s.client.sent sent) {what : Happening}
    (step : Happens s what s') : ∃ sent, Sends s'.client.sent sent := by
  obtain ⟨sent, sends⟩ := sends
  rcases client_of_happens step with ⟨e, -, client⟩ | client
  · refine ⟨sent ++ (s.client.sends e).toList, ?_⟩
    rw [client, (fragment_writes s.client e).2]
    exact sends.append (sends_writes s.client e)
  · exact ⟨sent, by rwa [client]⟩

lemma safe_reaches {reply : DataArray} {happenings : List Happening}
    (run : Reaches Happens (Session.opened reply server) happenings s) :
    ∃ mine, s.Looping server mine ∨ s.Stopped server mine :=
  (reaches_invariant (P := fun s : Session B =>
      (∃ sent, Sends s.client.sent sent) ∧ ∃ mine, s.Looping server mine ∨ s.Stopped server mine)
    (fun _ _ _ before one =>
      ⟨sends_step before.1 one, before.1.elim fun _ sends => safe_step sends before.2 one⟩)
    ⟨⟨_, sends_run reply []⟩, [], .inl (looping_opened reply)⟩ run).2

/-- What the window has written to the end, as far as the server has taken it. -/
lemma sent_of_reaches {reply : DataArray} {happenings : List Happening}
    (run : Reaches Happens (Session.opened reply server) happenings s) :
    Sends s.client.sent (.showTable :: (Client.start reply).sendsAll (eventsOf happenings)) := by
  rw [client_of_reaches run]
  exact sends_run reply _

/-- **The tables after a session** are what some of the requests sent, each of them completed or
not, have made of them. -/
lemma dealt_of_reaches {reply : DataArray} {happenings : List Happening}
    (run : Reaches Happens (Session.opened reply server) happenings s) :
    ∃ dealt, dealt <+: (Client.start reply).sendsAll (eventsOf happenings)
      ∧ Reaches Deals server.store dealt s.main.server.store := by
  have sends := sent_of_reaches run
  obtain ⟨mine, loops | ⟨served, -, next, rest, stream, history, -⟩⟩ := safe_reaches run
  · obtain ⟨consumed, stands, stream⟩ := loops.stream
    rw [stream] at sends
    obtain ⟨left, split, -⟩ := sends_split sends
    rw [loops.served, List.cons_append] at split
    exact ⟨mine, ⟨left, (List.cons.inj split).2.symm⟩, loops.history⟩
  · rw [stream] at sends
    obtain ⟨left, split, -⟩ := sends_split sends
    rw [served, List.cons_append, List.cons_append] at split
    exact ⟨mine ++ next, ⟨left, (List.cons.inj split).2.symm⟩, history⟩

/-- **Safety of a session.**  Whatever the user does, whichever writes and database calls fail, and
in whichever order the server reads: what it has served is at every moment a beginning of what the
window has written to the end, and it has executed a beginning of the statements of this.  If it is
in its loop and nothing is left to read, it has served all of it. -/
theorem session_safe {reply : DataArray} {happenings : List Happening}
    (run : Reaches Happens (Session.opened reply server) happenings s) :
    let sent := (Client.start reply).sendsAll (eventsOf happenings)
    sent.Sublist ((Client.start reply).asks (eventsOf happenings))
      ∧ s.main.served <+: .showTable :: sent
      ∧ (∃ texts, s.main.server.executed = server.executed ++ texts
          ∧ texts <+: sent.flatMap sqlTexts)
      ∧ ((∀ t, s.main.position ≠ .ended t) → s.inFlight = [] →
          s.main.served = .showTable :: sent) := by
  intro sent
  have sends : Sends s.client.sent (.showTable :: sent) := sent_of_reaches run
  refine ⟨sendsAll_sublist _ _, ?_⟩
  obtain ⟨mine, loops | ⟨served, ⟨t, ended, -⟩, next, rest, stream, -, texts, executed, cut⟩⟩ :=
    safe_reaches run
  · obtain ⟨consumed, stands, stream⟩ := loops.stream
    obtain ⟨answers, progress⟩ := loops.progress
    rw [stream] at sends
    obtain ⟨left, split, next⟩ := sends_split sends
    have mine' : sent = mine ++ left := by
      rw [loops.served, List.cons_append] at split
      exact (List.cons.inj split).2
    refine ⟨⟨left, split.symm⟩, ⟨_, progress.executed, left.flatMap sqlTexts, ?_⟩, ?_⟩
    · rw [mine', List.flatMap_append]
    · intro running nothing
      rw [nothing] at stands next
      rw [List.append_nil] at next
      rw [loops.served, mine', left_of_consumed stands next, List.append_nil]
  · rw [stream] at sends
    obtain ⟨left, split, -⟩ := sends_split sends
    have mine' : sent = mine ++ next ++ left := by
      rw [served, List.cons_append, List.cons_append] at split
      exact (List.cons.inj split).2
    refine ⟨⟨next ++ left, ?_⟩, ⟨texts, executed, cut.trans ⟨left.flatMap sqlTexts, ?_⟩⟩, ?_⟩
    · rw [split, List.append_assoc]
    · simp only [mine', List.flatMap_append]
    · intro running
      exact absurd ended (running t)

/-- The tag of a schedule cannot be written, and then the database fails: of the schedule that has
been sent again nothing has been executed. -/
theorem session_safe_again :
    let tagFails : Write → Bool := fun w => w = .tag
    let failing : Faults := { Faults.none with connect := true }
    let happenings : List Happening :=
      [.event (.press .scheduleSubmit tagFails), .event (.press .scheduleSubmit noFailure),
        .read Faults.none, .read failing]
    ∃ s : Session (MariaDb.simple .infoMessage).backend,
      Reaches Happens (Session.opened ⟨[]⟩ Server.initial) happenings s
        ∧ s.main.position = .ended .nullPointer
        ∧ s.main.served <+: .showTable :: (Client.start ⟨[]⟩).sendsAll (eventsOf happenings) := by
  intro tagFails failing happenings
  obtain ⟨s, run, position⟩ : ∃ s : Session (MariaDb.simple .infoMessage).backend,
      Reaches Happens (Session.opened ⟨[]⟩ Server.initial) happenings s
        ∧ s.main.position = .ended .nullPointer :=
    ⟨_, ⟨_, rfl, _, rfl, _, rfl, _, rfl, rfl⟩, rfl⟩
  exact ⟨s, run, position, (session_safe run).2.1⟩

/-- **What the window can do to the server.**  Whatever the user does, in whichever order the server
reads, and whichever writes of tags and flushes fail: once nothing is left to read, the server has
left its loop, no database call having failed, if and only if an event left a tag without its
payload and a later one wrote something.  What a payload that cannot be written leaves on the stream
is not known, so this is excluded. -/
theorem server_misled_iff {reply : DataArray} {server : Server B} {happenings : List Happening}
    {s : Session B} (run : Reaches Happens (Session.opened reply server) happenings s)
    (objects : ∀ e ∈ eventsOf happenings, e.WritesObject)
    (succeeded : ∀ t, FromDatabase t → s.main.position ≠ .ended t)
    (settled : s.inFlight = [] ∨ ∃ t, s.main.position = .ended t) :
    (∃ t, s.main.position = .ended t)
      ↔ Misleads (Client.start reply) (eventsOf happenings) := by
  have client : s.client = (Client.start reply).run (eventsOf happenings) := client_of_reaches run
  rw [misleads_iff reply objects, ← client]
  obtain ⟨mine, loops | ⟨-, ⟨t, ended, cause⟩, -⟩⟩ := safe_reaches run
  · obtain ⟨consumed, stands, stream⟩ := loops.stream
    have nothing : s.inFlight = [] := settled.resolve_right fun ⟨t, ended⟩ => stands.running t ended
    refine iff_of_false (fun ⟨t, ended⟩ => stands.running t ended) ?_
    rw [stream, nothing, List.append_nil]
    rw [nothing] at stands
    exact readable_consumed stands s.main.served
  · refine iff_of_true ⟨t, ended⟩ (cause.resolve_left fun database => ?_)
    exact succeeded t database ended

/-- Delete in a window that has just opened, and a schedule behind it: the tag of the schedule is
read in the place of the id to delete. -/
theorem server_misled_delete :
    ∃ s : Session (MariaDb.simple .infoMessage).backend,
      Reaches Happens (Session.opened ⟨[]⟩ Server.initial)
        [.event (.press .delete noFailure), .event (.press .scheduleSubmit noFailure),
          .read Faults.none, .read Faults.none] s
      ∧ s.main.position = .ended .optionalData
      ∧ Misleads (Client.start ⟨[]⟩)
        [.press .delete noFailure, .press .scheduleSubmit noFailure] := by
  obtain ⟨s, run, position⟩ : ∃ s : Session (MariaDb.simple .infoMessage).backend,
      Reaches Happens (Session.opened ⟨[]⟩ Server.initial)
        [.event (.press .delete noFailure), .event (.press .scheduleSubmit noFailure),
          .read Faults.none, .read Faults.none] s
      ∧ s.main.position = .ended .optionalData :=
    ⟨_, ⟨_, rfl, _, rfl, _, rfl, _, rfl, rfl⟩, rfl⟩
  refine ⟨s, run, position, (server_misled_iff run ?_ ?_ (.inr ⟨_, position⟩)).mp ⟨_, position⟩⟩
  · intro e pressed
    rcases List.mem_cons.mp pressed with rfl | pressed
    · rfl
    · obtain rfl := List.mem_singleton.mp pressed
      rfl
  · intro t database ended
    rw [position] at ended
    obtain rfl := Position.ended.inj ended
    exact absurd database (by simp [FromDatabase])

end Billboard
