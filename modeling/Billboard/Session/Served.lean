import Billboard.Session.Session

/-!
# What comes of the events

Along a run of a session in which every write succeeds and no database call fails:

* **`session_serves`** — if Delete is pressed only where an id is remembered, and the texts sent are
  free of quotes and backslashes, the server never leaves its loop; what it has served is at every
  moment a beginning of what the events have asked for, the database is what these requests made of
  it, and there is no reply that the window has not read.
* **`session_drains`** — from every state of such a run as many reads as items are in flight serve
  all that has been asked for.
-/

namespace Billboard

open Java Runs

variable {m : MariaDb}

/-- Such a request always has its effect, and no answer. -/
lemma effect_ofWindow {r : Request} (h : r.OfWindow) (db : Db m) :
    (∃ db', db.effect r = some db') ∧ ∀ db' : Db m, db'.answer r = [] := by
  cases r with
  | addBillboard a => exact h.elim
  | showTable => exact h.elim
  | addView a => exact ⟨⟨_, rfl⟩, fun _ => rfl⟩
  | delete d => exact ⟨⟨_, rfl⟩, fun _ => rfl⟩
  | editTable e => exact ⟨⟨_, rfl⟩, fun _ => rfl⟩

/-! ## The invariant -/

/-- Every write succeeds, Delete is pressed only where an id is remembered, the texts sent are free
of quotes and backslashes, and no database call fails. -/
def Orderly (s : Session m.backend) : Happening → Prop
  | .event e => e.Succeeds ∧ RowSelected s.client e ∧ ∀ r, s.client.request e = some r → r.Plain
  | .close => True
  | .read f => f = Faults.none

/-- What the window has asked for is what the server has served and what is ahead of it, and the
database is what the former made of it. -/
structure Session.Serving (asked : List Request) (server : Server m.backend)
    (s : Session m.backend) : Prop where
  sent : s.client.sent = asked.flatMap Request.items
  ahead : ∃ left, asked = s.main.served ++ left ∧ Ahead left s.closed s.inFlight [] s.main
    ∧ ∀ r ∈ left, r.OfWindow ∧ r.Plain
  store : Reaches Serves server.store s.main.served s.main.server.store
  replies : s.main.server.replies = server.replies

variable {asked : List Request} {server : Server m.backend} {s s' : Session m.backend}

lemma serving_opened (reply : DataArray) :
    (Session.opened reply server).Serving [.showTable] server where
  sent := by simp [Session.opened, Client.start]
  ahead := ⟨[], rfl, ⟨[], .atTag _ _, rfl⟩, by simp⟩
  store := ⟨_, serves_iff.mpr ⟨by simp [Request.Plain, Request.texts], rfl⟩, rfl⟩
  replies := rfl

/-- An event puts its request behind those ahead of the server. -/
lemma serving_event (h : s.Serving asked server) {e : Event} (running : s.closed = false)
    (orderly : Orderly s (.event e)) :
    (s.acting e).Serving (asked ++ (s.client.request e).toList) server := by
  obtain ⟨succeeds, selected, plain⟩ := orderly
  obtain ⟨left, split, ⟨consumed, stands, items⟩, window⟩ := h.ahead
  rw [Session.acting]
  have outgoing := outgoing_request selected
  have sent := sent_step (c := s.client) succeeds
  refine ⟨?_, ⟨left ++ (s.client.request e).toList, ?_, ⟨consumed, ?_, ?_⟩, ?_⟩, h.store, h.replies⟩
  · show (s.client.step e).sent = _
    rw [sent, h.sent, outgoing, List.flatMap_append]
  · rw [split, List.append_assoc]
  · rw [running] at stands ⊢
    exact stands.write _
  · rw [List.flatMap_append, items, writes_eq sent, outgoing]
    simp only [List.append_nil, List.append_assoc]
  · intro r hr
    rcases List.mem_append.mp hr with hr | hr
    · exact window r hr
    · have asks : s.client.request e = some r := by simpa [Option.mem_toList] using hr
      exact ⟨ofWindow_request asks, plain r asks⟩

/-- A read serves the next request or takes up a part of it. -/
lemma serving_read (h : s.Serving asked server) (enabled : s.inFlight ≠ [] ∨ s.closed = true) :
    (s.reading Faults.none).Serving asked server
      ∧ (s.main.read Faults.none s.inFlight).2 = s.inFlight.tail := by
  obtain ⟨left, split, ahead, window⟩ := h.ahead
  rw [Session.reading]
  rcases ahead_read Faults.none ahead enabled with
    ⟨r, left', rfl, read, items⟩ | ⟨position, read, ahead'⟩
  · rw [List.forall_mem_cons] at window
    obtain ⟨⟨ofWindow, plain⟩, window⟩ := window
    obtain ⟨⟨db', effect⟩, silent⟩ := effect_ofWindow ofWindow (show Db m from s.main.server.store)
    rcases run_serve_plain plain s.main.server with ⟨db'', s', effect', run, served⟩ | ⟨rejected, -⟩
    · have main : s.main.serve Faults.none r = ⟨s', .readTag, s.main.served ++ [r]⟩ := by
        simp only [Main.serve, run]
      rw [read, main]
      refine ⟨⟨h.sent, ⟨left', ?_, ⟨[], .atTag _ _, items⟩, window⟩, ?_, ?_⟩, rfl⟩
      · rw [split, List.append_assoc]
        rfl
      · rw [reaches_snoc]
        exact ⟨_, h.store, serves_iff.mpr ⟨plain, by rw [effect', served.store]⟩⟩
      · show s'.replies = _
        rw [served.replies, silent, List.append_nil, h.replies]
    · rw [effect] at rejected
      cases rejected
  · rw [read]
    exact ⟨⟨h.sent, ⟨left, split, ahead', window⟩, h.store, h.replies⟩, rfl⟩

/-- Closing the window asks for nothing. -/
lemma serving_close (h : s.Serving asked server) : Session.Serving asked server
    { s with closed := true } := by
  obtain ⟨left, split, ⟨consumed, stands, items⟩, window⟩ := h.ahead
  exact ⟨h.sent, ⟨left, split, ⟨consumed, stands.close, items⟩, window⟩, h.store, h.replies⟩

/-- The request that a happening adds to what the server is asked for. -/
def Session.request (s : Session m.backend) : Happening → Option Request
  | .event e => s.client.request e
  | .close => none
  | .read _ => none

/-- **One step** of an orderly run. -/
theorem serving_step (h : s.Serving asked server) {what : Happening} (orderly : Orderly s what)
    (step : Happens s what s') : s'.Serving (asked ++ (s.request what).toList) server := by
  cases what with
  | event e =>
      obtain ⟨running, rfl⟩ := happens_event.mp step
      exact serving_event h running orderly
  | close =>
      obtain rfl := happens_close.mp step
      rw [Session.request, Option.toList_none, List.append_nil]
      exact serving_close h
  | read f =>
      obtain rfl : f = Faults.none := orderly
      obtain ⟨enabled, rfl⟩ := happens_read.mp step
      rw [Session.request, Option.toList_none, List.append_nil]
      exact (serving_read h enabled).1

/-! ## Runs -/

/-- What the events of a run ask for, the `showTable` of the opening included. -/
def askedBy (reply : DataArray) (happenings : List Happening) : List Request :=
  .showTable :: (Client.start reply).asks (eventsOf happenings)

lemma askedBy_snoc {reply : DataArray} {happenings : List Happening}
    (run : Reaches Happens (Session.opened reply server) happenings s) (what : Happening) :
    askedBy reply (happenings ++ [what]) = askedBy reply happenings ++ (s.request what).toList := by
  have client : s.client = (Client.start reply).run (eventsOf happenings) := client_of_reaches run
  cases what with
  | event e =>
      have events : eventsOf (happenings ++ [.event e]) = eventsOf happenings ++ [e] := by
        simp [eventsOf]
      rw [askedBy, events, asks_snoc, ← client]
      rfl
  | close => simp [askedBy, eventsOf, Session.request]
  | read f => simp [askedBy, eventsOf, Session.request]

/-- **The invariant along a run**, by induction on what happens. -/
theorem serving_reaches {reply : DataArray} {happenings : List Happening}
    (run : Reaches Happens (Session.opened reply server) happenings s)
    (orderly : EveryStep Happens Orderly (Session.opened reply server) happenings) :
    s.Serving (askedBy reply happenings) server := by
  induction happenings using List.reverseRecOn generalizing s with
  | nil =>
      obtain rfl := run
      exact serving_opened reply
  | append_singleton happenings what ih =>
      obtain ⟨mid, before, one⟩ := (reaches_snoc _ _ _ _ _).mp run
      obtain ⟨earlier, last⟩ := (everyStep_snoc _ _ _ _ _).mp orderly
      rw [askedBy_snoc before]
      exact serving_step (ih before earlier) (last mid s before one) one

/-- What is consumed of a request is none of it, or not complete. -/
lemma consumed_eq_nil {position : Position} {closed : Bool} {inFlight consumed : List Item}
    (stands : Consumed position closed inFlight consumed) (complete : Complete consumed) :
    consumed = [] := by
  cases stands with
  | atTag => rfl
  | inCase c => exact absurd complete (not_complete_tag c)
  | cutOff c => exact absurd complete (not_complete_tag c)

/-- Where nothing is in flight, nothing is ahead of the server. -/
lemma served_of_nothing (h : s.Serving asked server) (nothing : s.inFlight = []) :
    s.main.served = asked := by
  obtain ⟨left, split, ⟨consumed, stands, items⟩, -⟩ := h.ahead
  rw [nothing, List.append_nil, List.append_nil] at items
  have none_consumed := consumed_eq_nil stands ⟨left, items.symm⟩
  have none_left : left = [] := flatMap_items_injective (items.trans none_consumed)
  rw [split, none_left, List.append_nil]

/-- **What has been served**, at every moment of an orderly run. -/
theorem session_serves {reply : DataArray} {happenings : List Happening}
    (run : Reaches Happens (Session.opened reply server) happenings s)
    (orderly : EveryStep Happens Orderly (Session.opened reply server) happenings) :
    (∀ t, s.main.position ≠ .ended t)
      ∧ s.main.served <+: askedBy reply happenings
      ∧ Reaches Serves server.store s.main.served s.main.server.store
      ∧ s.main.server.replies = server.replies
      ∧ (s.inFlight = [] → s.main.served = askedBy reply happenings) := by
  have serving := serving_reaches run orderly
  obtain ⟨left, split, ⟨consumed, stands, -⟩, -⟩ := serving.ahead
  exact ⟨stands.running, ⟨left, split.symm⟩, serving.store, serving.replies,
    served_of_nothing serving⟩

/-- A window that has just opened sends a schedule whose form is empty. -/
lemma orderly_schedule :
    EveryStep Happens Orderly (Session.opened ⟨[]⟩ (Server.initial : Server m.backend))
      [.event (.press .scheduleSubmit noFailure), .read Faults.none] := by
  rw [everyStep_cons]
  refine ⟨fun _ _ => ⟨fun _ => rfl, trivial, ?_⟩, fun _ _ => ?_⟩
  · intro r asks
    obtain rfl := Option.some.inj asks
    simp [Request.Plain, Request.texts, Client.addview, Session.opened, Client.start]
  · rw [everyStep_cons]
    exact ⟨fun _ _ => rfl, fun _ _ => everyStep_nil _ _ _⟩

/-- The server has read the tag of the schedule and served nothing of it. -/
theorem session_serves_schedule :
    ∃ s : Session (MariaDb.simple .infoMessage).backend,
      Reaches Happens (Session.opened ⟨[]⟩ Server.initial)
        [.event (.press .scheduleSubmit noFailure), .read Faults.none] s
      ∧ s.main.position = .readPayload .addView
      ∧ s.main.served
        <+: askedBy ⟨[]⟩ [.event (.press .scheduleSubmit noFailure), .read Faults.none] := by
  obtain ⟨s, run, position⟩ : ∃ s : Session (MariaDb.simple .infoMessage).backend,
      Reaches Happens (Session.opened ⟨[]⟩ Server.initial)
        [.event (.press .scheduleSubmit noFailure), .read Faults.none] s
      ∧ s.main.position = .readPayload .addView :=
    ⟨_, ⟨_, rfl, _, rfl, rfl⟩, rfl⟩
  exact ⟨s, run, position, (session_serves run orderly_schedule).2.1⟩

/-- As many reads as items are in flight. -/
lemma serving_drains (h : s.Serving asked server) :
    ∃ s', Reaches Happens s (List.replicate s.inFlight.length (.read Faults.none)) s'
      ∧ s'.Serving asked server ∧ s'.inFlight = [] := by
  induction arrived : s.inFlight.length generalizing s with
  | zero => exact ⟨s, rfl, h, List.length_eq_zero_iff.mp arrived⟩
  | succ n ih =>
      have enabled : s.inFlight ≠ [] ∨ s.closed = true :=
        .inl (List.ne_nil_of_length_eq_add_one arrived)
      obtain ⟨serving, shorter⟩ := serving_read h enabled
      let next : Session m.backend := s.reading Faults.none
      have one : Happens s (.read Faults.none) next := if_pos enabled
      have left : next.inFlight.length = n := by
        show ((s.main.read Faults.none s.inFlight).2).length = n
        rw [shorter, List.length_tail, arrived, Nat.add_sub_cancel]
      obtain ⟨s', later, served, nothing⟩ := ih serving left
      exact ⟨s', ⟨next, one, later⟩, served, nothing⟩

/-- **All that has been asked for will be served**: from every state of an orderly run, by as many
reads as items are in flight, the window doing nothing more. -/
theorem session_drains {reply : DataArray} {happenings : List Happening}
    (run : Reaches Happens (Session.opened reply server) happenings s)
    (orderly : EveryStep Happens Orderly (Session.opened reply server) happenings) :
    ∃ s', Reaches Happens s (List.replicate s.inFlight.length (.read Faults.none)) s'
      ∧ s'.inFlight = []
      ∧ s'.main.served = askedBy reply happenings
      ∧ Reaches Serves server.store (askedBy reply happenings) s'.main.server.store := by
  obtain ⟨s', later, serving, nothing⟩ := serving_drains (serving_reaches run orderly)
  have all := served_of_nothing serving nothing
  exact ⟨s', later, nothing, all, all ▸ serving.store⟩

/-- One more read serves the schedule. -/
theorem session_drains_schedule :
    ∃ s s' : Session (MariaDb.simple .infoMessage).backend,
      Reaches Happens (Session.opened ⟨[]⟩ Server.initial)
        [.event (.press .scheduleSubmit noFailure), .read Faults.none] s
      ∧ Reaches Happens s [.read Faults.none] s'
      ∧ s'.main.served = [.showTable, .addView ⟨[], [], [], []⟩] := by
  obtain ⟨s, run, arrived⟩ : ∃ s : Session (MariaDb.simple .infoMessage).backend,
      Reaches Happens (Session.opened ⟨[]⟩ Server.initial)
        [.event (.press .scheduleSubmit noFailure), .read Faults.none] s
      ∧ s.inFlight.length = 1 :=
    ⟨_, ⟨_, rfl, _, rfl, rfl⟩, rfl⟩
  obtain ⟨s', reads, -, served, -⟩ := session_drains run orderly_schedule
  rw [arrived] at reads
  exact ⟨s, s', run, reads, served⟩

end Billboard
