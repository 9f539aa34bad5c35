import Billboard.Client.Requests
import Billboard.Server.Ahead

/-!
# A session

The window, the stream to the server, and the server with its database, in any interleaving of what
the user does and of the reads of the server.  An item is in flight once the window has written it;
closing the window exits its process, and the server then meets the end of the stream behind what
is in flight.
-/

namespace Billboard

open Java Runs

variable {B : Backend}

/-- The window, the items in flight, and the server. -/
structure Session (B : Backend) where
  client : Client
  closed : Bool
  inFlight : List Item
  main : Main B

/-- What happens in a session.  The database calls of a read may fail. -/
inductive Happening
  | event (e : Event)
  | close
  | read (f : Faults)

/-- What it leads to; `none` where it is not possible: a closed window takes no events, and a read
blocks until an item has arrived. -/
def Session.step (s : Session B) : Happening → Option (Session B)
  | .event e =>
      if s.closed then none
      else some
        { s with
          client := s.client.step e
          inFlight := s.inFlight ++ s.client.writes e }
  | .close => some { s with closed := true }
  | .read f =>
      if s.inFlight ≠ [] ∨ s.closed then some
        { s with
          main := (s.main.read f s.inFlight).1
          inFlight := (s.main.read f s.inFlight).2 }
      else none

def Happens (s : Session B) (h : Happening) (s' : Session B) : Prop :=
  s.step h = some s'

/-- The session after an event in its window. -/
def Session.acting (e : Event) (s : Session B) : Session B :=
  { s with
    client := s.client.step e
    inFlight := s.inFlight ++ s.client.writes e }

/-- The session after a read of its server. -/
def Session.reading (f : Faults) (s : Session B) : Session B :=
  { s with
    main := (s.main.read f s.inFlight).1
    inFlight := (s.main.read f s.inFlight).2 }

section

variable {s s' : Session B} {e : Event} {f : Faults}

lemma happens_event : Happens s (.event e) s' ↔ s.closed = false ∧ s' = s.acting e := by
  cases closed : s.closed <;> simp [Happens, Session.step, Session.acting, closed, eq_comm]

lemma happens_close : Happens s .close s' ↔ s' = { s with closed := true } := by
  simp [Happens, Session.step, eq_comm]

lemma happens_read :
    Happens s (.read f) s' ↔ (s.inFlight ≠ [] ∨ s.closed = true) ∧ s' = s.reading f := by
  constructor
  · intro step
    simp only [Happens, Session.step] at step
    split_ifs at step with enabled
    exact ⟨enabled, (Option.some.inj step).symm⟩
  · rintro ⟨enabled, rfl⟩
    exact if_pos enabled

/-- The window changes by its events only. -/
lemma client_of_happens {what : Happening} (step : Happens s what s') :
    (∃ e, what = .event e ∧ s'.client = s.client.step e) ∨ s'.client = s.client := by
  cases what with
  | event e =>
      obtain ⟨-, rfl⟩ := happens_event.mp step
      exact .inl ⟨e, rfl, rfl⟩
  | close =>
      obtain rfl := happens_close.mp step
      exact .inr rfl
  | read f =>
      obtain ⟨-, rfl⟩ := happens_read.mp step
      exact .inr rfl

end

/-- The window has just opened: the server has answered its `showTable`. -/
def Session.opened (reply : DataArray) (server : Server B) : Session B where
  client := Client.start reply
  closed := false
  inFlight := []
  main := ⟨server, .readTag, [.showTable]⟩

/-- The events of a run. -/
def eventsOf (happenings : List Happening) : List Event :=
  happenings.filterMap fun
    | .event e => some e
    | _ => none

/-- The window after a run is the window after its events: the server writes nothing it reads. -/
lemma client_of_reaches {s s' : Session B} {happenings : List Happening}
    (run : Reaches Happens s happenings s') : s'.client = s.client.run (eventsOf happenings) := by
  induction happenings generalizing s with
  | nil => rw [run]; rfl
  | cons h happenings ih =>
      obtain ⟨mid, one, later⟩ := run
      rw [ih later]
      cases h with
      | event e =>
          obtain ⟨-, rfl⟩ := happens_event.mp one
          rfl
      | close =>
          obtain rfl := happens_close.mp one
          rfl
      | read f =>
          obtain ⟨-, rfl⟩ := happens_read.mp one
          rfl

end Billboard
