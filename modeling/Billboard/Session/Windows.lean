import Billboard.Session.Startup

/-!
# Several windows

`Server.main` accepts one connection and never calls `accept` again.  The sockets of further windows
connect, as its listening socket takes them into its queue, but no one will ever read from them.
When the queue is full, a further window is refused.

How many connections the queue holds is the parameter `backlog`: `new ServerSocket(3310)` asks for
50, and leaves the number to the system.

* **`first_window_alone`** — whatever the others do, the first window and the server take together
  the steps of a start without them, and no other window ever opens.
-/

namespace Billboard

open Java Runs

variable {B : Backend}

/-- The windows, the connections that have not been accepted, and the server. -/
structure Lobby (B : Backend) where
  links : ℕ → Link
  queue : List ℕ
  accepted : Option ℕ
  host : Host B

def Lobby.start (server : Server B) : Lobby B where
  links _ := .start
  queue := []
  accepted := none
  host := .start server

inductive Turn
  | window (i : ℕ)
  | server
  deriving DecidableEq

/-- What a window meets that the server has not accepted once the server process has ended: its
socket is refused or reset. -/
def Link.reset (l : Link) : Option Link :=
  match l.window with
  | .connect => some { l with window := .threw .io }
  | .writeHeader => some { l with window := .threw .io }
  | .readHeader => some { l with window := .threw .io }
  | _ => none

/-- What a window meets when the queue is full. -/
def Link.refused (l : Link) : Option Link :=
  match l.window with
  | .connect => some { l with window := .threw .io }
  | _ => none

/-- The next step of a window. -/
def Lobby.windowStep (backlog : ℕ) (drains : Bool) (s : Lobby B) (i : ℕ) : Option (Lobby B) :=
  if s.host.ended ∧ s.accepted ≠ some i then
    (s.links i).reset.map fun l => { s with links := Function.update s.links i l }
  else if (s.links i).connected then
    ((s.links i).step drains s.host.ended).map fun l =>
      { s with links := Function.update s.links i l }
  else if s.queue.length < backlog then
    ((s.links i).step drains s.host.ended).map fun l =>
      { s with
        links := Function.update s.links i l
        queue := s.queue ++ [i] }
  else
    (s.links i).refused.map fun l => { s with links := Function.update s.links i l }

/-- The next step of the server: it accepts the connection that has waited longest. -/
def Lobby.serverStep (drains : Bool) (f : Faults) (s : Lobby B) : Option (Lobby B) :=
  match s.accepted, s.queue with
  | some i, _ =>
      (s.host.step drains f (s.links i)).map fun next =>
        { s with
          links := Function.update s.links i next.2
          host := next.1 }
  | none, i :: queue =>
      (s.host.step drains f (s.links i)).map fun next =>
        { s with
          links := Function.update s.links i next.2
          queue := queue
          accepted := some i
          host := next.1 }
  | none, [] => none

def Lobby.step (backlog : ℕ) (drains : Bool) (f : Faults) (s : Lobby B) : Turn → Option (Lobby B)
  | .window i => s.windowStep backlog drains i
  | .server => s.serverStep drains f

def Turns (backlog : ℕ) (drains : Bool) (f : Faults) (s : Lobby B) (turn : Turn) (s' : Lobby B) :
    Prop :=
  s.step backlog drains f turn = some s'

/-- What a window and the server are to each other. -/
def Lobby.pair (s : Lobby B) (i : ℕ) : Startup B :=
  ⟨s.links i, s.host⟩

/-- Which party of a start takes a turn, where `i` is the window. -/
def Turn.party (i : ℕ) : Turn → Option Party
  | .window j => if j = i then some .window else none
  | .server => some .server

/-- As many windows have connected as the queue holds. -/
def Lobby.Crowded (backlog : ℕ) (s : Lobby B) : Prop :=
  ∃ windows : List ℕ, windows.Nodup ∧ backlog ≤ windows.length
    ∧ ∀ k ∈ windows, (s.links k).connected = true

/-- A window that the server has not accepted: it gets no further than to wait for a header, and
what ends it is the end of the server process or a full queue. -/
structure Lobby.Outside (backlog : ℕ) (s : Lobby B) (j : ℕ) : Prop where
  window : (s.links j).window = .connect ∨ (s.links j).window = .writeHeader
    ∨ (s.links j).window = .readHeader
    ∨ (s.links j).window = .threw .io ∧ (s.host.ended = true ∨ s.Crowded backlog)
  header : (s.links j).headerToClient = false
  connected : (s.links j).connected = false →
    (s.links j).window = .connect ∨ (s.links j).window = .threw .io

/-- The window `i` is the first in the queue or has been accepted, and all others are outside. -/
structure Lobby.First (backlog : ℕ) (s : Lobby B) (i : ℕ) : Prop where
  ahead : s.accepted = some i
    ∨ s.accepted = none ∧ s.host.ended = false ∧ ∃ queue, s.queue = i :: queue
  connected : (s.links i).connected = true
  nodup : s.queue.Nodup
  queued : ∀ k ∈ s.queue, (s.links k).connected = true
  others : ∀ j, j ≠ i → s.Outside backlog j

variable {backlog : ℕ} {drains : Bool} {f : Faults} {s s' : Lobby B} {i j : ℕ}

/-! ## Steps of one party -/

lemma Link.connected_step {ended : Bool} {l l' : Link} (step : l.step drains ended = some l')
    (connected : l.connected = true) : l'.connected = true := by
  rcases Link.step_cases step with ⟨-, rfl⟩ | ⟨-, rfl⟩ | ⟨-, -, rfl⟩ | ⟨-, rfl⟩ |
    ⟨-, ⟨_, _, -, rfl⟩ | ⟨-, -, rfl⟩⟩
  · rfl
  all_goals exact connected

lemma Link.reset_eq {l l' : Link} (step : l.reset = some l') :
    l' = { l with window := .threw .io } := by
  unfold Link.reset at step
  split at step
  · exact (Option.some.inj step).symm
  · exact (Option.some.inj step).symm
  · exact (Option.some.inj step).symm
  · cases step

lemma Link.refused_eq {l l' : Link} (step : l.refused = some l') :
    l' = { l with window := .threw .io } := by
  unfold Link.refused at step
  split at step
  · exact (Option.some.inj step).symm
  · cases step

lemma Host.connected_step {h h' : Host B} {l l' : Link}
    (step : h.step drains f l = some (h', l')) : l'.connected = l.connected := by
  rcases Host.step_cases step with ⟨-, -, -, rfl⟩ | ⟨-, -, rfl⟩ | ⟨-, -, -, rfl⟩ |
    ⟨-, -, _, _, -, next⟩
  · rfl
  · rfl
  · rfl
  · exact congrArg (fun next => next.2.connected) next

/-- A server process that has ended takes no further step in its loop. -/
lemma Host.ended_step {h h' : Host B} {l l' : Link} (step : h.step drains f l = some (h', l'))
    (ended : h.ended = true) : h'.ended = true := by
  rcases Host.step_cases step with ⟨-, -, rfl, -⟩ | ⟨-, rfl, -⟩ | ⟨-, -, rfl, -⟩ | ⟨-, running, -⟩
  · exact ended
  · exact ended
  · exact ended
  · rw [ended] at running
    cases running

/-! ## Turns -/

/-- What a turn of a window does. -/
lemma windowStep_cases (step : s.windowStep backlog drains j = some s') :
    ∃ l, s'.links = Function.update s.links j l ∧ s'.host = s.host ∧ s'.accepted = s.accepted
      ∧ ((s.host.ended = true ∧ s.accepted ≠ some j ∧ l = { s.links j with window := .threw .io }
          ∧ s'.queue = s.queue)
        ∨ ((s.links j).connected = true ∧ (s.links j).step drains s.host.ended = some l
          ∧ s'.queue = s.queue)
        ∨ ((s.links j).connected = false ∧ (s.links j).step drains s.host.ended = some l
          ∧ s'.queue = s.queue ++ [j])
        ∨ ((s.links j).connected = false ∧ backlog ≤ s.queue.length
          ∧ l = { s.links j with window := .threw .io } ∧ s'.queue = s.queue)) := by
  unfold Lobby.windowStep at step
  split_ifs at step with gone connected room
  · obtain ⟨l, resets, rfl⟩ := Option.map_eq_some_iff.mp step
    exact ⟨l, rfl, rfl, rfl, .inl ⟨gone.1, gone.2, Link.reset_eq resets, rfl⟩⟩
  · obtain ⟨l, opens, rfl⟩ := Option.map_eq_some_iff.mp step
    exact ⟨l, rfl, rfl, rfl, .inr (.inl ⟨connected, opens, rfl⟩)⟩
  · obtain ⟨l, opens, rfl⟩ := Option.map_eq_some_iff.mp step
    exact ⟨l, rfl, rfl, rfl, .inr (.inr (.inl ⟨by simpa using connected, opens, rfl⟩))⟩
  · obtain ⟨l, refuses, rfl⟩ := Option.map_eq_some_iff.mp step
    exact ⟨l, rfl, rfl, rfl, .inr (.inr (.inr
      ⟨by simpa using connected, not_lt.mp room, Link.refused_eq refuses, rfl⟩))⟩

/-- Where one link changes and stays connected, all do. -/
lemma connected_frame (apart : ∀ k, k ≠ j → s'.links k = s.links k)
    (stays : (s.links j).connected = true → (s'.links j).connected = true) (k : ℕ)
    (before : (s.links k).connected = true) : (s'.links k).connected = true := by
  by_cases same : k = j
  · rw [same] at before ⊢
    exact stays before
  · rwa [apart k same]

/-- A window stays outside when another party takes a turn. -/
lemma Lobby.Outside.frame (outside : s.Outside backlog j) (link : s'.links j = s.links j)
    (ended : s.host.ended = true → s'.host.ended = true)
    (connected : ∀ k, (s.links k).connected = true → (s'.links k).connected = true) :
    s'.Outside backlog j := by
  obtain ⟨window, header, joined⟩ := outside
  refine ⟨?_, by rw [link, header], by rwa [link]⟩
  rw [link]
  refine window.imp_right (Or.imp_right (Or.imp_right (And.imp_right (Or.imp ended ?_))))
  rintro ⟨windows, nodup, many, all⟩
  exact ⟨windows, nodup, many, fun k mem => connected k (all k mem)⟩

/-- The server has accepted the first window, or does so now. -/
lemma first_server (first : s.First backlog i) (step : Turns backlog drains f s .server s') :
    s'.First backlog i ∧ Starts drains f (s.pair i) .server (s'.pair i) := by
  have accepts : ∃ h l, s.host.step drains f (s.links i) = some (h, l)
      ∧ s'.links = Function.update s.links i l ∧ s'.host = h ∧ s'.accepted = some i
      ∧ s'.queue.Sublist s.queue := by
    rcases first.ahead with accepted | ⟨accepted, -, queue, waiting⟩
    · simp only [Turns, Lobby.step, Lobby.serverStep, accepted] at step
      obtain ⟨⟨h, l⟩, serves, rfl⟩ := Option.map_eq_some_iff.mp step
      exact ⟨h, l, serves, rfl, rfl, rfl, .refl _⟩
    · simp only [Turns, Lobby.step, Lobby.serverStep, accepted, waiting] at step
      obtain ⟨⟨h, l⟩, serves, rfl⟩ := Option.map_eq_some_iff.mp step
      refine ⟨h, l, serves, rfl, rfl, rfl, ?_⟩
      rw [waiting]
      exact List.sublist_cons_self i queue
  obtain ⟨h, l, serves, links, host, accepted, shorter⟩ := accepts
  have here : s'.links i = l := by rw [links, Function.update_self]
  have apart : ∀ j, j ≠ i → s'.links j = s.links j := fun j other => by
    rw [links, Function.update_of_ne other]
  have connected : ∀ k, (s.links k).connected = true → (s'.links k).connected = true := by
    refine connected_frame apart fun before => ?_
    rw [here, Host.connected_step serves, before]
  have ended : s.host.ended = true → s'.host.ended = true := by
    rw [host]
    exact Host.ended_step serves
  refine ⟨⟨.inl accepted, connected i first.connected, first.nodup.sublist shorter, ?_, ?_⟩,
    starts_server.mpr ⟨h, l, serves, ?_⟩⟩
  · intro k mem
    exact connected k (first.queued k (shorter.subset mem))
  · intro j other
    exact (first.others j other).frame (apart j other) ended connected
  · rw [Lobby.pair, here, host]

/-- The first window takes the steps it would take alone. -/
lemma first_window (first : s.First backlog i) (step : Turns backlog drains f s (.window i) s') :
    s'.First backlog i ∧ Starts drains f (s.pair i) .window (s'.pair i) := by
  have alone : s.host.ended = true → s.accepted = some i := by
    intro ended
    rcases first.ahead with accepted | ⟨-, running, -⟩
    · exact accepted
    · rw [running] at ended
      cases ended
  obtain ⟨l, links, host, accepted, turn⟩ := windowStep_cases step
  rcases turn with ⟨ended, outside, -⟩ | ⟨-, opens, queue⟩ | ⟨not, -⟩ | ⟨not, -⟩
  · exact absurd (alone ended) outside
  · have here : s'.links i = l := by rw [links, Function.update_self]
    have apart : ∀ j, j ≠ i → s'.links j = s.links j := fun j other => by
      rw [links, Function.update_of_ne other]
    have connected : ∀ k, (s.links k).connected = true → (s'.links k).connected = true := by
      refine connected_frame apart fun before => ?_
      rw [here]
      exact Link.connected_step opens before
    refine ⟨⟨?_, connected i first.connected, by rw [queue]; exact first.nodup, ?_, ?_⟩,
      starts_window.mpr ⟨l, opens, ?_⟩⟩
    · rw [accepted, host, queue]
      exact first.ahead
    · rw [queue]
      intro k mem
      exact connected k (first.queued k mem)
    · intro j other
      have ended : s.host.ended = true → s'.host.ended = true := fun ended => by rw [host, ended]
      exact (first.others j other).frame (apart j other) ended connected
    · rw [Lobby.pair, here, host]
      rfl
  · rw [first.connected] at not
    cases not
  · rw [first.connected] at not
    cases not

/-- A step of a window outside: it connects, or writes its header. -/
lemma Lobby.Outside.step (outside : s.Outside backlog j) {ended : Bool} {l : Link}
    (step : (s.links j).step drains ended = some l) :
    l.headerToClient = false ∧ l.connected = true
      ∧ (l.window = .writeHeader ∨ l.window = .readHeader) := by
  obtain ⟨window, header, joined⟩ := outside
  rcases Link.step_cases step with ⟨-, rfl⟩ | ⟨at_, rfl⟩ | ⟨-, read, rfl⟩ | ⟨at_, rfl⟩ | ⟨at_, -⟩
  · exact ⟨header, rfl, .inl rfl⟩
  · refine ⟨header, ?_, .inr rfl⟩
    cases connected : (s.links j).connected with
    | true => rfl
    | false => simpa [at_] using joined connected
  · rw [header] at read
    cases read
  · simp [at_] at window
  · simp [at_] at window

/-- What a turn of a window outside does: it ends the window, or the window goes on. -/
lemma Lobby.Outside.turn (outside : s.Outside backlog j)
    (step : s.windowStep backlog drains j = some s') :
    s'.host = s.host ∧ s'.accepted = s.accepted ∧ (∀ k, k ≠ j → s'.links k = s.links k)
      ∧ (s'.links j).headerToClient = false
      ∧ ((s'.links j).window = .threw .io ∧ (s'.links j).connected = (s.links j).connected
          ∧ s'.queue = s.queue ∧ (s.host.ended = true ∨ backlog ≤ s.queue.length)
        ∨ (s'.links j).connected = true
          ∧ ((s'.links j).window = .writeHeader ∨ (s'.links j).window = .readHeader)
          ∧ (s'.queue = s.queue ∨ (s.links j).connected = false ∧ s'.queue = s.queue ++ [j])) := by
  obtain ⟨l, links, host, accepted, turn⟩ := windowStep_cases step
  have here : s'.links j = l := by rw [links, Function.update_self]
  rw [here]
  refine ⟨host, accepted, fun k apart => by rw [links, Function.update_of_ne apart], ?_⟩
  rcases turn with ⟨ended, -, rfl, queue⟩ | ⟨-, opens, queue⟩ | ⟨was, opens, queue⟩ |
    ⟨-, full, rfl, queue⟩
  · exact ⟨outside.header, .inl ⟨rfl, rfl, queue, .inl ended⟩⟩
  · obtain ⟨header, joins, window⟩ := outside.step opens
    exact ⟨header, .inr ⟨joins, window, .inl queue⟩⟩
  · obtain ⟨header, joins, window⟩ := outside.step opens
    exact ⟨header, .inr ⟨joins, window, .inr ⟨was, queue⟩⟩⟩
  · exact ⟨outside.header, .inl ⟨rfl, rfl, queue, .inr full⟩⟩

/-- The others get nowhere, and change nothing for the first. -/
lemma other_window (first : s.First backlog i) (other : j ≠ i)
    (step : Turns backlog drains f s (.window j) s') :
    s'.First backlog i ∧ s'.pair i = s.pair i := by
  obtain ⟨ahead, connected, nodup, queued, others⟩ := first
  obtain ⟨host, accepted, apart, header, turn⟩ := (others j other).turn step
  have keeps : ∀ k, (s.links k).connected = true → (s'.links k).connected = true := by
    refine connected_frame apart fun before => ?_
    rcases turn with ⟨-, was, -⟩ | ⟨joins, -⟩
    · exact was.trans before
    · exact joins
  have late : ∃ late, s'.queue = s.queue ++ late ∧ s'.queue.Nodup
      ∧ ∀ k ∈ s'.queue, (s'.links k).connected = true := by
    have same : s'.queue = s.queue → ∃ late, s'.queue = s.queue ++ late ∧ s'.queue.Nodup
        ∧ ∀ k ∈ s'.queue, (s'.links k).connected = true := by
      intro queue
      rw [queue]
      exact ⟨[], (List.append_nil _).symm, nodup, fun k mem => keeps k (queued k mem)⟩
    rcases turn with ⟨-, -, queue, -⟩ | ⟨joins, -, queue | ⟨was, queue⟩⟩
    · exact same queue
    · exact same queue
    · refine ⟨[j], queue, ?_, fun k mem => ?_⟩
      · rw [queue, ← List.concat_eq_append]
        refine nodup.concat fun mem => ?_
        rw [queued j mem] at was
        cases was
      · rw [queue] at mem
        rcases List.mem_append.mp mem with before | new
        · exact keeps k (queued k before)
        · rw [List.mem_singleton.mp new]
          exact joins
  have outside : s'.Outside backlog j := by
    rcases turn with ⟨threw, was, queue, why⟩ | ⟨joins, window, -⟩
    · refine ⟨.inr (.inr (.inr ⟨threw, ?_⟩)), header, fun _ => .inr threw⟩
      rw [host]
      refine why.imp_right fun full => ⟨s.queue, nodup, full, ?_⟩
      exact fun k mem => keeps k (queued k mem)
    · refine ⟨window.elim (fun h => .inr (.inl h)) fun h => .inr (.inr (.inl h)), header, ?_⟩
      rw [joins]
      exact fun h => by cases h
  obtain ⟨late, longer, nodup', queued'⟩ := late
  refine ⟨⟨?_, keeps i connected, nodup', queued', fun k away => ?_⟩, ?_⟩
  · rw [accepted, host]
    refine ahead.imp_right ?_
    rintro ⟨waits, running, queue, waiting⟩
    exact ⟨waits, running, queue ++ late, by rw [longer, waiting, List.cons_append]⟩
  · by_cases same : k = j
    · rwa [same]
    · exact (others k away).frame (apart k same) (fun ended => by rw [host, ended]) keeps
  · rw [Lobby.pair, apart i other.symm, host]
    rfl

/-- **One turn** is a step of the first window, or of the server with it, or does not concern
them. -/
lemma first_turn {turn : Turn} (first : s.First backlog i)
    (step : Turns backlog drains f s turn s') :
    s'.First backlog i
      ∧ Reaches (Starts drains f) (s.pair i) (turn.party i).toList (s'.pair i) := by
  cases turn with
  | server =>
      obtain ⟨later, serves⟩ := first_server first step
      exact ⟨later, _, serves, rfl⟩
  | window j =>
      by_cases same : j = i
      · subst same
        obtain ⟨later, opens⟩ := first_window first step
        rw [Turn.party, if_pos rfl]
        exact ⟨later, _, opens, rfl⟩
      · obtain ⟨later, unchanged⟩ := other_window first same step
        rw [Turn.party, if_neg same]
        exact ⟨later, unchanged⟩

/-! ## Runs -/

/-- Nothing happens before a window connects. -/
lemma first_start {server : Server B} {turn : Turn} (holds : 0 < backlog)
    (step : Turns backlog drains f (Lobby.start server) turn s) :
    ∃ i, turn = .window i ∧ s.First backlog i
      ∧ Starts drains f (Startup.start server) .window (s.pair i) := by
  cases turn with
  | server => cases step
  | window i =>
      obtain ⟨l, links, host, accepted, ⟨ended, -⟩ | ⟨joined, -⟩ | ⟨-, opens, queue⟩ |
        ⟨-, full, -⟩⟩ := windowStep_cases step
      · cases ended
      · cases joined
      · obtain rfl := Option.some.inj opens
        have here : s.links i = { Link.start with connected := true, window := .writeHeader } := by
          rw [links, Function.update_self]
          rfl
        refine ⟨i, rfl, ⟨.inr ⟨accepted, by rw [host]; rfl, [], queue⟩, ?_, ?_, ?_, ?_⟩, ?_⟩
        · rw [here]
        · rw [queue]
          exact List.nodup_singleton i
        · rw [queue]
          intro k mem
          rw [List.mem_singleton.mp mem, here]
        · intro j other
          have away : s.links j = .start := by
            rw [links, Function.update_of_ne other]
            rfl
          exact ⟨by rw [away]; exact .inl rfl, by rw [away]; rfl, fun _ => by
            rw [away]
            exact .inl rfl⟩
        · rw [Lobby.pair, here, host]
          rfl
      · exact absurd full (not_le.mpr holds)

lemma first_turns {turns : List Turn} (first : s.First backlog i)
    (run : Reaches (Turns backlog drains f) s turns s') :
    s'.First backlog i
      ∧ Reaches (Starts drains f) (s.pair i) (turns.filterMap (Turn.party i)) (s'.pair i) := by
  induction turns generalizing s with
  | nil =>
      obtain rfl := run
      exact ⟨first, rfl⟩
  | cons turn turns ih =>
      obtain ⟨mid, one, later⟩ := run
      obtain ⟨between, step⟩ := first_turn first one
      obtain ⟨last, steps⟩ := ih between later
      refine ⟨last, ?_⟩
      have split : (turn :: turns).filterMap (Turn.party i)
          = (turn.party i).toList ++ turns.filterMap (Turn.party i) := by
        cases party : turn.party i <;> simp [party]
      rw [split, reaches_append]
      exact ⟨_, step, steps⟩

/-- **The first window and the server are alone.**  In every run with any number of windows the one
that takes the first turn and the server take together the steps of a start without the others, and
of the others none ever opens: it waits for the header of the server, or its socket has been refused
or reset, which takes that the server process has ended or that as many windows have connected as
the queue holds. -/
theorem first_window_alone {server : Server B} {turns : List Turn} (holds : 0 < backlog)
    (run : Reaches (Turns backlog drains f) (Lobby.start server) turns s) (begun : turns ≠ []) :
    ∃ i, turns.head? = some (.window i)
      ∧ Reaches (Starts drains f) (Startup.start server) (turns.filterMap (Turn.party i)) (s.pair i)
      ∧ ∀ j, j ≠ i → (s.links j).window = .connect ∨ (s.links j).window = .writeHeader
        ∨ (s.links j).window = .readHeader
        ∨ (s.links j).window = .threw .io ∧ (s.host.ended = true ∨ s.Crowded backlog) := by
  cases turns with
  | nil => exact absurd rfl begun
  | cons turn turns =>
      obtain ⟨mid, one, later⟩ := run
      obtain ⟨i, rfl, first, opens⟩ := first_start holds one
      obtain ⟨last, steps⟩ := first_turns first later
      refine ⟨i, rfl, ?_, fun j other => (last.others j other).window⟩
      rw [List.filterMap_cons, Turn.party, if_pos rfl]
      exact ⟨_, opens, steps⟩

/-- Three windows and a queue of one: the second one connects while the first is being served, and
the third is refused. -/
theorem first_window_alone_three :
    ∃ s : Lobby (MariaDb.simple .infoMessage).backend,
      Reaches (Turns 1 true Faults.none) (Lobby.start Server.initial)
        [.window 7, .server, .window 3, .window 5, .server] s
      ∧ Reaches (Starts true Faults.none) (Startup.start Server.initial) [.window, .server, .server]
        (s.pair 7)
      ∧ (s.links 5).window = .threw .io := by
  obtain ⟨s, run, refused⟩ : ∃ s : Lobby (MariaDb.simple .infoMessage).backend,
      Reaches (Turns 1 true Faults.none) (Lobby.start Server.initial)
        [.window 7, .server, .window 3, .window 5, .server] s ∧ (s.links 5).window = .threw .io :=
    ⟨_, ⟨_, rfl, _, rfl, _, rfl, _, rfl, _, rfl, rfl⟩, rfl⟩
  obtain ⟨i, first, alone, -⟩ := first_window_alone Nat.one_pos run (by simp)
  obtain rfl : i = 7 := by simpa using first.symm
  exact ⟨s, run, alone, refused⟩

end Billboard
