import Billboard.Server.Atomicity
import Billboard.Server.Interleaving

/-!
# Failures at any moment

Client and server run as before, but now any database call may fail while a request is served.  A
failure ends `main` in the middle of a request, and nothing is undone.

**`crash_consistent`**: whatever the interleaving and whichever calls fail, the statements executed
are at every moment a beginning of those of the requests sent, in order.  Either the server is in
its loop, and they are exactly the statements of the requests it has completed; or it has ended in
the request after these, and the database is as the executed statements left it, except for what the
failing one left behind.  The `catch` of the loop never hides a failed request.
-/

namespace Billboard

open Java Runs

variable {B : Backend} {requests : List Request} {server : Server B} {sys : System B}

/-- What has been executed is a beginning of what was asked for. -/
lemma executed_of_cases (h : Running requests server sys ∨ Crashed requests server sys.main) :
    ∃ texts, sys.main.server.executed = server.executed ++ texts
      ∧ texts <+: requests.flatMap sqlTexts := by
  rcases h with ⟨⟨left, split, -⟩, progress⟩ |
    ⟨r, left, t, performed, rest, m, split, -, -, cut, progress, abandoned⟩
  · refine ⟨_, progress.executed, left.flatMap sqlTexts, ?_⟩
    rw [split, List.flatMap_append]
  · refine ⟨_, abandoned.executed.trans progress.executed, rest ++ left.flatMap sqlTexts, ?_⟩
    rw [split, List.flatMap_append, List.flatMap_cons, cut]
    simp only [List.append_assoc]

/-- **Every state of every faulty run** is one of a running server or of one that crashed in the
request after those served, and what has been executed is a beginning of what was asked for. -/
theorem crash_consistent {moves : List (Move × Faults)}
    (run : Reaches MovesWith (System.start requests server) moves sys) :
    (Running requests server sys ∨ Crashed requests server sys.main)
      ∧ ∃ texts, sys.main.server.executed = server.executed ++ texts
        ∧ texts <+: requests.flatMap sqlTexts := by
  have cases : Running requests server sys ∨ Crashed requests server sys.main := by
    refine reaches_invariant
      (P := fun sys => Running requests server sys ∨ Crashed requests server sys.main)
      ?_ (.inl running_start) run
    rintro sys move sys' (running | crashed) step
    · exact running_step running step
    · obtain ⟨r, left, t, performed, rest, m, split, ended, crashed⟩ := crashed
      rw [main_of_ended ended step]
      exact .inr ⟨r, left, t, performed, rest, m, split, ended, crashed⟩
  exact ⟨cases, executed_of_cases cases⟩

/-- The second `INSERT` of a billboard fails while the client has already written the next
request. -/
theorem crash_consistent_secondInsert :
    let requests := [Request.addBillboard someBillboard, .delete ⟨1⟩]
    let server : Server (MariaDb.simple .infoMessage).backend := .initial
    ∃ sys, Reaches MovesWith (System.start requests server)
        [(.write, .none), (.read, .none), (.write, .none), (.write, .none), (.read, secondFails),
          (.write, .none), (.read, .none)] sys
      ∧ sys.main.position = .ended .sql
      ∧ Crashed requests server sys.main := by
  intro requests server
  let moves : List (Move × Faults) :=
    [(.write, .none), (.read, .none), (.write, .none), (.write, .none), (.read, secondFails),
      (.write, .none), (.read, .none)]
  let sys? := moves.foldlM System.stepWith (System.start requests server)
  have position : sys?.map (·.main.position) = some (.ended .sql) := by decide +kernel
  obtain ⟨sys, run, position⟩ := Option.map_eq_some_iff.mp position
  have reach := (reaches_foldlM System.stepWith _ sys _).mpr run
  refine ⟨sys, reach, position, (crash_consistent reach).1.resolve_left fun running => ?_⟩
  obtain ⟨left, -, consumed, stands, -⟩ := running.ahead
  exact stands.running _ position

end Billboard
