import Billboard.Library.Runs
import Billboard.Server.Iteration

/-!
# Which failures end the server

A request can fail at several places: there may be no connection, creating the statement, executing
one of the texts or reading the result set may throw.  `main` declares the exceptions of all of
these and catches none of them.

**`loop_continues_iff`**: the loop stands at the tag of the next request after every iteration of a
run exactly when no database operation of the requests served fails.  The first one that fails ends
`main`, and what follows on the stream is never read.
-/

namespace Billboard

open Java Runs

variable {B : Backend}

/-! ## Database operations -/

/-- There is a connection, or one can be had, and a statement is created. -/
def Connects (f : Faults) (s : Server B) : Prop :=
  (s.connected = true ∨ f.connect = false) ∧ f.createStatement = false

/-- The `k`-th text of a request is executed. -/
def Performs (f : Faults) (k : ℕ) (sql : Text) (store store' : B.Store) (rows : List ResultRow) :
    Prop :=
  f.statement k = none ∧ B.execute sql store = some (store', rows)

/-- The operations of a request with a single text and no reply. -/
def StatementSucceeds (f : Faults) (s : Server B) (sql : Text) : Prop :=
  Connects f s ∧ ∃ store rows, Performs f 0 sql s.store store rows

/-- Every database operation that serving the request performs succeeds. -/
def DatabaseSucceeds (f : Faults) (s : Server B) : Request → Prop
  | .addBillboard o2 => Connects f s ∧ ∃ store rows,
      Performs f 0 (insertBillboardSql o2.getVal) s.store store rows
        ∧ ∃ store' rows', Performs f 1 (insertViewSql o2.getVal) store store' rows'
  | .addView o3 => StatementSucceeds f s (updateScheduleSql o3.getVal)
  | .showTable => Connects f s ∧ ∃ store rows,
      Performs f 0 selectViewSql s.store store rows ∧ ∀ c ∈ readCalls rows, f.resultSet c = false
  | .delete deleteData => StatementSucceeds f s (deleteSql deleteData.getVal)
  | .editTable editData => StatementSucceeds f s (updateBillboardSql editData.getVal)

/-- The exceptions of a database operation that fails. -/
def FromDatabase (t : Throwable) : Prop :=
  t = .sql ∨ t = .nullPointer

lemma performs_unique {f : Faults} {k : ℕ} {sql : Text} {store store₁ store₂ : B.Store}
    {rows₁ rows₂ : List ResultRow} (h₁ : Performs f k sql store store₁ rows₁)
    (h₂ : Performs f k sql store store₂ rows₂) : store₁ = store₂ ∧ rows₁ = rows₂ :=
  Prod.mk.inj (Option.some.inj (h₁.2.symm.trans h₂.2))

lemma run_createStatement_cases (f : Faults) (s : Server B) :
    Connects f s ∧ (createStatement f).run s = .ok () s.connecting
      ∨ ¬ Connects f s ∧ ∃ t s', FromDatabase t ∧ (createStatement f).run s = .error t s' := by
  obtain ⟨store, connected, executed, replies⟩ := s
  cases creates : f.createStatement with
  | true =>
      refine .inr ⟨fun h => ?_, ?_⟩
      · rw [Connects, creates] at h
        cases h.2
      · cases connected <;> cases connects : f.connect <;>
          simp [createStatement, creates, connects, FromDatabase]
  | false =>
      cases connected <;> cases connects : f.connect <;>
        simp [createStatement, creates, connects, Connects, Server.connecting,
          FromDatabase]

lemma run_executeQuery_cases (f : Faults) (k : ℕ) (sql : Text) (s : Server B) :
    (∃ store rows, Performs f k sql s.store store rows
        ∧ (executeQuery f k sql).run s = .ok rows (s.performing sql store))
      ∨ (∀ store rows, ¬ Performs f k sql s.store store rows)
        ∧ ∃ s', (executeQuery f k sql).run s = .error .sql s' := by
  cases fault : f.statement k with
  | some ids =>
      refine .inr ⟨fun store rows h => ?_, _, run_executeQuery_fail fault⟩
      rw [h.1] at fault
      cases fault
  | none =>
      cases effect : B.execute sql s.store with
      | none =>
          refine .inr ⟨fun store rows h => ?_, _, run_executeQuery_reject fault effect⟩
          rw [h.2] at effect
          cases effect
      | some out =>
          exact .inl ⟨out.1, out.2, ⟨fault, effect⟩, run_executeQuery_ok fault effect⟩

/-! ## Serving a request -/

/-- A request is completed and its database operations succeed, or it is not and one of them
fails. -/
def Outcome (f : Faults) (r : Request) (s : Server B) : Prop :=
  DatabaseSucceeds f s r ∧ (∃ s', (serve f r).run s = .ok () s')
    ∨ ¬ DatabaseSucceeds f s r
      ∧ ∃ t s', FromDatabase t ∧ (serve f r).run s = .error t s'

lemma run_serveStatement_cases (f : Faults) (sql : Text) (s : Server B) :
    StatementSucceeds f s sql ∧ (∃ s', (serveStatement f sql).run s = .ok () s')
      ∨ ¬ StatementSucceeds f s sql
        ∧ ∃ t s', FromDatabase t ∧ (serveStatement f sql).run s = .error t s' := by
  rw [serveStatement]
  rcases run_createStatement_cases f s with ⟨connects, run⟩ | ⟨fails, t, s', kind, run⟩
  · rw [Act.run_bind_of_ok run]
    rcases run_executeQuery_cases f 0 sql s.connecting
      with ⟨store, rows, performs, run⟩ | ⟨fails, s', run⟩
    · rw [Act.run_bind_of_ok run]
      exact .inl ⟨⟨connects, store, rows, performs⟩, _, rfl⟩
    · rw [Act.run_bind_of_error run]
      exact .inr ⟨fun h => h.2.elim fun store h => h.elim fun rows h => fails store rows h,
        .sql, s', .inl rfl, rfl⟩
  · rw [Act.run_bind_of_error run]
    exact .inr ⟨fun h => fails h.1, t, s', kind, rfl⟩

lemma outcome_addBillboard (f : Faults) (a : Add) (s : Server B) :
    Outcome f (.addBillboard a) s := by
  rw [Outcome, serve, serveAddBillboard]
  rcases run_createStatement_cases f s with ⟨connects, run⟩ | ⟨fails, t, s', kind, run⟩
  · rw [Act.run_bind_of_ok run]
    rcases run_executeQuery_cases f 0 (insertBillboardSql a.getVal) s.connecting
      with ⟨store, rows, first, run⟩ | ⟨fails, s', run⟩
    · rw [Act.run_bind_of_ok run]
      rcases run_executeQuery_cases f 1 (insertViewSql a.getVal)
          (s.connecting.performing (insertBillboardSql a.getVal) store)
        with ⟨store', rows', second, run⟩ | ⟨fails, s', run⟩
      · rw [Act.run_bind_of_ok run]
        exact .inl ⟨⟨connects, store, rows, first, store', rows', second⟩, _, rfl⟩
      · rw [Act.run_bind_of_error run]
        refine .inr ⟨?_, .sql, s', .inl rfl, rfl⟩
        rintro ⟨-, store₁, rows₁, first₁, store₂, rows₂, second⟩
        obtain ⟨rfl, -⟩ := performs_unique first first₁
        exact fails store₂ rows₂ second
    · rw [Act.run_bind_of_error run]
      refine .inr ⟨?_, .sql, s', .inl rfl, rfl⟩
      rintro ⟨-, store, rows, first, -⟩
      exact fails store rows first
  · rw [Act.run_bind_of_error run]
    exact .inr ⟨fun h => fails h.1, t, s', kind, rfl⟩

lemma outcome_showTable (f : Faults) (s : Server B) : Outcome f .showTable s := by
  rw [Outcome, serve, serveShowTable]
  rcases run_createStatement_cases f s with ⟨connects, run⟩ | ⟨fails, t, s', kind, run⟩
  · rw [Act.run_bind_of_ok run]
    rcases run_executeQuery_cases f 0 selectViewSql s.connecting
      with ⟨store, rows, query, run⟩ | ⟨fails, s', run⟩
    · rw [Act.run_bind_of_ok run]
      by_cases reads : ∀ c ∈ readCalls rows, f.resultSet c = false
      · rw [Act.run_bind_of_ok (run_readTable reads _)]
        exact .inl ⟨⟨connects, store, rows, query, reads⟩, _, rfl⟩
      · obtain ⟨c, called, failing⟩ : ∃ c ∈ readCalls rows, f.resultSet c = true := by
          simpa using reads
        rw [Act.run_bind_of_error (run_readTable_fails called failing _)]
        refine .inr ⟨?_, .sql, _, .inl rfl, rfl⟩
        rintro ⟨-, store₁, rows₁, query₁, reads₁⟩
        obtain ⟨-, rfl⟩ := performs_unique query query₁
        exact reads reads₁
    · rw [Act.run_bind_of_error run]
      refine .inr ⟨?_, .sql, s', .inl rfl, rfl⟩
      rintro ⟨-, store, rows, query, -⟩
      exact fails store rows query
  · rw [Act.run_bind_of_error run]
    exact .inr ⟨fun h => fails h.1, t, s', kind, rfl⟩

/-- **A request is completed exactly if its database operations succeed.** -/
theorem outcome (f : Faults) (r : Request) (s : Server B) : Outcome f r s := by
  cases r with
  | addBillboard a => exact outcome_addBillboard f a s
  | addView a => exact run_serveStatement_cases f (updateScheduleSql a.getVal) s
  | showTable => exact outcome_showTable f s
  | delete d => exact run_serveStatement_cases f (deleteSql d.getVal) s
  | editTable e => exact run_serveStatement_cases f (updateBillboardSql e.getVal) s

/-! ## Iterations -/

/-- One iteration of the loop in which these calls fail. -/
def Iterates (p : Main B × List Item) (f : Faults) (p' : Main B × List Item) : Prop :=
  p' = p.1.iteration f p.2

/-- The loop is about to read the tag of the next request: those before it have been served, and
exactly the items of the others are left. -/
def AtNextTag (requests : List Request) (p : Main B × List Item) : Prop :=
  p.1.position = .readTag
    ∧ ∃ rest, requests = p.1.served ++ rest ∧ p.2 = rest.flatMap Request.items

/-- The database operations of the request that is next on the stream, if there is one, succeed. -/
def NextSucceeds (p : Main B × List Item) (f : Faults) : Prop :=
  ∀ r rest, p.2 = r.items ++ rest → DatabaseSucceeds f p.1.server r

/-- An iteration at the tag of a request serves this request. -/
lemma iteration_items (f : Faults) {main : Main B} (position : main.position = .readTag)
    (r : Request) (rest : List Item) :
    main.iteration f (r.items ++ rest) = (main.serve f r, rest) := by
  rcases request_shape r with rfl | ⟨c, p, shape, cast⟩
  · exact iteration_of_read (read_showTable f rest position) (serve_position f main .showTable)
  · rw [shape]
    have payload : ({ main with position := .readPayload c } : Main B).read f (.object p :: rest)
        = (main.serve f r, rest) := read_payload f rest rfl cast
    exact (iteration_of_tag (read_tag f c (.object p :: rest) position) rfl).trans payload

/-- At the end of the stream an iteration changes nothing. -/
lemma iteration_nil (f : Faults) {main : Main B} (position : main.position = .readTag) :
    main.iteration f [] = (main, []) := by
  have here : { main with position := .readTag } = main := by rw [← position]
  have running : ∀ t, main.position ≠ .ended t := by
    rw [position]
    exact fun t => Position.noConfusion
  have read := read_end f running
  rw [here] at read
  exact iteration_of_read read (by rw [position]; exact fun c => Position.noConfusion)

lemma nextSucceeds_items (main : Main B) (r : Request) (rest : List Item) (f : Faults) :
    NextSucceeds (main, r.items ++ rest) f ↔ DatabaseSucceeds f main.server r := by
  constructor
  · intro h
    exact h r rest rfl
  · intro h r' rest' split
    obtain ⟨rfl, -⟩ := items_append_inj split
    exact h

lemma nextSucceeds_nil (main : Main B) (f : Faults) : NextSucceeds (main, []) f := by
  intro r rest split
  cases (List.append_eq_nil_iff.mp split.symm).1

/-- **One iteration** takes the loop to the next tag exactly if no database operation fails, and
otherwise out of the loop. -/
lemma iterates_cases {requests : List Request} {p p' : Main B × List Item} {f : Faults}
    (here : AtNextTag requests p) (step : Iterates p f p') :
    NextSucceeds p f ∧ AtNextTag requests p'
      ∨ ¬ NextSucceeds p f ∧ ∃ t, FromDatabase t ∧ p'.1.position = .ended t := by
  obtain ⟨main, stream⟩ := p
  obtain ⟨position, rest, sent, left⟩ := here
  have left : stream = rest.flatMap Request.items := left
  subst left step
  cases rest with
  | nil =>
      refine .inl ⟨nextSucceeds_nil main f, ?_⟩
      rw [List.flatMap_nil, iteration_nil f position]
      exact ⟨position, [], sent, rfl⟩
  | cons r rest =>
      rw [List.flatMap_cons, iteration_items f position, nextSucceeds_items]
      rcases outcome f r main.server with ⟨succeeds, s', run⟩ | ⟨fails, t, s', kind, run⟩
      · refine .inl ⟨succeeds, ?_, rest, ?_, rfl⟩
        · simp only [Main.serve, run]
        · simpa [Main.serve, run] using sent
      · refine .inr ⟨fails, t, kind, ?_⟩
        rcases kind with rfl | rfl
        · simp only [Main.serve, run, Position.caught]
        · simp only [Main.serve, run, Position.caught]

lemma not_atNextTag_of_ended {requests : List Request} {p : Main B × List Item} {t : Throwable}
    (ended : p.1.position = .ended t) : ¬ AtNextTag requests p := by
  rintro ⟨position, -⟩
  rw [ended] at position
  cases position

/-- Once the loop has ended nothing is read. -/
lemma reaches_of_ended {p p' : Main B × List Item} {t : Throwable} {faults : List Faults}
    (ended : p.1.position = .ended t) (run : Reaches Iterates p faults p') : p' = p := by
  refine reaches_invariant (P := fun q => q = p) ?_ rfl run
  rintro q f q' rfl step
  exact step.trans (iteration_ended f ended q.2)

/-- **The loop goes on to the tag of the next request, in every state of a run, if and only if no
database operation of a request it serves fails.**  The first one that fails ends `main`, and
nothing is read any more. -/
theorem loop_continues_iff (server : Server B) (requests : List Request) (faults : List Faults) :
    let start : Main B × List Item := (⟨server, .readTag, []⟩, requests.flatMap Request.items)
    (Always Iterates (AtNextTag requests) start faults
        ↔ EveryStep Iterates NextSucceeds start faults)
      ∧ ∀ pre f post p p' q, faults = pre ++ f :: post → Reaches Iterates start pre p →
          Iterates p f p' → Reaches Iterates p' post q →
          EveryStep Iterates NextSucceeds start pre → ¬ NextSucceeds p f →
          (p'.1.position = .ended .sql ∨ p'.1.position = .ended .nullPointer) ∧ q = p' := by
  intro start
  have first : AtNextTag requests start := ⟨rfl, requests, rfl, rfl⟩
  have exact_step : ∀ (p : Main B × List Item) f p', True → AtNextTag requests p → Iterates p f p' →
      (AtNextTag requests p' ↔ NextSucceeds p f) := by
    intro p f p' _ here step
    rcases iterates_cases here step with ⟨succeeds, next⟩ | ⟨fails, t, -, ended⟩
    · exact iff_of_true next succeeds
    · exact iff_of_false (not_atNextTag_of_ended ended) fails
  have continues : ∀ fs, Always Iterates (AtNextTag requests) start fs
      ↔ EveryStep Iterates NextSucceeds start fs := fun fs =>
    always_iff_everyStep (I := fun _ => True) exact_step (fun _ _ _ _ _ _ _ => trivial) trivial
      first
  refine ⟨continues faults, ?_⟩
  intro pre f post p p' q _ reach step later steps fails
  have here : AtNextTag requests p :=
    (continues pre).mpr steps pre [] p (List.append_nil pre).symm reach
  rcases iterates_cases here step with ⟨succeeds, -⟩ | ⟨-, t, kind, ended⟩
  · exact absurd succeeds fails
  · refine ⟨?_, reaches_of_ended ended later⟩
    rcases kind with rfl | rfl
    · exact .inl ended
    · exact .inr ended

/-- The statement of the first request cannot be created: `main` ends by the `SQLException`, and
the second request is left on the stream, neither read nor served. -/
theorem failed_statement_ends_main :
    let server : Server (MariaDb.simple .infoMessage).backend := .initial
    let requests := [Request.delete ⟨1⟩, Request.showTable]
    let start : Main (MariaDb.simple .infoMessage).backend × List Item :=
      (⟨server, .readTag, []⟩, requests.flatMap Request.items)
    let faults := [{ Faults.none with createStatement := true }, Faults.none]
    ¬ Always Iterates (AtNextTag requests) start faults
      ∧ ∃ p, Reaches Iterates start faults p ∧ p.1.position = .ended .sql ∧ p.1.served = []
        ∧ p.2 = Request.showTable.items := by
  intro server requests start faults
  let failed := start.1.iteration { Faults.none with createStatement := true } start.2
  have first : Reaches Iterates start [{ Faults.none with createStatement := true }] failed :=
    ⟨_, rfl, rfl⟩
  have ended : failed.1.position = .ended .sql := by decide +kernel
  refine ⟨fun always => ?_, failed, ?_, ended, by decide +kernel, by decide +kernel⟩
  · exact not_atNextTag_of_ended ended (always _ [Faults.none] _ rfl first)
  · exact ⟨failed, rfl, _, rfl, (iteration_ended Faults.none ended failed.2).symm⟩

end Billboard
