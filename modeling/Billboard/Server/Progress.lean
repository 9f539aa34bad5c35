import Billboard.Library.Runs
import Billboard.Server.Availability

/-!
# How far a request has come

Whichever database calls fail, serving a request executes its statements in order and stops at the
first exception.  `Progress` says how far it has come: the texts that have taken effect, what they
did to the database, and the replies written.

* `progress_of_ok` — a completed request has executed all of its statements.
* `progress_of_error` — one that failed has executed some of them, and was given up in the next.
* `serve_cases` — so the loop completes a request, or `main` ends in it.
-/

namespace Billboard

open Java Runs

variable {B : Backend}

/-! ## Serving under any faults -/

/-- The texts take effect one after the other. -/
def Executes (texts : List Text) (store store' : B.Store) : Prop :=
  Reaches (fun store text store' => ∃ rows, B.execute text store = some (store', rows))
    store texts store'

/-- From `s` to `s'` the server has executed the texts and written so many replies. -/
structure Progress (texts : List Text) (answers : ℕ) (s s' : Server B) : Prop where
  executed : s'.executed = s.executed ++ texts
  store : Executes texts s.store s'.store
  replies : s'.replies.length = s.replies.length + answers

namespace Progress

variable {s s' s'' : Server B} {texts texts' : List Text} {answers answers' : ℕ}

lemma refl (s : Server B) : Progress [] 0 s s where
  executed := (List.append_nil _).symm
  store := rfl
  replies := rfl

lemma trans (h : Progress texts answers s s') (h' : Progress texts' answers' s' s'') :
    Progress (texts ++ texts') (answers + answers') s s'' where
  executed := by rw [h'.executed, h.executed, List.append_assoc]
  store := (reaches_append _ _ _ _ _).mpr ⟨s'.store, h.store, h'.store⟩
  replies := by rw [h'.replies, h.replies, Nat.add_assoc]

end Progress

/-- What a log entry or a reply would change. -/
def Server.done (s : Server B) : B.Store × List Text × List DataArray :=
  (s.store, s.executed, s.replies)

lemma Progress.of_done {s s' : Server B} (same : s'.done = s.done) : Progress [] 0 s s' := by
  obtain ⟨store, rest⟩ := Prod.mk.inj same
  obtain ⟨executed, replies⟩ := Prod.mk.inj rest
  exact ⟨by rw [executed, List.append_nil], store, by rw [replies, Nat.add_zero]⟩

/-- Connecting executes nothing. -/
lemma done_createStatement (f : Faults) : Act.Keeps Server.done (createStatement (B := B) f) := by
  rintro ⟨store, connected, executed, replies⟩
  cases connected <;> cases h : f.connect <;> cases h' : f.createStatement <;>
    simp [createStatement, Act.after, h, h', Server.done]

lemma progress_createStatement {f : Faults} {u : Unit} {s s' : Server B}
    (h : (createStatement f).run s = .ok u s') : Progress [] 0 s s' :=
  .of_done (by rw [← Act.after_eq_of_ok h, done_createStatement])

/-- A text that is executed is logged. -/
lemma progress_executeQuery {f : Faults} {k : ℕ} {sql : Text} {rows : List ResultRow}
    {s s' : Server B} (h : (executeQuery f k sql).run s = .ok rows s') : Progress [sql] 0 s s' := by
  rcases run_executeQuery_cases f k sql s with ⟨store, rows', performs, run⟩ | ⟨-, m, run⟩
  · rw [run] at h
    obtain ⟨rfl, rfl⟩ := EStateM.Result.ok.inj h
    exact ⟨rfl, ⟨store, ⟨rows', performs.2⟩, rfl⟩, rfl⟩
  · rw [run] at h
    exact absurd h (by simp)

/-- The request was given up between two statements, or in one that failed. -/
def GivenUp (rest : List Text) (store store' : B.Store) : Prop :=
  store' = store ∨ ∃ sql tl ids, rest = sql :: tl ∧ store' = B.fail sql ids store

/-- The request was given up with these texts left, the first of which may have failed. -/
structure Abandoned (rest : List Text) (s s' : Server B) : Prop where
  store : GivenUp rest s.store s'.store
  executed : s'.executed = s.executed
  replies : s'.replies = s.replies

lemma Abandoned.of_done {s s' : Server B} (same : s'.done = s.done) (rest : List Text) :
    Abandoned rest s s' := by
  obtain ⟨store, logs⟩ := Prod.mk.inj same
  obtain ⟨executed, replies⟩ := Prod.mk.inj logs
  exact ⟨.inl store, executed, replies⟩

lemma abandoned_createStatement {f : Faults} {t : Throwable} {s s' : Server B}
    (h : (createStatement f).run s = .error t s') (rest : List Text) : Abandoned rest s s' :=
  .of_done (by rw [← Act.after_eq_of_error h, done_createStatement]) rest

/-- A text that fails is not logged. -/
lemma abandoned_executeQuery {f : Faults} {k : ℕ} {sql : Text} {t : Throwable} {s s' : Server B}
    (h : (executeQuery f k sql).run s = .error t s') (rest : List Text) :
    Abandoned (sql :: rest) s s' := by
  cases fault : f.statement k with
  | some ids =>
      rw [run_executeQuery_fail fault] at h
      obtain ⟨-, rfl⟩ := EStateM.Result.error.inj h
      exact ⟨.inr ⟨sql, rest, ids, rfl, rfl⟩, rfl, rfl⟩
  | none =>
      cases effect : B.execute sql s.store with
      | none =>
          rw [run_executeQuery_reject fault effect] at h
          obtain ⟨-, rfl⟩ := EStateM.Result.error.inj h
          exact ⟨.inl rfl, rfl, rfl⟩
      | some out =>
          rw [run_executeQuery_ok fault (show _ = some (out.1, out.2) from effect)] at h
          exact absurd h (by simp)

/-! ## Requests -/

lemma progress_serveStatement {f : Faults} {sql : Text} {s s' : Server B}
    (h : (serveStatement f sql).run s = .ok () s') : Progress [sql] 0 s s' := by
  rw [serveStatement, Act.run_bind_eq_ok] at h
  obtain ⟨u, m, create, h⟩ := h
  rw [Act.run_bind_eq_ok] at h
  obtain ⟨rows, m', query, done⟩ := h
  obtain ⟨-, rfl⟩ := EStateM.Result.ok.inj done
  exact (progress_createStatement create).trans (progress_executeQuery query)

lemma abandoned_serveStatement {f : Faults} {sql : Text} {t : Throwable} {s s' : Server B}
    (h : (serveStatement f sql).run s = .error t s') :
    ∃ m, Progress [] 0 s m ∧ Abandoned [sql] m s' := by
  rw [serveStatement, Act.run_bind_eq_error] at h
  rcases h with create | ⟨u, m, create, h⟩
  · exact ⟨s, .refl s, abandoned_createStatement create [sql]⟩
  · rw [Act.run_bind_eq_error] at h
    rcases h with query | ⟨rows, m', -, done⟩
    · exact ⟨m, progress_createStatement create, abandoned_executeQuery query []⟩
    · exact absurd done (by simp)

/-- **A completed request** has executed its statements, and has been answered if it asks for an
answer. -/
theorem progress_of_ok {f : Faults} {r : Request} {s s' : Server B}
    (h : (serve f r).run s = .ok () s') : Progress (sqlTexts r) r.answers s s' := by
  cases r with
  | addBillboard a =>
      rw [serve, serveAddBillboard, Act.run_bind_eq_ok] at h
      obtain ⟨u, m, create, h⟩ := h
      rw [Act.run_bind_eq_ok] at h
      obtain ⟨rows, m', first, h⟩ := h
      rw [Act.run_bind_eq_ok] at h
      obtain ⟨rows', m'', second, done⟩ := h
      obtain ⟨-, rfl⟩ := EStateM.Result.ok.inj done
      exact ((progress_createStatement create).trans (progress_executeQuery first)).trans
        (progress_executeQuery second)
  | addView a => exact progress_serveStatement h
  | showTable =>
      rw [serve, serveShowTable, Act.run_bind_eq_ok] at h
      obtain ⟨u, m, create, h⟩ := h
      rw [Act.run_bind_eq_ok] at h
      obtain ⟨rows, m', query, h⟩ := h
      rw [Act.run_bind_eq_ok] at h
      obtain ⟨data, m'', read, written⟩ := h
      have kept : m'' = m' := by
        rw [← Act.after_eq_of_ok read]
        exact keeps_readTable _ _ m'
      subst kept
      obtain ⟨-, rfl⟩ := EStateM.Result.ok.inj written
      have before := (progress_createStatement create).trans (progress_executeQuery query)
      exact ⟨before.executed, before.store, by simpa [Request.answers] using before.replies⟩
  | delete d => exact progress_serveStatement h
  | editTable e => exact progress_serveStatement h

/-- **A request that failed** has executed some of its statements, was given up before or in the
next one, and has not been answered.  Only `showTable` can fail after its statements, while it reads
the result. -/
theorem progress_of_error {f : Faults} {r : Request} {t : Throwable} {s s' : Server B}
    (h : (serve f r).run s = .error t s') :
    ∃ performed rest m, sqlTexts r = performed ++ rest ∧ Progress performed 0 s m
      ∧ Abandoned rest m s' ∧ (rest = [] → r = .showTable) := by
  have one : ∀ sql, sqlTexts r = [sql] → (serveStatement f sql).run s = .error t s' →
      ∃ performed rest m, sqlTexts r = performed ++ rest ∧ Progress performed 0 s m
        ∧ Abandoned rest m s' ∧ (rest = [] → r = .showTable) := by
    intro sql texts failed
    obtain ⟨m, progress, abandoned⟩ := abandoned_serveStatement failed
    exact ⟨[], [sql], m, texts, progress, abandoned, by simp⟩
  cases r with
  | addBillboard a =>
      rw [serve, serveAddBillboard, Act.run_bind_eq_error] at h
      rcases h with create | ⟨u, m, create, h⟩
      · exact ⟨[], _, s, rfl, .refl s, abandoned_createStatement create _, by simp⟩
      rw [Act.run_bind_eq_error] at h
      rcases h with first | ⟨rows, m', first, h⟩
      · exact ⟨[], _, m, rfl, progress_createStatement create, abandoned_executeQuery first _,
          by simp⟩
      rw [Act.run_bind_eq_error] at h
      rcases h with second | ⟨rows', m'', -, done⟩
      · exact ⟨[insertBillboardSql a.getVal], _, m', rfl,
          (progress_createStatement create).trans (progress_executeQuery first),
          abandoned_executeQuery second [], by simp⟩
      · exact absurd done (by simp)
  | addView a => exact one (updateScheduleSql a.getVal) rfl h
  | showTable =>
      rw [serve, serveShowTable, Act.run_bind_eq_error] at h
      rcases h with create | ⟨u, m, create, h⟩
      · exact ⟨[], _, s, rfl, .refl s, abandoned_createStatement create _, by simp⟩
      rw [Act.run_bind_eq_error] at h
      rcases h with query | ⟨rows, m', query, h⟩
      · exact ⟨[], _, m, rfl, progress_createStatement create, abandoned_executeQuery query [],
          by simp⟩
      rw [Act.run_bind_eq_error] at h
      rcases h with read | ⟨data, m'', -, written⟩
      · refine ⟨[selectViewSql], [], m', rfl,
          (progress_createStatement create).trans (progress_executeQuery query), .of_done ?_ [],
          fun _ => rfl⟩
        rw [← Act.after_eq_of_error read]
        exact congrArg Server.done (keeps_readTable _ _ m')
      · exact absurd written (by simp [reply])
  | delete d => exact one (deleteSql d.getVal) rfl h
  | editTable e => exact one (updateBillboardSql e.getVal) rfl h

/-! ## The loop -/

/-- The loop completes a request and goes back to reading a tag, or the request fails and `main`
ends. -/
theorem serve_cases (f : Faults) (main : Main B) (r : Request) :
    (∃ s', (serve f r).run main.server = .ok () s'
        ∧ main.serve f r = ⟨s', .readTag, main.served ++ [r]⟩)
      ∨ ∃ t s', FromDatabase t ∧ (serve f r).run main.server = .error t s'
        ∧ main.serve f r = ⟨s', .ended t, main.served⟩ := by
  rcases outcome f r main.server with ⟨-, s', run⟩ | ⟨-, t, s', kind, run⟩
  · exact .inl ⟨s', run, by simp only [Main.serve, run]⟩
  · refine .inr ⟨t, s', kind, run, ?_⟩
    rcases kind with rfl | rfl
    · simp only [Main.serve, run, Position.caught]
    · simp only [Main.serve, run, Position.caught]

end Billboard
