import Billboard.Server.Progress

/-!
# Requests that fail

The server executes its statements one by one under auto-commit and opens no transaction.  So a
request that ends by an exception leaves behind what its statements had done until then
(`progress_of_error`), and an `INSERT` that failed may have drawn ids.

**`serve_failed`**: both tables keep their rows, except when the second `INSERT` of `addBillboard`
fails after its first has taken effect.  The billboards added later get the same id in both tables,
wherever they would have without the failed request, exactly if that request drew as many ids from
the one table as from the other; a request other than `addBillboard` draws none.
-/

namespace Billboard

open Java Sql Runs

/-! ## Rows and counters -/

variable {m : MariaDb}

lemma sameRows_fail (sql : Text) (ids : ℕ) (db : Db m) :
    SameRows db (m.backend.fail sql ids db) := by
  simp only
  cases readStatement sql with
  | none => exact ⟨rfl, rfl⟩
  | some stmt => exact sameRows_burnIds stmt ids db

lemma countersLe_fail (sql : Text) (ids : ℕ) (db : Db m) :
    CountersLe db (m.backend.fail sql ids db) := by
  simp only
  cases readStatement sql with
  | none => exact ⟨le_refl _, le_refl _⟩
  | some stmt => exact countersLe_burnIds stmt ids db

lemma countersLe_backend {sql : Text} {db db' : Db m} {rows : List ResultRow}
    (h : m.backend.execute sql db = some (db', rows)) : CountersLe db db' := by
  simp only [MariaDb.backend, Option.bind_eq_bind, Option.bind_eq_some_iff] at h
  obtain ⟨stmt, -, out, effect, e⟩ := h
  obtain ⟨rfl, -⟩ := Prod.mk.inj (Option.some.inj e)
  exact countersLe_execute effect

lemma CountersLe.trans {d₁ d₂ d₃ : Db m} (h : CountersLe d₁ d₂) (h' : CountersLe d₂ d₃) :
    CountersLe d₁ d₃ :=
  ⟨h.1.trans h'.1, h.2.trans h'.2⟩

lemma countersLe_givenUp {rest : List Text} {db db' : Db m}
    (h : GivenUp (B := m.backend) rest db db') : CountersLe db db' := by
  rcases h with rfl | ⟨sql, tl, ids, -, rfl⟩
  · exact ⟨le_refl _, le_refl _⟩
  · exact countersLe_fail sql ids db

/-- Only the texts of `addBillboard` are `INSERT`s, whatever stands in the fields. -/
lemma not_insert_of_sqlTexts {r : Request} (other : ∀ a, r ≠ .addBillboard a) {sql : Text}
    {stmt : Stmt} (mem : sql ∈ sqlTexts r) (h : readStatement sql = some stmt) :
    stmt.isInsert = false := by
  cases r with
  | addBillboard a => exact absurd rfl (other a)
  | addView a =>
      obtain rfl := List.mem_singleton.mp mem
      have fixed : (scan .code "update view set scheduleddate='".toList).out
          = [kw "update", kw "view", kw "set", kw "scheduleddate", equals] := by decide +kernel
      unfold updateScheduleSql at h
      simp only [List.append_assoc] at h
      exact not_insert_of_readStatement fixed (by decide +kernel) h
  | showTable =>
      obtain rfl := List.mem_singleton.mp mem
      have fixed : (scan .code "SELECT * ".toList).out = [kw "select", .symbol '*'] := by
        decide +kernel
      have split : selectViewSql = "SELECT * ".toList ++ "FROM view".toList := by decide +kernel
      exact not_insert_of_readStatement fixed (by decide +kernel) (split ▸ h)
  | delete d =>
      obtain rfl := List.mem_singleton.mp mem
      have fixed : (scan .code "delete from view where billboardID=(".toList).out
          = [kw "delete", kw "from", kw "view", kw "where", kw "billboardid", equals, opening] := by
        decide +kernel
      unfold deleteSql at h
      simp only [List.append_assoc] at h
      exact not_insert_of_readStatement fixed (by decide +kernel) h
  | editTable e =>
      obtain rfl := List.mem_singleton.mp mem
      have fixed : (scan .code "update billboard set BillboardName='".toList).out
          = [kw "update", kw "billboard", kw "set", kw "billboardname", equals] := by
        decide +kernel
      unfold updateBillboardSql at h
      simp only [List.append_assoc] at h
      exact not_insert_of_readStatement fixed (by decide +kernel) h

lemma fail_eq_self {r : Request} (other : ∀ a, r ≠ .addBillboard a) {sql : Text}
    (mem : sql ∈ sqlTexts r) (ids : ℕ) (db : Db m) : m.backend.fail sql ids db = db := by
  simp only [MariaDb.backend]
  cases h : readStatement sql with
  | none => rfl
  | some stmt => exact burnIds_of_not_insert (not_insert_of_sqlTexts other mem h) ids db

/-! ## A failed request -/

/-- The first `INSERT` of `addBillboard` took effect and left its rows; for a plain request that is
one row more in `billboard`. -/
def FirstInsertOnly (r : Request) (db db' : Db m) : Prop :=
  ∃ a db₁ rows, r = .addBillboard a
    ∧ m.backend.execute (insertBillboardSql a.getVal) db = some (db₁, rows)
    ∧ SameRows db₁ db'
    ∧ (r.Plain → ∃ h, db₁ = db.insertBillboard a h)

/-- How many ids a table has given out between two states. -/
def idsDrawn {Row : Type} {S : Schema Row} (t t' : Table S) : ℕ :=
  t'.next - t.next

lemma effect_of_plain_insert {a : Add} {db db₁ : Db m} {rows : List ResultRow}
    (plain : (Request.addBillboard a).Plain)
    (h : m.backend.execute (insertBillboardSql a.getVal) db = some (db₁, rows)) :
    ∃ room, db₁ = db.insertBillboard a room := by
  have reads : Reads (insertBillboardSql a.getVal) (insertBillboardStmt a) :=
    (insertBillboard_reads_iff a).mpr fun f hf =>
      selfReading_of_plain (plain f hf).1 (plain f hf).2
  rw [backend_execute reads (wellNamed_intended (.addBillboard a) _ (by simp [intended])),
    execute_insertBillboard] at h
  split_ifs at h with room
  · exact ⟨room, (Prod.mk.inj (Option.some.inj h)).1.symm⟩
  · exact absurd h (by simp)

/-- `showTable` changes nothing. -/
lemma backend_execute_select {db db' : Db m} {rows : List ResultRow}
    (h : m.backend.execute selectViewSql db = some (db', rows)) : db' = db := by
  rw [backend_execute selectView_reads (wellNamed_intended .showTable _ (by simp [intended])),
    execute_selectView] at h
  exact (Prod.mk.inj (Option.some.inj h)).1.symm

/-- A failed request other than `addBillboard` changes nothing at all. -/
lemma failed_other {f : Faults} {r : Request} {t : Throwable} {s s' : Server m.backend}
    (other : ∀ a, r ≠ .addBillboard a) (failed : (serve f r).run s = .error t s') :
    s'.store = s.store := by
  obtain ⟨performed, rest, mid, texts, progress, abandoned, ended⟩ := progress_of_error failed
  have kept : s'.store = mid.store := by
    rcases abandoned.store with same | ⟨sql, tl, ids, rfl, same⟩
    · exact same
    · rw [same, fail_eq_self other (by rw [texts]; simp)]
  cases performed with
  | nil => exact kept.trans progress.store
  | cons sql performed =>
      obtain ⟨store₁, ⟨rows, effect⟩, executed⟩ := progress.store
      have only : performed ++ rest = [] := by
        cases r with
        | addBillboard a => exact absurd rfl (other a)
        | addView a => exact (List.cons.inj texts).2.symm
        | showTable => exact (List.cons.inj texts).2.symm
        | delete d => exact (List.cons.inj texts).2.symm
        | editTable e => exact (List.cons.inj texts).2.symm
      obtain ⟨rfl, rfl⟩ := List.append_eq_nil_iff.mp only
      obtain rfl := ended rfl
      obtain ⟨rfl, -⟩ := List.cons.inj texts
      have last : mid.store = store₁ := executed
      rw [kept, last, backend_execute_select effect]

/-- A failed `addBillboard` was given up in its first `INSERT`, or in its second one after the
first had taken effect. -/
lemma failed_addBillboard {f : Faults} {a : Add} {t : Throwable} {s s' : Server m.backend}
    (failed : (serve f (.addBillboard a)).run s = .error t s') :
    GivenUp (B := m.backend) (sqlTexts (.addBillboard a)) s.store s'.store
      ∨ ∃ db₁ rows, m.backend.execute (insertBillboardSql a.getVal) s.store = some (db₁, rows)
          ∧ GivenUp (B := m.backend) [insertViewSql a.getVal] db₁ s'.store := by
  obtain ⟨performed, rest, mid, texts, progress, abandoned, ended⟩ := progress_of_error failed
  rcases performed with _ | ⟨sql, _ | ⟨sql', performed⟩⟩
  · have start : mid.store = s.store := progress.store
    exact .inl (texts ▸ start ▸ abandoned.store)
  · obtain ⟨store₁, ⟨rows, effect⟩, executed⟩ := progress.store
    have first : mid.store = store₁ := executed
    obtain ⟨rfl, rfl⟩ := List.cons.inj texts
    exact .inr ⟨store₁, rows, effect, first ▸ abandoned.store⟩
  · have none_left : rest = [] := by
      have := (List.cons.inj (List.cons.inj texts).2).2
      exact (List.append_eq_nil_iff.mp this.symm).2
    exact absurd (ended none_left) (by simp)

lemma sameRows_givenUp {rest : List Text} {db db' : Db m}
    (h : GivenUp (B := m.backend) rest db db') : SameRows db db' := by
  rcases h with rfl | ⟨sql, tl, ids, -, rfl⟩
  · exact ⟨rfl, rfl⟩
  · exact sameRows_fail sql ids db

lemma rows_of_failed {f : Faults} {r : Request} {t : Throwable} {s s' : Server m.backend}
    (failed : (serve f r).run s = .error t s') :
    SameRows s.store s'.store ∨ FirstInsertOnly r s.store s'.store := by
  by_cases h : ∃ a, r = .addBillboard a
  · obtain ⟨a, rfl⟩ := h
    rcases failed_addBillboard failed with first | ⟨db₁, rows, effect, second⟩
    · exact .inl (sameRows_givenUp first)
    · exact .inr ⟨a, db₁, rows, rfl, effect, sameRows_givenUp second, fun plain =>
        effect_of_plain_insert plain effect⟩
  · rw [failed_other (fun a e => h ⟨a, e⟩) failed]
    exact .inl ⟨rfl, rfl⟩

lemma counters_of_failed {f : Faults} {r : Request} {t : Throwable} {s s' : Server m.backend}
    (failed : (serve f r).run s = .error t s') : CountersLe (m := m) s.store s'.store := by
  by_cases h : ∃ a, r = .addBillboard a
  · obtain ⟨a, rfl⟩ := h
    rcases failed_addBillboard failed with first | ⟨db₁, rows, effect, second⟩
    · exact countersLe_givenUp first
    · exact (countersLe_backend effect).trans (countersLe_givenUp second)
  · rw [failed_other (fun a e => h ⟨a, e⟩) failed]
    exact ⟨le_refl _, le_refl _⟩

/-! ## The run goes on -/

/-- Both tables would give the next billboard the same id. -/
def SameId (db : Db m) : Prop :=
  db.billboard.newId = db.view.newId

instance (db : Db m) : Decidable (SameId db) :=
  inferInstanceAs (Decidable (_ = _))

/-- How many billboards the requests add. -/
def added (rs : List Request) : ℕ :=
  rs.countP fun r => match r with
    | .addBillboard _ => true
    | _ => false

/-- Completed requests advance both counters by the billboards they add, from wherever they
start. -/
lemma counters_of_reaches {db db' : Db m} {rs : List Request} (h : Reaches Serves db rs db') :
    db'.billboard.next = db.billboard.next + added rs
      ∧ db'.view.next = db.view.next + added rs := by
  induction rs generalizing db with
  | nil =>
      obtain rfl : db' = db := h
      simp [added]
  | cons r rs ih =>
      obtain ⟨d, one, rest⟩ := h
      obtain ⟨billboard, view⟩ := ih rest
      have effect := (serves_iff.mp one).2
      cases r with
      | addBillboard a =>
          simp only [Db.effect] at effect
          split_ifs at effect
          obtain rfl := Option.some.inj effect
          simp only [Db.insertView, Db.insertBillboard, Table.insert_next] at billboard view
          simp only [added, List.countP_cons_of_pos] at billboard view ⊢
          omega
      | addView a =>
          obtain rfl := Option.some.inj effect
          exact ⟨billboard, view⟩
      | showTable =>
          obtain rfl := Option.some.inj effect
          exact ⟨billboard, view⟩
      | delete d =>
          obtain rfl := Option.some.inj effect
          exact ⟨billboard, view⟩
      | editTable e =>
          obtain rfl := Option.some.inj effect
          exact ⟨billboard, view⟩

/-- A billboard is added only while both counters are in range, so ids are the same when the
counters are. -/
lemma sameId_iff_of_serves {db db' : Db m} {a : Add} (h : Serves db (.addBillboard a) db') :
    SameId db ↔ db.billboard.next = db.view.next := by
  have effect := (serves_iff.mp h).2
  simp only [Db.effect] at effect
  split_ifs at effect with room room'
  constructor
  · intro same
    have := congrArg Int32.toInt same
    rw [Table.newId_toInt room, Table.newId_toInt (t := db.view) room'] at this
    exact_mod_cast this
  · intro same
    rw [SameId, Table.newId, Table.newId, same]

/-- **A failed request** leaves the rows of both tables as they were, or as the first `INSERT` of
`addBillboard` left them.  On every continuation of the run the billboards added later get the same
id in both tables, wherever they would have without the failed request, if and only if the failed
request drew as many ids from both. -/
theorem serve_failed {f : Faults} {r : Request} {t : Throwable} {s s' : Server m.backend}
    (failed : (serve f r).run s = .error t s') :
    (SameRows s.store s'.store ∨ FirstInsertOnly r s.store s'.store)
      ∧ ((∀ a, r ≠ .addBillboard a) → idsDrawn (Db.billboard s.store) (Db.billboard s'.store) = 0
          ∧ idsDrawn (Db.view s.store) (Db.view s'.store) = 0)
      ∧ ∀ rs a d d₁ d' d₁', Reaches Serves s.store rs d → Serves d (.addBillboard a) d₁ →
          Reaches Serves s'.store rs d' → Serves d' (.addBillboard a) d₁' →
          SameId d → (SameId d' ↔ idsDrawn (Db.billboard s.store) (Db.billboard s'.store)
            = idsDrawn (Db.view s.store) (Db.view s'.store)) := by
  refine ⟨rows_of_failed failed, fun other => ?_, ?_⟩
  · rw [failed_other other failed]
    exact ⟨Nat.sub_self _, Nat.sub_self _⟩
  · intro rs a d d₁ d' d₁' without added₁ after added₂ same
    obtain ⟨billboard, view⟩ := counters_of_reaches without
    obtain ⟨billboard', view'⟩ := counters_of_reaches after
    obtain ⟨le, le'⟩ := counters_of_failed failed
    rw [sameId_iff_of_serves added₁] at same
    rw [sameId_iff_of_serves added₂, idsDrawn, idsDrawn]
    omega

/-! ## The second `INSERT` fails -/

/-- Only the second statement of the request fails, without drawing an id. -/
def secondFails : Faults :=
  { Faults.none with statement := fun k => if k = 1 then some 0 else none }

def firstServer : Server (MariaDb.simple .infoMessage).backend :=
  .initial

def someBillboard : Add :=
  ⟨"a".toList, "b".toList, "c".toList, "d".toList⟩

lemma secondFails_thrown :
    (serve secondFails (.addBillboard someBillboard)).thrown firstServer = some .sql := by
  decide +kernel

theorem serve_failed_second :
    let s' := (serve secondFails (.addBillboard someBillboard)).after firstServer
    (SameRows firstServer.store s'.store
        ∨ FirstInsertOnly (.addBillboard someBillboard) firstServer.store s'.store)
      ∧ ∀ rs a d d₁ d' d₁', Reaches Serves firstServer.store rs d → Serves d (.addBillboard a) d₁ →
          Reaches Serves s'.store rs d' → Serves d' (.addBillboard a) d₁' → SameId d →
          (SameId d' ↔ idsDrawn (Db.billboard firstServer.store) (Db.billboard s'.store)
            = idsDrawn (Db.view firstServer.store) (Db.view s'.store)) := by
  have spec := serve_failed (Act.run_eq_error_of_thrown secondFails_thrown)
  exact ⟨spec.1, spec.2.2⟩

/-- The first `INSERT` stays, and the next billboard gets id 2 in `billboard` and id 1 in
`view`. -/
theorem second_insert_fails :
    let s' := (serve secondFails (.addBillboard someBillboard)).after firstServer
    (serve secondFails (.addBillboard someBillboard)).thrown firstServer = some .sql
      ∧ ¬ SameRows firstServer.store s'.store
      ∧ SameId firstServer.store
      ∧ ¬ SameId s'.store
      ∧ ∃ d', Serves s'.store (.addBillboard someBillboard) d' := by
  intro s'
  have completes : (Db.effect s'.store (.addBillboard someBillboard)).isSome := by decide +kernel
  obtain ⟨d', effect⟩ := Option.isSome_iff_exists.mp completes
  exact ⟨secondFails_thrown, by decide +kernel, by decide +kernel, by decide +kernel, d',
    serves_iff.mpr ⟨by decide +kernel, effect⟩⟩

end Billboard
