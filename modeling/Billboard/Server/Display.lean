import Billboard.Client.ClientGUI
import Billboard.Server.Effect

/-!
# The reply to `showTable`

The case counts the rows of its result set with one traversal of the cursor and fills the array in
a second.  `readTable_at` says where the second stands at each of its iterations.

**`showTable_replies`**: whatever `view` holds, the reply has one row for each row of `view`, in
order and with its eight columns, and the client displays exactly this table.
-/

namespace Billboard

open Java

variable {σ : Type}

/-! ## The second traversal -/

/-- **The cursor at each iteration.**  Reading a result set comes, for every index `i` up to the
number of rows, to the iteration `i` of the loop with the cursor on row `i` and the first `i` places
of the array filled. -/
theorem readTable_at {rows : List ResultRow} (i n : ℕ) (total : i + n = rows.length) (s : σ) :
    ∃ data, Filled rows i data
      ∧ (readTable (fun _ => false) rows).run s
        = (fillRows (fun _ => false) n i ⟨rows, i⟩ data).run s := by
  induction i generalizing n with
  | zero =>
      obtain rfl : n = rows.length := by omega
      exact ⟨_, filled_start rows, run_readTable_start (fun _ _ => rfl) s⟩
  | succ i ih =>
      obtain ⟨data, filled, same⟩ := ih (n + 1) (by omega)
      have hi : i < rows.length := by omega
      exact ⟨_, filled.set hi, same.trans (run_fillRows_succ hi rfl rfl n data s)⟩

/-! ## The columns -/

/-- A column after the first as it is displayed: `NULL` as `null`, the last two as times. -/
def ResultRow.displayed (r : ResultRow) (j : Fin 7) : JObject :=
  match r.text j with
  | none => .null
  | some s => if j.val < 5 then .str s else .time s

lemma displayed_eq (r : ResultRow) (j : Fin 7) :
    r.displayed j = if j.val < 5 then r.getString j else r.getTime j := by
  unfold ResultRow.displayed ResultRow.getString ResultRow.getTime
  cases r.text j with
  | none => exact (ite_self _).symm
  | some s => rfl

lemma myString_succ (r : ResultRow) (j : Fin 7) : r.myString j.succ = r.displayed j := by
  rw [displayed_eq]
  match j with
  | 0 | 1 | 2 | 3 | 4 | 5 | 6 => rfl

/-! ## The reply -/

/-- The result set of `SELECT * FROM view`. -/
def Db.selected {m : MariaDb} (db : Db m) : List ResultRow :=
  db.view.rows.map (ViewRow.result m.order)

/-- **`showTable` replies with the rows of `view`**: as many, in order, each with its id as decimal
text and its other columns.  At every index the loop has filled the places before it and its
`next()` lands on a row, and the table model of the client holds the table of the reply. -/
theorem showTable_replies {m : MariaDb} (s : Server m.backend) :
    ∃ s' table, (serve Faults.none .showTable).run s = .ok () s'
      ∧ s'.replies = s.replies ++ [⟨table⟩]
      ∧ table.length = (Db.view s.store).rows.length
      ∧ (∀ (i : ℕ) r, (Db.view s.store).rows[i]? = some r → ∃ row, table[i]? = some row
          ∧ row 0 = .str (decimal r.billboardID)
          ∧ ∀ j : Fin 7, row j.succ = (r.result m.order).displayed j)
      ∧ (∀ i n, i + (n + 1) = (Db.view s.store).rows.length → ∀ t : Server m.backend,
          ∃ data, Filled (Db.selected s.store) i data
            ∧ (readTable Faults.none.resultSet (Db.selected s.store)).run t
              = (fillRows Faults.none.resultSet (n + 1) i ⟨Db.selected s.store, i⟩ data).run t
            ∧ ResultSet.next ⟨Db.selected s.store, i⟩ = (true, ⟨Db.selected s.store, i + 1⟩))
      ∧ (Client.start ⟨table⟩).table2.rows = table := by
  obtain ⟨s', run, served⟩ := run_serveShowTable_none s
  refine ⟨s', Db.displayed s.store, run, served.replies, ?_, ?_, ?_, rfl⟩
  · rw [Db.displayed, List.length_map]
  · intro i r row
    refine ⟨(r.result m.order).myString, ?_, rfl, fun j => myString_succ _ j⟩
    rw [Db.displayed, List.getElem?_map, row, Option.map_some]
  · intro i n total t
    have total : i + (n + 1) = (Db.selected s.store).length := by
      rw [Db.selected, List.length_map, total]
    obtain ⟨data, filled, same⟩ := readTable_at i (n + 1) total t
    exact ⟨data, filled, same, next_before_end (by omega)⟩

end Billboard
