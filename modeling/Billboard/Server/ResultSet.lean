import Billboard.Library.JavaAct
import Billboard.Protocol.Payload
import Mathlib.Data.Nat.Notation

/-!
# Reading a result set

`showTable` counts the rows of its result set with one traversal of a scroll cursor and fills an
array of that length with a second.  The cursor is a position: 0 before the first row, `k` on the
`k`-th row, one more than the number of rows after the last one.

**`run_readTable`**: if no call fails, the array holds the eight columns of every row, in order.
-/

namespace Billboard

open Java

/-- A row of the result set: the integer of its first column and the texts of the other seven,
`none` for `NULL`. -/
structure ResultRow where
  key : Int32
  text : Fin 7 → Option Text

/-- `getString` of the column after the first at index `i`. -/
def ResultRow.getString (r : ResultRow) (i : Fin 7) : JObject :=
  match r.text i with
  | some s => .str s
  | none => .null

/-- `getTime` of the column after the first at index `i`. -/
def ResultRow.getTime (r : ResultRow) (i : Fin 7) : JObject :=
  match r.text i with
  | some s => .time s
  | none => .null

/-- The array `myString` made of a row. -/
def ResultRow.myString (r : ResultRow) : TableRow :=
  let billboardID := .str (decimal r.key)
  let BillboardName := r.getString 0
  let info := r.getString 1
  let msg := r.getString 2
  let url := r.getString 3
  let schduledDate := r.getString 4
  let startTime := r.getTime 5
  let endTime := r.getTime 6
  ![billboardID, BillboardName, info, msg, url, schduledDate, startTime, endTime]

/-! ## The cursor -/

/-- A scrollable result set with its cursor. -/
structure ResultSet where
  rows : List ResultRow
  position : ℕ

namespace ResultSet

/-- A new result set: its cursor is before the first row. -/
def opened (rows : List ResultRow) : ResultSet :=
  ⟨rows, 0⟩

/-- `last()`: to the last row, `false` if there is none. -/
def last (rs : ResultSet) : Bool × ResultSet :=
  if rs.rows.isEmpty then (false, rs) else (true, ⟨rs.rows, rs.rows.length⟩)

/-- `getRow()`: the number of the current row, counted from 1, and 0 if there is none. -/
def getRow (rs : ResultSet) : ℕ :=
  if rs.position ≤ rs.rows.length then rs.position else 0

/-- `beforeFirst()`. -/
def beforeFirst (rs : ResultSet) : ResultSet :=
  ⟨rs.rows, 0⟩

/-- `next()`: `false` if this leaves the last row. -/
def next (rs : ResultSet) : Bool × ResultSet :=
  if rs.position < rs.rows.length then (true, ⟨rs.rows, rs.position + 1⟩)
  else (false, ⟨rs.rows, rs.rows.length + 1⟩)

/-- The current row.  A getter throws `SQLException` when there is none. -/
def current (rs : ResultSet) : Option ResultRow :=
  match rs.position with
  | 0 => none
  | k + 1 => rs.rows[k]?

end ResultSet

/-- The calls on a result set that can fail. -/
inductive ResultSetCall
  | last
  | getRow
  | beforeFirst
  | next (i : ℕ)
  | get (i : ℕ)
  deriving DecidableEq

/-! ## The table -/

variable {σ : Type}

/-- The loop `for (int i=0; i<rowcount; i++)`, with `rowcount - i` as its first argument. -/
def fillRows (fails : ResultSetCall → Bool) :
    ℕ → ℕ → ResultSet → List TableRow → Act σ (List TableRow)
  | 0, _, _, data => pure data
  | n + 1, i, resultSet, data => do
      Act.call (fails (.next i)) .sql
      let resultSet := resultSet.next.2
      Act.call (fails (.get i)) .sql
      let row ← Act.orThrow .sql resultSet.current
      fillRows fails n (i + 1) resultSet (data.set i row.myString)

/-- From `executeQuery` to `new dataArray(data)`. -/
def readTable (fails : ResultSetCall → Bool) (rows : List ResultRow) : Act σ (List TableRow) := do
  let resultSet := ResultSet.opened rows
  Act.call (fails .last) .sql
  let (moved, resultSet) := resultSet.last
  if moved then
    Act.call (fails .getRow) .sql
    let rowcount := resultSet.getRow
    Act.call (fails .beforeFirst) .sql
    fillRows fails rowcount 0 resultSet.beforeFirst (List.replicate rowcount fun _ => .null)
  else
    fillRows fails 0 0 resultSet []

/-! ## The calls of the two traversals -/

/-- The calls that reading these rows makes, in order. -/
def readCalls (rows : List ResultRow) : List ResultSetCall :=
  .last :: if rows.isEmpty then [] else
    .getRow :: .beforeFirst :: (List.range rows.length).flatMap fun i => [.next i, .get i]

lemma mem_readCalls_next {rows : List ResultRow} {i : ℕ} (hi : i < rows.length) :
    .next i ∈ readCalls rows ∧ .get i ∈ readCalls rows := by
  cases rows with
  | nil => exact absurd hi (Nat.not_lt_zero i)
  | cons r rows =>
      constructor
      · simpa [readCalls] using hi
      · simpa [readCalls] using hi

/-! ## What the table holds -/

/-- The array has a place for every row, and the first `i` places are filled. -/
structure Filled (rows : List ResultRow) (i : ℕ) (data : List TableRow) : Prop where
  length : data.length = rows.length
  taken : data.take i = (rows.map ResultRow.myString).take i

lemma filled_start (rows : List ResultRow) :
    Filled rows 0 (List.replicate rows.length fun _ => .null) :=
  ⟨List.length_replicate, by simp⟩

lemma Filled.set {rows : List ResultRow} {i : ℕ} {data : List TableRow}
    (filled : Filled rows i data) (hi : i < rows.length) :
    Filled rows (i + 1) (data.set i rows[i].myString) where
  length := by
    rw [List.length_set, filled.length]
  taken := by
    rw [List.take_succ_eq_append_getElem (by simpa [filled.length] using hi),
      List.take_succ_eq_append_getElem (by simpa using hi), List.take_set_of_le (le_refl i),
      filled.taken]
    simp

lemma Filled.all {rows : List ResultRow} {data : List TableRow}
    (filled : Filled rows rows.length data) : data = rows.map ResultRow.myString := by
  have taken := filled.taken
  rwa [List.take_of_length_le (by rw [filled.length]), List.take_of_length_le (by simp)] at taken

lemma next_before_end {rows : List ResultRow} {i : ℕ} (hi : i < rows.length) :
    ResultSet.next ⟨rows, i⟩ = (true, ⟨rows, i + 1⟩) :=
  if_pos hi

/-- An iteration of the loop takes the cursor one row on and fills one place. -/
lemma run_fillRows_succ {fails : ResultSetCall → Bool} {rows : List ResultRow} {i : ℕ}
    (hi : i < rows.length) (nextOk : fails (.next i) = false) (getOk : fails (.get i) = false)
    (n : ℕ) (data : List TableRow) (s : σ) :
    (fillRows fails (n + 1) i ⟨rows, i⟩ data).run s
      = (fillRows fails n (i + 1) ⟨rows, i + 1⟩ (data.set i rows[i].myString)).run s := by
  have here : ResultSet.current ⟨rows, i + 1⟩ = some rows[i] := List.getElem?_eq_getElem hi
  rw [fillRows, next_before_end hi]
  simp only [nextOk, getOk, here, EStateM.run_bind, Act.run_call, Act.run_orThrow_some,
    Bool.false_eq_true, if_false]

/-- The cursor is on row `i` and the first `i` places of the array are filled.  The loop fills the
others, and each of its `next()` lands on an existing row. -/
lemma run_fillRows {fails : ResultSetCall → Bool} {rows : List ResultRow} (n i : ℕ)
    (ok : ∀ j, i ≤ j → j < rows.length → fails (.next j) = false ∧ fails (.get j) = false)
    {data : List TableRow} (remaining : i + n = rows.length) (filled : Filled rows i data) (s : σ) :
    (fillRows fails n i ⟨rows, i⟩ data).run s = .ok (rows.map ResultRow.myString) s := by
  induction n generalizing i data with
  | zero =>
      obtain rfl : i = rows.length := by omega
      rw [fillRows, filled.all]
      rfl
  | succ n ih =>
      have hi : i < rows.length := by omega
      obtain ⟨nextOk, getOk⟩ := ok i (le_refl i) hi
      rw [run_fillRows_succ hi nextOk getOk]
      exact ih (i + 1) (fun j hj => ok j (by omega)) (by omega) (filled.set hi)

/-- Counting the rows comes to a cursor before the first row and an array for all of them. -/
lemma run_readTable_start {fails : ResultSetCall → Bool} {rows : List ResultRow}
    (ok : ∀ c ∈ readCalls rows, fails c = false) (s : σ) :
    (readTable fails rows).run s
      = (fillRows fails rows.length 0 ⟨rows, 0⟩
          (List.replicate rows.length fun _ => .null)).run s := by
  have lastOk : fails .last = false := ok .last (by simp [readCalls])
  cases rows with
  | nil =>
      simp only [readTable, lastOk, EStateM.run_bind, Act.run_call, Bool.false_eq_true, if_false]
      rfl
  | cons r rows =>
      have getRowOk : fails .getRow = false := ok .getRow (by simp [readCalls])
      have beforeFirstOk : fails .beforeFirst = false := ok .beforeFirst (by simp [readCalls])
      simp only [readTable, ResultSet.opened, ResultSet.last, ResultSet.getRow,
        ResultSet.beforeFirst, lastOk, getRowOk, beforeFirstOk, EStateM.run_bind, Act.run_call,
        List.isEmpty_cons, Bool.false_eq_true, if_false, if_true, le_refl]

/-- **The table of a result set** has one row for each of its rows, in order. -/
theorem run_readTable {fails : ResultSetCall → Bool} {rows : List ResultRow}
    (ok : ∀ c ∈ readCalls rows, fails c = false) (s : σ) :
    (readTable fails rows).run s = .ok (rows.map ResultRow.myString) s := by
  rw [run_readTable_start ok]
  exact run_fillRows rows.length 0
    (fun j _ hj => ⟨ok _ (mem_readCalls_next hj).1, ok _ (mem_readCalls_next hj).2⟩)
    (Nat.zero_add _) (filled_start rows) s

/-- A failing call in the loop ends it. -/
lemma run_fillRows_fails {fails : ResultSetCall → Bool} (n i j : ℕ)
    (from_i : i ≤ j) (below : j < i + n) (failing : fails (.next j) = true ∨ fails (.get j) = true)
    (rs : ResultSet) (data : List TableRow) (s : σ) :
    (fillRows fails n i rs data).run s = .error .sql s := by
  induction n generalizing i rs data with
  | zero => omega
  | succ n ih =>
      rw [fillRows]
      cases nextFails : fails (.next i) with
      | true => rw [Act.run_bind_of_error (by rw [Act.run_call, if_pos rfl])]
      | false =>
      rw [Act.run_bind_of_ok (by rw [Act.run_call, if_neg Bool.false_ne_true])]
      cases getFails : fails (.get i) with
      | true => rw [Act.run_bind_of_error (by rw [Act.run_call, if_pos rfl])]
      | false =>
      rw [Act.run_bind_of_ok (by rw [Act.run_call, if_neg Bool.false_ne_true])]
      cases rs.next.2.current with
      | none => rw [Act.run_bind_of_error (Act.run_orThrow_none _ _)]
      | some r =>
          rw [Act.run_bind_of_ok (Act.run_orThrow_some _ _ _)]
          refine ih (i + 1) ?_ (by omega) _ _
          rcases Nat.lt_or_eq_of_le from_i with later | rfl
          · exact later
          · rw [nextFails, getFails] at failing
            simp at failing

/-- A failing call ends the reading by an `SQLException`. -/
theorem run_readTable_fails {fails : ResultSetCall → Bool} {rows : List ResultRow}
    {c : ResultSetCall} (called : c ∈ readCalls rows) (failing : fails c = true) (s : σ) :
    (readTable fails rows).run s = .error .sql s := by
  rw [readTable]
  cases lastFails : fails .last with
  | true => rw [Act.run_bind_of_error (by rw [Act.run_call, if_pos rfl])]
  | false =>
  rw [Act.run_bind_of_ok (by rw [Act.run_call, if_neg Bool.false_ne_true])]
  cases rows with
  | nil =>
      obtain rfl := List.mem_singleton.mp called
      rw [lastFails] at failing
      cases failing
  | cons r rows =>
      simp only [ResultSet.opened, ResultSet.last, List.isEmpty_cons, Bool.false_eq_true, if_false,
        if_true]
      cases getRowFails : fails .getRow with
      | true => rw [Act.run_bind_of_error (by rw [Act.run_call, if_pos rfl])]
      | false =>
      rw [Act.run_bind_of_ok (by rw [Act.run_call, if_neg Bool.false_ne_true])]
      cases beforeFirstFails : fails .beforeFirst with
      | true => rw [Act.run_bind_of_error (by rw [Act.run_call, if_pos rfl])]
      | false =>
      rw [Act.run_bind_of_ok (by rw [Act.run_call, if_neg Bool.false_ne_true])]
      simp only [ResultSet.getRow, ResultSet.beforeFirst, le_refl, if_true]
      have inLoop : ∃ j < (r :: rows).length, c = .next j ∨ c = .get j := by
        have : c = .last ∨ c = .getRow ∨ c = .beforeFirst
            ∨ ∃ j < (r :: rows).length, c = .next j ∨ c = .get j := by
          simpa [readCalls] using called
        rcases this with rfl | rfl | rfl | inLoop
        · rw [lastFails] at failing
          cases failing
        · rw [getRowFails] at failing
          cases failing
        · rw [beforeFirstFails] at failing
          cases failing
        · exact inLoop
      obtain ⟨j, hj, which⟩ := inLoop
      refine run_fillRows_fails _ 0 j (Nat.zero_le j) (by omega) ?_ _ _ s
      rcases which with rfl | rfl
      · exact .inl failing
      · exact .inr failing

lemma keeps_fillRows (fails : ResultSetCall → Bool) (n i : ℕ) (rs : ResultSet)
    (data : List TableRow) : Act.Keeps id (fillRows fails n i rs data : Act σ _) := by
  induction n generalizing i rs data with
  | zero => exact .pure data
  | succ n ih =>
      exact .bind (.call _ _) fun _ => .bind (.call _ _) fun _ =>
        .bind (.orThrow _ _) fun _ => ih _ _ _

/-- Whatever fails, reading a result set changes nothing on the server. -/
lemma keeps_readTable (fails : ResultSetCall → Bool) (rows : List ResultRow) :
    Act.Keeps id (readTable fails rows : Act σ _) := by
  refine .bind (.call _ _) fun _ => ?_
  simp only
  split
  · exact .bind (.call _ _) fun _ => .bind (.call _ _) fun _ => keeps_fillRows fails _ _ _ _
  · exact keeps_fillRows fails _ _ _ _

end Billboard
