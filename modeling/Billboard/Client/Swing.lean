import Billboard.Library.JavaAct
import Billboard.Protocol.Payload
import Mathlib.Data.Int.Notation
import Mathlib.Data.Nat.Notation
import Mathlib.Logic.Equiv.Defs
import Mathlib.Logic.Function.Basic

/-!
# The Swing components of the client

The table model of `table2`, the `JTable` that shows it, and the text areas of the form.

A row index of the source is an `int`; the model throws `ArrayIndexOutOfBoundsException` for one
that is no row.  The table adds a selection and an order of its columns: `getValueAt` of the table
goes by the order shown, `getValueAt` of the model by the model's own.
-/

namespace Billboard

open Java

/-! ## Values of cells -/

/-- `o.toString()`, `none` for a `NullPointerException`. -/
def JObject.toString : JObject → Option Text
  | .null => none
  | .str s => some s
  | .int k => some (decimal k)
  | .time s => some s

/-- `(String) o`, `none` for a `ClassCastException`; the inner `none` is `null`. -/
def JObject.asString : JObject → Option (Option Text)
  | .null => some none
  | .str s => some (some s)
  | _ => none

/-- The integer that column 0 of a row displays. -/
def rowID (row : TableRow) : Option Int32 :=
  (row 0).toString.bind parseInt

/-! ## `DefaultTableModel` -/

namespace TableModel

/-- The row at an index. -/
def row? (rows : List TableRow) : ℤ → Option TableRow
  | .ofNat n => rows[n]?
  | .negSucc _ => none

/-- `getValueAt(row, column)`. -/
def getValueAt (rows : List TableRow) (row : ℤ) (column : Fin 8) : Option JObject :=
  (row? rows row).map (· column)

/-- The effect of `setValueAt(value, row, column)` on the rows. -/
def setValueAt (rows : List TableRow) (value : JObject) (row : ℤ) (column : Fin 8) :
    Option (List TableRow) :=
  match row with
  | .ofNat n => rows[n]?.map fun r => rows.set n (Function.update r column value)
  | .negSucc _ => none

/-- The effect of `removeRow(row)` on the rows. -/
def removeRow (rows : List TableRow) : ℤ → Option (List TableRow)
  | .ofNat n => if n < rows.length then some (rows.eraseIdx n) else none
  | .negSucc _ => none

lemma row?_eq_some {rows : List TableRow} {i : ℤ} {r : TableRow} (h : row? rows i = some r) :
    ∃ n : ℕ, i = n ∧ rows[n]? = some r := by
  cases i with
  | ofNat n => exact ⟨n, rfl, h⟩
  | negSucc n => exact absurd h (by simp [row?])

@[simp] lemma row?_natCast (rows : List TableRow) (n : ℕ) : row? rows (n : ℤ) = rows[n]? := rfl

lemma setValueAt_eq_none {rows : List TableRow} {i : ℤ} (h : row? rows i = none)
    (value : JObject) (column : Fin 8) : setValueAt rows value i column = none := by
  cases i with
  | ofNat n => rw [setValueAt, show rows[n]? = none from h, Option.map_none]
  | negSucc n => rfl

lemma getValueAt_of_row {rows : List TableRow} {i : ℤ} {r : TableRow} (h : row? rows i = some r)
    (column : Fin 8) : getValueAt rows i column = some (r column) := by
  rw [getValueAt, h]
  rfl

end TableModel

/-! ## `JTable` -/

/-- A table, its selection model included. -/
structure JTable where
  /-- The rows of the table model. -/
  rows : List TableRow
  /-- The column of the model that each column of the table shows. -/
  columns : Equiv.Perm (Fin 8)
  /-- `getSelectedRow()`, `none` for -1. -/
  selectedRow : Option ℕ

/-- `getValueAt(row, column)` of the table. -/
def JTable.getValueAt (t : JTable) (row : ℕ) (column : Fin 8) : Option JObject :=
  TableModel.getValueAt t.rows row (t.columns column)

/-- The selection after the row at index `n` has been removed. -/
def selectionAfterRemoval (n : ℕ) : Option ℕ → Option ℕ
  | none => none
  | some i => if i = n then none else if n < i then some (i - 1) else some i

/-! ## The text areas -/

/-- The text areas that the handlers use. -/
inductive TextArea
  | createBillboardName
  | createMsg
  | createInfo
  | textArea4
  | createImgLink
  | editBbID
  | editBbName
  | editMsg
  | editInfo
  | editLink
  | scheduleID
  | sceduledDate
  | scheduleStartTime
  | scheduleEndTime
  deriving DecidableEq

/-- Whether the form binds a component to the field.  The designer leaves other fields `null`. -/
def TextArea.bound : TextArea → Bool
  | .textArea4 => false
  | _ => true

/-- The tabs of `tabbedPane1`. -/
inductive Tab
  | view
  | createBillboards
  | editBillboards
  | scheduleBillBoards
  | editUsers
  deriving DecidableEq

end Billboard
