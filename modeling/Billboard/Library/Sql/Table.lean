import Billboard.Library.Sql.Statement
import Mathlib.Algebra.Group.Nat.Defs
import Mathlib.Data.List.Nodup

/-!
# Tables with an auto-incremented key

A table holds rows under distinct 32-bit ids and the next id it will give out.  Both facts an
`INT AUTO_INCREMENT PRIMARY KEY` guarantees — ids are distinct, and none has been given out beyond
the counter — are fields of `Table`, so no operation can break them.

`Table.find` is what a table stands for: a partial map from ids to rows.  Each operation has one
lemma that says what it does to that map (`find_insert`, `find_update`, `find_delete`); the order
of the rows is the order of insertion.

`Schema` describes the rows: the columns by name and what assigning a value to one does.
`insertValues`, `updateWhere` and `deleteWhere` execute a statement of `Stmt` on a table.
-/

namespace Sql

/-- The rows of a table: their columns in order, the key column, and assignment by column name.
Assigning never changes the id. -/
structure Schema (Row : Type) where
  columns : List Name
  idColumn : Name
  id : Row → Int32
  /-- The row with this id whose other columns are all `NULL`. -/
  blank : Int32 → Row
  /-- Assigning a value to a column, `none` for an unknown column or one that takes no value. -/
  set : Name → Value → Option {f : Row → Row // ∀ r, id (f r) = id r}
  id_blank : ∀ i, id (blank i) = i

variable {Row : Type}

/-- A change of a row that keeps its id. -/
abbrev Schema.Change (S : Schema Row) := {f : Row → Row // ∀ r, S.id (f r) = S.id r}

/-- A table: its rows, in the order of insertion, and the next id. -/
structure Table (S : Schema Row) where
  rows : List Row
  next : ℕ
  nodup : (rows.map S.id).Nodup
  below : ∀ r ∈ rows, (S.id r).toInt < next

namespace Table

variable {S : Schema Row}

@[ext] lemma ext {t u : Table S} (rows : t.rows = u.rows) (next : t.next = u.next) : t = u := by
  cases t
  cases u
  simp_all

/-- The row with a given id. -/
def find (t : Table S) (i : Int32) : Option Row :=
  t.rows.find? fun r => S.id r = i

/-- The id the next insertion gives out. -/
def newId (t : Table S) : Int32 :=
  Int32.ofNat t.next

/-- Whether the counter is still within the column's range. -/
def HasRoom (t : Table S) : Prop :=
  t.next < 2 ^ 31

instance (t : Table S) : Decidable t.HasRoom :=
  inferInstanceAs (Decidable (t.next < 2 ^ 31))

lemma newId_toInt {t : Table S} (h : t.HasRoom) : t.newId.toInt = t.next :=
  Int32.toInt_ofNat_of_lt h

/-! ## Operations -/

/-- Inserting the row that `change` makes of a blank one. -/
def insert (t : Table S) (h : t.HasRoom) (change : S.Change) : Table S where
  rows := t.rows ++ [change.1 (S.blank t.newId)]
  next := t.next + 1
  nodup := by
    have fresh : ∀ r ∈ t.rows, S.id r ≠ t.newId := fun r hr e => by
      have below := t.below r hr
      rw [e, newId_toInt h] at below
      omega
    rw [List.map_append, List.nodup_append]
    refine ⟨t.nodup, by simp, ?_⟩
    intro a ha b hb
    obtain ⟨r, hr, rfl⟩ := List.mem_map.mp ha
    obtain rfl : b = t.newId := by simpa [change.2, S.id_blank] using hb
    exact fresh r hr
  below := by
    intro r hr
    rcases List.mem_append.mp hr with hr | hr
    · have := t.below r hr
      omega
    · obtain rfl := List.mem_singleton.mp hr
      rw [change.2, S.id_blank, newId_toInt h]
      omega

/-- Changing the rows whose id is selected. -/
def update (t : Table S) (selected : Int32 → Bool) (change : S.Change) : Table S where
  rows := t.rows.map fun r => if selected (S.id r) then change.1 r else r
  next := t.next
  nodup := by
    have ids : (t.rows.map fun r => if selected (S.id r) then change.1 r else r).map S.id
        = t.rows.map S.id := by
      rw [List.map_map]
      refine List.map_congr_left fun r _ => ?_
      simp only [Function.comp_apply]
      split_ifs
      · exact change.2 r
      · rfl
    rw [ids]
    exact t.nodup
  below := by
    intro r hr
    obtain ⟨r', hr', rfl⟩ := List.mem_map.mp hr
    have := t.below r' hr'
    split_ifs
    · rwa [change.2]
    · exact this

/-- Removing the rows whose id is selected. -/
def delete (t : Table S) (selected : Int32 → Bool) : Table S where
  rows := t.rows.filter fun r => !selected (S.id r)
  next := t.next
  nodup := t.nodup.sublist (List.filter_sublist.map S.id)
  below := fun r hr => t.below r (List.mem_filter.mp hr).1

/-- Giving out `k` ids without inserting a row. -/
def burn (t : Table S) (k : ℕ) : Table S where
  rows := t.rows
  next := t.next + k
  nodup := t.nodup
  below := fun r hr => by
    have := t.below r hr
    omega

@[simp] lemma insert_next (t : Table S) (h : t.HasRoom) (change : S.Change) :
    (t.insert h change).next = t.next + 1 := rfl
@[simp] lemma insert_rows (t : Table S) (h : t.HasRoom) (change : S.Change) :
    (t.insert h change).rows = t.rows ++ [change.1 (S.blank t.newId)] := rfl
@[simp] lemma update_rows (t : Table S) (selected : Int32 → Bool) (change : S.Change) :
    (t.update selected change).rows
      = t.rows.map fun r => if selected (S.id r) then change.1 r else r := rfl
@[simp] lemma update_next (t : Table S) (selected : Int32 → Bool) (change : S.Change) :
    (t.update selected change).next = t.next := rfl
@[simp] lemma delete_rows (t : Table S) (selected : Int32 → Bool) :
    (t.delete selected).rows = t.rows.filter fun r => !selected (S.id r) := rfl
@[simp] lemma delete_next (t : Table S) (selected : Int32 → Bool) :
    (t.delete selected).next = t.next := rfl
@[simp] lemma burn_next (t : Table S) (k : ℕ) : (t.burn k).next = t.next + k := rfl
@[simp] lemma burn_rows (t : Table S) (k : ℕ) : (t.burn k).rows = t.rows := rfl

/-! ## A table as a map -/

lemma id_of_find {t : Table S} {i : Int32} {r : Row} (h : t.find i = some r) : S.id r = i := by
  simpa using List.find?_some h

lemma mem_of_find {t : Table S} {i : Int32} {r : Row} (h : t.find i = some r) : r ∈ t.rows :=
  List.mem_of_find?_eq_some h

/-- Ids are distinct, so a row is what is found under its id. -/
lemma find_of_mem {t : Table S} {r : Row} (h : r ∈ t.rows) : t.find (S.id r) = some r := by
  cases hf : t.find (S.id r) with
  | none =>
      have := List.find?_eq_none.mp hf r h
      simp at this
  | some r' =>
      have same : S.id r' = S.id r := id_of_find hf
      rw [List.inj_on_of_nodup_map t.nodup (mem_of_find hf) h same]

/-- The next id is not in use. -/
lemma find_newId {t : Table S} (h : t.HasRoom) : t.find t.newId = none := by
  rw [find, List.find?_eq_none]
  intro r hr
  have below := t.below r hr
  simp only [decide_eq_true_eq]
  intro e
  rw [e, newId_toInt h] at below
  omega

/-- **Insertion** adds the new row under the next id. -/
theorem find_insert (t : Table S) (h : t.HasRoom) (change : S.Change) (i : Int32) :
    (t.insert h change).find i
      = if i = t.newId then some (change.1 (S.blank t.newId)) else t.find i := by
  have id : S.id (change.1 (S.blank t.newId)) = t.newId := by rw [change.2, S.id_blank]
  rw [find, insert_rows, List.find?_append, ← find]
  split_ifs with hi
  · subst hi
    rw [find_newId h]
    simp [id]
  · have : t.newId ≠ i := fun e => hi e.symm
    cases t.find i <;> simp [id, this]

/-- **Update** changes what is found under the selected ids. -/
theorem find_update (t : Table S) (selected : Int32 → Bool) (change : S.Change) (i : Int32) :
    (t.update selected change).find i
      = if selected i then (t.find i).map change.1 else t.find i := by
  rw [find, find, update_rows]
  induction t.rows with
  | nil => simp
  | cons r rows ih =>
      by_cases hr : S.id r = i
      · subst hr
        by_cases hs : selected (S.id r) <;> simp [hs, change.2]
      · have : S.id (if selected (S.id r) then change.1 r else r) ≠ i := by
          split_ifs
          · rwa [change.2]
          · exact hr
        simp only [List.map_cons, List.find?_cons, hr, this, decide_false]
        exact ih

/-- **Deletion** removes what is found under the selected ids. -/
theorem find_delete (t : Table S) (selected : Int32 → Bool) (i : Int32) :
    (t.delete selected).find i = if selected i then none else t.find i := by
  rw [find, delete_rows, List.find?_filter, find]
  split_ifs with hs
  · rw [List.find?_eq_none]
    intro r _ h
    simp only [decide_eq_true_eq, Bool.not_eq_true'] at h
    rw [h.2, hs] at h
    exact absurd h.1 (by decide)
  · congr 1
    funext r
    by_cases hr : S.id r = i
    · subst hr
      simp [hs]
    · simp [hr]

/-- Updating rows to what they are already changes nothing. -/
lemma update_eq_self {t : Table S} {selected : Int32 → Bool} {change : S.Change}
    (h : ∀ i r, selected i → t.find i = some r → change.1 r = r) :
    t.update selected change = t := by
  refine Table.ext ?_ rfl
  rw [update_rows]
  conv_rhs => rw [← List.map_id t.rows]
  refine List.map_congr_left fun r hr => ?_
  split_ifs with hs
  · exact h (S.id r) r hs (find_of_mem hr)
  · rfl

/-- Deleting no row changes nothing. -/
lemma delete_eq_self {t : Table S} {selected : Int32 → Bool}
    (h : ∀ i, selected i → t.find i = none) : t.delete selected = t := by
  refine Table.ext ?_ rfl
  rw [delete_rows, List.filter_eq_self]
  intro r hr
  by_contra hs
  have := h (S.id r) (by simpa using hs)
  rw [find_of_mem hr] at this
  exact absurd this (by simp)

end Table

/-! ## Executing a statement on a table -/

/-- Which ids compare equal to a value.  `keyOf` is the integer that the database makes of a text
when it compares an integer column with it. -/
def selects (keyOf : List Char → Option Int32) (v : Value) (i : Int32) : Bool :=
  match v with
  | .null => false
  | .number n => i.toInt = n
  | .text s => keyOf s = some i

namespace Schema

variable (S : Schema Row)

/-- Assigning the columns one after the other. -/
def setAll : List (Name × Value) → Option S.Change
  | [] => some ⟨fun r => r, fun _ => rfl⟩
  | (c, v) :: rest => (S.set c v).bind fun f => (setAll rest).map fun g =>
      ⟨g.1 ∘ f.1, fun r => by rw [Function.comp_apply, g.2, f.2]⟩

/-- The assignments of an `INSERT`: values by position, in the given columns or in the order of
the table.  A `NULL` for the key column asks for the next id and assigns nothing. -/
def insertAssigns (columns : Option (List Name)) (values : List Value) :
    Option (List (Name × Value)) :=
  let cs := columns.getD S.columns
  if cs.length = values.length then
    some ((cs.zip values).filter fun a => a ≠ (S.idColumn, .null))
  else none

end Schema

namespace Table

variable {S : Schema Row}

/-- `INSERT`. -/
def insertValues (t : Table S) (columns : Option (List Name)) (values : List Value) :
    Option (Table S) :=
  (S.insertAssigns columns values).bind fun assigns =>
    (S.setAll assigns).bind fun change =>
      if h : t.HasRoom then some (t.insert h change) else none

/-- `UPDATE` of the rows that a condition on the key column selects. -/
def updateWhere (t : Table S) (keyOf : List Char → Option Int32) (assigns : List (Name × Value))
    (key : Name) (operand : Operand) : Option (Table S) :=
  if key = S.idColumn then (S.setAll assigns).map (t.update (selects keyOf operand.value))
  else none

/-- `DELETE` of the rows that a condition on the key column selects. -/
def deleteWhere (t : Table S) (keyOf : List Char → Option Int32) (key : Name)
    (operand : Operand) : Option (Table S) :=
  if key = S.idColumn then some (t.delete (selects keyOf operand.value)) else none

/-- An `INSERT` draws one id. -/
lemma next_insertValues {t u : Table S} {columns : Option (List Name)} {values : List Value}
    (h : t.insertValues columns values = some u) : u.next = t.next + 1 := by
  simp only [insertValues, Option.bind_eq_some_iff] at h
  obtain ⟨assigns, -, change, -, h⟩ := h
  split_ifs at h
  obtain rfl := Option.some.inj h
  rfl

lemma next_updateWhere {t u : Table S} {keyOf : List Char → Option Int32}
    {assigns : List (Name × Value)} {key : Name} {operand : Operand}
    (h : t.updateWhere keyOf assigns key operand = some u) : u.next = t.next := by
  simp only [updateWhere] at h
  split_ifs at h
  obtain ⟨change, -, rfl⟩ := Option.map_eq_some_iff.mp h
  rfl

lemma next_deleteWhere {t u : Table S} {keyOf : List Char → Option Int32} {key : Name}
    {operand : Operand} (h : t.deleteWhere keyOf key operand = some u) : u.next = t.next := by
  simp only [deleteWhere] at h
  split_ifs at h
  obtain rfl := Option.some.inj h
  rfl

end Table

end Sql
