import Billboard.Library.JavaText
import Mathlib.Algebra.GroupWithZero.Nat
import Mathlib.Data.Fin.VecNotation

/-!
# What client and server exchange

The serialisable classes `Add`, `Edit`, `Delete` and `dataArray`, the five requests made of them,
and the items of the object stream that carry a request: its tag, written with `writeUTF`, and its
payload, written with `writeObject`.
-/

namespace Billboard

open Java

/-! ## Objects -/

/-- The `java.lang.Object` values that the program puts into arrays and tables: references to
strings and integers, and the `java.sql.Time` values of the schedule by their text. -/
inductive JObject
  | null
  | str (s : Text)
  | int (k : Int32)
  | time (s : Text)
  deriving DecidableEq

/-- `String.valueOf(o)`, which is what `"…" + o` inserts. -/
def JObject.text : JObject → Text
  | .null => "null".toList
  | .str s => s
  | .int k => decimal k
  | .time s => s

/-! ## Payloads -/

/-- `Add.java`: four texts.  `addBillboard` sends name, message, information and url,
`addView` sends id, date, start time and end time. -/
structure Add where
  query1 : Text
  query2 : Text
  query3 : Text
  query4 : Text
  deriving DecidableEq

/-- `Edit.java`: an id and four texts. -/
structure Edit where
  id : Int32
  query1 : Text
  query2 : Text
  query3 : Text
  query4 : Text
  deriving DecidableEq

/-- `Delete.java`: an id. -/
structure Delete where
  billboardID : Int32
  deriving DecidableEq

/-- `Add.getVal`. -/
def Add.getVal (a : Add) : Fin 4 → JObject :=
  ![.str a.query1, .str a.query2, .str a.query3, .str a.query4]

/-- `Edit.getVal`. -/
def Edit.getVal (e : Edit) : Fin 5 → JObject :=
  ![.int e.id, .str e.query1, .str e.query2, .str e.query3, .str e.query4]

/-- `Delete.getVal`. -/
def Delete.getVal (d : Delete) : Fin 1 → JObject :=
  ![.int d.billboardID]

/-- A row of the displayed table: its eight columns. -/
abbrev TableRow := Fin 8 → JObject

/-- So that columns can be written as numerals. -/
instance columnCount_neZero : NeZero 8 := ⟨Nat.succ_ne_zero 7⟩

/-- `dataArray.java`: the table that `showTable` replies with. -/
structure DataArray where
  data : List TableRow

/-! ## Requests -/

/-- A complete request. -/
inductive Request
  | addBillboard (o2 : Add)
  | addView (o3 : Add)
  | showTable
  | delete (deleteData : Delete)
  | editTable (editData : Edit)
  deriving DecidableEq

/-- An object on the client-to-server stream. -/
inductive Payload
  | add (a : Add)
  | edit (e : Edit)
  | delete (d : Delete)
  deriving DecidableEq

/-- An item of the client-to-server stream. -/
inductive Item
  | utf (s : Text)
  | object (p : Payload)
  deriving DecidableEq

/-- The tag the server switches on. -/
def Request.tag : Request → Text
  | .addBillboard _ => "addBillboard".toList
  | .addView _ => "addView".toList
  | .showTable => "showTable".toList
  | .delete _ => "delete".toList
  | .editTable _ => "editTable".toList

def Request.payload : Request → Option Payload
  | .addBillboard a => some (.add a)
  | .addView a => some (.add a)
  | .showTable => none
  | .delete d => some (.delete d)
  | .editTable e => some (.edit e)

/-- The items of a complete request. -/
def Request.items (r : Request) : List Item :=
  .utf r.tag :: (r.payload.map Item.object).toList

/-- The fields of a request that hold free text. -/
def Request.texts : Request → List Text
  | .addBillboard a => [a.query1, a.query2, a.query3, a.query4]
  | .addView a => [a.query1, a.query2, a.query3, a.query4]
  | .showTable => []
  | .delete _ => []
  | .editTable e => [e.query1, e.query2, e.query3, e.query4]

/-- No text of the request contains a single quote or a backslash. -/
def Request.Plain (r : Request) : Prop :=
  ∀ f ∈ r.texts, '\'' ∉ f ∧ '\\' ∉ f

instance (r : Request) : Decidable r.Plain :=
  inferInstanceAs (Decidable (∀ f ∈ r.texts, '\'' ∉ f ∧ '\\' ∉ f))

end Billboard
