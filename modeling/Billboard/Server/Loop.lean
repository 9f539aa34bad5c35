import Billboard.Server.Serve

/-!
# The request loop of the server

`Server.main` reads a tag, switches on it, reads the payload of the case and serves the request, for
ever.  A read blocks until an item has arrived, so the loop is cut at its reads: `Main.read` is what
happens from the return of one read to the call of the next.

The only exception caught is `EOFException`; the loop then starts over, wherever in a request it
was.  Every other exception leaves `main`.
-/

namespace Billboard

open Java

/-! ## Reading items -/

/-- `ois.readUTF()` on the items that are left.  At the end of the stream, and at an object, where
the data of this kind has ended, it throws `EOFException` and consumes nothing. -/
def readUTF : List Item → Except Throwable Text × List Item
  | .utf s :: rest => (.ok s, rest)
  | stream => (.error .eof, stream)

/-- `ois.readObject()`.  At data of the other kind it throws `OptionalDataException`. -/
def readObject : List Item → Except Throwable Payload × List Item
  | .object p :: rest => (.ok p, rest)
  | .utf s :: rest => (.error .optionalData, .utf s :: rest)
  | [] => (.error .eof, [])

/-! ## The switch -/

/-- The cases that read an object. -/
inductive Case
  | addBillboard
  | addView
  | delete
  | editTable
  deriving DecidableEq

def Case.tag : Case → Text
  | .addBillboard => "addBillboard".toList
  | .addView => "addView".toList
  | .delete => "delete".toList
  | .editTable => "editTable".toList

/-- The cast of the object to the class of the case, `none` for a `ClassCastException`. -/
def Case.cast : Case → Payload → Option Request
  | .addBillboard, .add o2 => some (.addBillboard o2)
  | .addView, .add o3 => some (.addView o3)
  | .delete, .delete deleteData => some (.delete deleteData)
  | .editTable, .edit editData => some (.editTable editData)
  | _, _ => none

inductive Branch
  | showTable
  | reads (c : Case)
  | noCase
  deriving DecidableEq

/-- `switch(requestType)`, which has no default case. -/
def switchOn (requestType : Text) : Branch :=
  if requestType = "addBillboard".toList then .reads .addBillboard
  else if requestType = "addView".toList then .reads .addView
  else if requestType = "showTable".toList then .showTable
  else if requestType = "delete".toList then .reads .delete
  else if requestType = "editTable".toList then .reads .editTable
  else .noCase

lemma switchOn_showTable : switchOn Request.showTable.tag = .showTable := by decide +kernel

lemma switchOn_tag (c : Case) : switchOn c.tag = .reads c := by
  cases c <;> decide +kernel

lemma tag_injective {c c' : Case} (h : c.tag = c'.tag) : c = c' := by
  have := switchOn_tag c
  rw [h, switchOn_tag] at this
  exact (Branch.reads.inj this).symm

lemma tag_ne_showTable (c : Case) : c.tag ≠ Request.showTable.tag := fun h => by
  have := switchOn_tag c
  rw [h, switchOn_showTable] at this
  exact absurd this (by simp)

/-- A request is `showTable`, or its items are the tag of a case and an object of its class. -/
lemma request_shape (r : Request) :
    r = .showTable
      ∨ ∃ (c : Case) (p : Payload), r.items = [.utf c.tag, .object p] ∧ c.cast p = some r := by
  cases r with
  | addBillboard a => exact .inr ⟨.addBillboard, .add a, rfl, rfl⟩
  | addView a => exact .inr ⟨.addView, .add a, rfl, rfl⟩
  | showTable => exact .inl rfl
  | delete d => exact .inr ⟨.delete, .delete d, rfl, rfl⟩
  | editTable e => exact .inr ⟨.editTable, .edit e, rfl, rfl⟩

/-- No request's items are a proper beginning of another's. -/
lemma items_append_inj {r r' : Request} {xs ys : List Item}
    (h : r.items ++ xs = r'.items ++ ys) : r = r' ∧ xs = ys := by
  rcases request_shape r with rfl | ⟨c, p, shape, cast⟩ <;>
    rcases request_shape r' with rfl | ⟨c', p', shape', cast'⟩
  · exact ⟨rfl, List.append_cancel_left h⟩
  · rw [shape'] at h
    exact absurd (Item.utf.inj (List.cons.inj h).1).symm (tag_ne_showTable c')
  · rw [shape] at h
    exact absurd (Item.utf.inj (List.cons.inj h).1) (tag_ne_showTable c)
  · rw [shape, shape'] at h
    obtain ⟨tag, rest⟩ := List.cons.inj h
    obtain ⟨object, later⟩ := List.cons.inj rest
    obtain rfl := tag_injective (Item.utf.inj tag)
    obtain rfl := Item.object.inj object
    exact ⟨Option.some.inj (cast.symm.trans cast'), later⟩

/-- The requests of a stream are determined by its items. -/
lemma flatMap_items_injective :
    Function.Injective fun requests : List Request => requests.flatMap Request.items := by
  intro rs rs' h
  induction rs generalizing rs' with
  | nil =>
      cases rs' with
      | nil => rfl
      | cons r' rs' => exact absurd h (by simp [Request.items])
  | cons r rs ih =>
      cases rs' with
      | nil => exact absurd h (by simp [Request.items])
      | cons r' rs' =>
          simp only [List.flatMap_cons] at h
          obtain ⟨rfl, later⟩ := items_append_inj h
          rw [ih later]

/-! ## The loop -/

/-- Where `main` stands. -/
inductive Position
  | readTag
  | readPayload (c : Case)
  | ended (t : Throwable)
  deriving DecidableEq

/-- `catch (EOFException e)` and the next iteration. -/
def Position.caught : Throwable → Position
  | .eof => .readTag
  | t => .ended t

/-- The server in its loop, with the requests it has completed. -/
structure Main (B : Backend) where
  server : Server B
  position : Position
  served : List Request

variable {B : Backend}

/-- Serving a request once it has been read. -/
def Main.serve (f : Faults) (main : Main B) (r : Request) : Main B :=
  match (Billboard.serve f r).run main.server with
  | .ok _ server => ⟨server, .readTag, main.served ++ [r]⟩
  | .error t server => ⟨server, .caught t, main.served⟩

/-- What the return of one read leads to, and the items that are then left on the stream. -/
def Main.read (f : Faults) (main : Main B) (stream : List Item) : Main B × List Item :=
  match main.position with
  | .readTag =>
      match readUTF stream with
      | (.error t, rest) => ({ main with position := .caught t }, rest)
      | (.ok requestType, rest) =>
          match switchOn requestType with
          | .showTable => (main.serve f .showTable, rest)
          | .reads c => ({ main with position := .readPayload c }, rest)
          | .noCase => (main, rest)
  | .readPayload c =>
      match readObject stream with
      | (.error t, rest) => ({ main with position := .caught t }, rest)
      | (.ok p, rest) =>
          match c.cast p with
          | some r => (main.serve f r, rest)
          | none => ({ main with position := .caught .classCast }, rest)
  | .ended _ => (main, stream)

/-! ## Reading the items of a request -/

/-- Serving a request none of whose calls is made to fail completes it, or leaves `main` by an
`SQLException`. -/
lemma serve_none (main : Main B) (r : Request) :
    (main.serve Faults.none r).position = .ended .sql
      ∨ (main.serve Faults.none r).position = .readTag
        ∧ (main.serve Faults.none r).served = main.served ++ [r]
        ∧ Logged r main.server (main.serve Faults.none r).server := by
  rcases run_serve_none r main.server with ⟨s', run, logged⟩ | ⟨s', run⟩
  · exact .inr ⟨by simp only [Main.serve, run], by simp only [Main.serve, run],
      by simpa only [Main.serve, run] using logged⟩
  · exact .inl (by simp only [Main.serve, run, Position.caught])

lemma read_showTable {main : Main B} (f : Faults) (rest : List Item)
    (position : main.position = .readTag) :
    main.read f (.utf Request.showTable.tag :: rest) = (main.serve f .showTable, rest) := by
  simp only [Main.read, position, readUTF, switchOn_showTable]

lemma read_tag {main : Main B} (f : Faults) (c : Case) (rest : List Item)
    (position : main.position = .readTag) :
    main.read f (.utf c.tag :: rest) = ({ main with position := .readPayload c }, rest) := by
  simp only [Main.read, position, readUTF, switchOn_tag]

lemma read_payload {main : Main B} (f : Faults) {c : Case} {p : Payload} {r : Request}
    (rest : List Item) (position : main.position = .readPayload c) (cast : c.cast p = some r) :
    main.read f (.object p :: rest) = (main.serve f r, rest) := by
  simp only [Main.read, position, readObject, cast]

/-- At the end of the stream a read takes the loop back to reading a tag. -/
lemma read_end {main : Main B} (f : Faults) (running : ∀ t, main.position ≠ .ended t) :
    main.read f [] = ({ main with position := .readTag }, []) := by
  cases position : main.position with
  | readTag => simp only [Main.read, position, readUTF, Position.caught]
  | readPayload c => simp only [Main.read, position, readObject, Position.caught]
  | ended t => exact absurd position (running t)

end Billboard
