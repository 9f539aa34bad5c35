import Billboard.Server.Progress

/-!
# Requests ahead of the server

Where only complete requests are sent, what the server has consumed of the stream, what is in flight
and what is yet to be written are the items of the requests it has not served.  `Consumed` says how
much of the current request it has taken up, by its position.

**`ahead_read`**: whichever database calls fail in it, a read takes up a part of the next request or
serves it, and leaves this so.
-/

namespace Billboard

open Java

variable {B : Backend}

/-! ## The current request -/

/-- The items of the current request that the server has consumed, by its position and what is
left of the stream: the tag while it waits for the payload, and also when the stream ended there
and it went back to reading a tag. -/
inductive Consumed : Position → Bool → List Item → List Item → Prop
  | atTag (closed : Bool) (inFlight : List Item) : Consumed .readTag closed inFlight []
  | inCase (c : Case) (closed : Bool) (inFlight : List Item) :
      Consumed (.readPayload c) closed inFlight [.utf c.tag]
  | cutOff (c : Case) : Consumed .readTag true [] [.utf c.tag]

namespace Consumed

variable {position : Position} {closed : Bool} {inFlight consumed : List Item}

/-- While the client has not closed, more items may arrive. -/
lemma write (h : Consumed position false inFlight consumed) (inFlight' : List Item) :
    Consumed position false inFlight' consumed := by
  cases h with
  | atTag => exact .atTag _ _
  | inCase c => exact .inCase _ _ _

lemma close (h : Consumed position closed inFlight consumed) :
    Consumed position true inFlight consumed := by
  cases h with
  | atTag => exact .atTag _ _
  | inCase c => exact .inCase _ _ _
  | cutOff c => exact .cutOff _

/-- Once the stream has ended, the loop goes back to reading a tag. -/
lemma ended (h : Consumed position true [] consumed) : Consumed .readTag true [] consumed := by
  cases h with
  | atTag => exact .atTag _ _
  | inCase c => exact .cutOff _
  | cutOff c => exact .cutOff _

/-- While items are in flight, what has been consumed fits the position. -/
lemma of_arrived {i : Item} (h : Consumed position closed (i :: inFlight) consumed) :
    position = .readTag ∧ consumed = []
      ∨ ∃ c, position = .readPayload c ∧ consumed = [.utf c.tag] := by
  cases h with
  | atTag => exact .inl ⟨rfl, rfl⟩
  | inCase c => exact .inr ⟨c, rfl, rfl⟩

lemma running (h : Consumed position closed inFlight consumed) (t : Throwable) :
    position ≠ .ended t := by
  cases h <;> simp

end Consumed

/-! ## A read -/

/-- The server has these requests ahead of it: their items are what it has consumed of the first
one, what is in flight and what is written later. -/
def Ahead (left : List Request) (closed : Bool) (inFlight later : List Item) (main : Main B) :
    Prop :=
  ∃ consumed, Consumed main.position closed inFlight consumed
    ∧ left.flatMap Request.items = consumed ++ (inFlight ++ later)

lemma Ahead.running {left : List Request} {closed : Bool} {inFlight later : List Item}
    {main : Main B} (ahead : Ahead left closed inFlight later main) (t : Throwable) :
    main.position ≠ .ended t := by
  obtain ⟨consumed, stands, -⟩ := ahead
  exact stands.running t

/-- **One read** takes the next item off the stream, if there is one, and serves the next request or
takes up a part of it and changes nothing else. -/
theorem ahead_read (f : Faults) {left : List Request} {closed : Bool} {inFlight later : List Item}
    {main : Main B} (ahead : Ahead left closed inFlight later main)
    (enabled : inFlight ≠ [] ∨ closed = true) :
    (∃ r left', left = r :: left' ∧ main.read f inFlight = (main.serve f r, inFlight.tail)
        ∧ left'.flatMap Request.items = inFlight.tail ++ later)
      ∨ ∃ position, main.read f inFlight = ({ main with position := position }, inFlight.tail)
        ∧ Ahead left closed inFlight.tail later { main with position := position } := by
  obtain ⟨consumed, stands, items⟩ := ahead
  cases inFlight with
  | nil =>
      obtain rfl : closed = true := by simpa using enabled
      rw [read_end f stands.running]
      exact .inr ⟨.readTag, rfl, consumed, stands.ended, items⟩
  | cons i rest =>
      rcases stands.of_arrived with ⟨position, rfl⟩ | ⟨c, position, rfl⟩
      · cases left with
        | nil => exact absurd items (by simp)
        | cons r left =>
            rcases request_shape r with rfl | ⟨c, p, shape, cast⟩
            · obtain ⟨rfl, tail⟩ := List.cons.inj items
              exact .inl ⟨.showTable, left, rfl, read_showTable f rest position, tail⟩
            · rw [List.flatMap_cons, shape] at items
              obtain ⟨rfl, tail⟩ := List.cons.inj items
              refine .inr ⟨.readPayload c, read_tag f c rest position, [.utf c.tag],
                .inCase c _ _, ?_⟩
              rw [List.flatMap_cons, shape]
              exact congrArg (Item.utf c.tag :: ·) tail
      · cases left with
        | nil => exact absurd items (by simp)
        | cons r left =>
            rcases request_shape r with rfl | ⟨c', p, shape, cast⟩
            · obtain ⟨same, -⟩ := List.cons.inj items
              exact absurd (Item.utf.inj same).symm (tag_ne_showTable c)
            · rw [List.flatMap_cons, shape] at items
              obtain ⟨same, tail⟩ := List.cons.inj items
              obtain ⟨rfl, later⟩ := List.cons.inj tail
              obtain rfl : c' = c := tag_injective (Item.utf.inj same)
              exact .inl ⟨r, left, rfl, read_payload f rest position cast, later⟩

end Billboard
