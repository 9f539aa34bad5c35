import Billboard.Client.Effects
import Billboard.Library.Runs
import Billboard.Server.Loop

/-!
# The items the window sends

A handler that sends a request writes its tag, flushes, and writes its payload.  Whatever throws in
between leaves a tag without its payload on the stream.

**`sent_complete_iff`**: along a run of events the items sent form complete requests, and meet the
reads of the server, exactly when Delete is never pressed before a row has been selected.
-/

namespace Billboard

open Java Runs

/-! ## What an event sends -/

/-- What an event writes when every write succeeds. -/
def Client.outgoing (c : Client) : Event → List Item
  | .press .delete _ => match c.billboardID with
    | some k => (Request.delete ⟨k⟩).items
    | none => [.utf "delete".toList]
  | .press .update _ => match parseInt (c.text .editBbID) with
    | some k => (Request.editTable (c.editData k)).items
    | none => []
  | .press .scheduleSubmit _ => (Request.addView c.addview).items
  | _ => []

/-- Every write of the event succeeds. -/
def Event.Succeeds : Event → Prop
  | .press _ fails => ∀ w, fails w = false
  | _ => True

lemma keeps_sent_removeRow (row : ℤ) : Act.Keeps Client.sent (removeRow row) :=
  keeps_removeRow row (fun _ _ => rfl) (fun _ _ => rfl) fun _ _ => rfl

lemma keeps_sent_changeSelection (selection : Option ℕ) :
    Act.Keeps Client.sent (changeSelection selection) :=
  keeps_changeSelection selection (fun _ _ => rfl) (fun _ _ => rfl) fun _ _ => rfl

theorem sent_step {c : Client} {e : Event} (succeeds : e.Succeeds) :
    (c.step e).sent = c.sent ++ c.outgoing e := by
  cases e with
  | select row =>
      have keeps : Act.Keeps Client.sent (Event.select row).act := by
        refine .bind .get fun c => ?_
        split
        · exact keeps_sent_changeSelection _
        · exact .pure _
      exact (keeps c).trans (List.append_nil _).symm
  | clearSelection =>
      exact (keeps_sent_changeSelection none c).trans (List.append_nil _).symm
  | type area s =>
      have keeps : Act.Keeps Client.sent (Event.type area s).act := by
        refine .bind .get fun c => ?_
        split
        · exact keeps_setText _ _ fun _ _ => rfl
        · exact .pure _
      exact (keeps c).trans (List.append_nil _).symm
  | editCell row column s =>
      have keeps : Act.Keeps Client.sent (Event.editCell row column s).act := by
        refine .bind .get fun c => ?_
        split
        · exact keeps_setValueAt _ _ _ fun _ _ => rfl
        · exact .pure _
      exact (keeps c).trans (List.append_nil _).symm
  | arrangeColumns columns => exact (List.append_nil _).symm
  | press button fails =>
      obtain rfl : fails = noFailure := funext succeeds
      cases button with
      | delete =>
          cases h : c.billboardID with
          | none => simp [step_delete_none h, Client.outgoing, h, Client.writing]
          | some k =>
              rw [step_delete_some h, keeps_sent_removeRow]
              simp [Client.outgoing, h, Client.writing]
      | edit =>
          rw [step_edit]
          split
          · exact (List.append_nil _).symm
          · exact (List.append_nil _).symm
      | update =>
          cases h : parseInt (c.text .editBbID) with
          | none => simp [step_update_nan h, Client.outgoing, h]
          | some k =>
              rw [step_update h, Client.outgoing, h]
              split <;> rfl
      | submit => rw [step_submit]; exact (List.append_nil _).symm
      | scheduleSubmit => rw [step_scheduleSubmit]; rfl

/-! ## Complete requests -/

/-- The items are those of complete requests, one after the other. -/
def Complete (items : List Item) : Prop :=
  ∃ requests : List Request, items = requests.flatMap Request.items

lemma complete_nil : Complete [] :=
  ⟨[], rfl⟩

lemma complete_items (r : Request) : Complete r.items :=
  ⟨[r], by simp⟩

lemma Complete.append {xs ys : List Item} (hx : Complete xs) (hy : Complete ys) :
    Complete (xs ++ ys) := by
  obtain ⟨rs, rfl⟩ := hx
  obtain ⟨rs', rfl⟩ := hy
  exact ⟨rs ++ rs', by rw [List.flatMap_append]⟩

/-- What follows complete requests in complete requests is complete. -/
lemma complete_of_append (rs : List Request) {ys : List Item}
    (h : Complete (rs.flatMap Request.items ++ ys)) : Complete ys := by
  induction rs with
  | nil => exact h
  | cons r rs ih =>
      obtain ⟨rs', h⟩ := h
      cases rs' with
      | nil =>
          rcases request_shape r with rfl | ⟨c, p, shape, -⟩
          · exact absurd h (by simp [Request.items])
          · exact absurd h (by simp [shape])
      | cons r' rs' =>
          rw [List.flatMap_cons, List.flatMap_cons, List.append_assoc] at h
          exact ih ⟨rs', (items_append_inj h).2⟩

/-- The tag of a request with a payload is not complete. -/
lemma not_complete_tag (c : Case) : ¬ Complete [.utf c.tag] := by
  rintro ⟨rs, h⟩
  cases rs with
  | nil => exact absurd h (by simp)
  | cons r rs =>
      rcases request_shape r with rfl | ⟨c', p, shape, -⟩
      · exact absurd (Item.utf.inj (List.cons.inj h).1) (tag_ne_showTable c)
      · rw [List.flatMap_cons, shape] at h
        exact absurd (List.cons.inj h).2 (by simp)

/-! ## The reads of the server -/

/-- The position after an item of the kind that the read expects there: at a tag one of the tags
of the switch, in a case an object of its class. -/
def Position.expects : Position → Item → Option Position
  | .readTag, .utf requestType => match switchOn requestType with
    | .showTable => some .readTag
    | .reads c => some (.readPayload c)
    | .noCase => none
  | .readPayload c, .object p => if (c.cast p).isSome then some .readTag else none
  | _, _ => none

/-- The position after items each of which was expected. -/
def Position.expectsAll (position : Position) (items : List Item) : Option Position :=
  items.foldlM Position.expects position

lemma expectsAll_append (position : Position) (xs ys : List Item) :
    position.expectsAll (xs ++ ys) = (position.expectsAll xs).bind fun p => p.expectsAll ys := by
  simp only [Position.expectsAll, List.foldlM_append]
  rfl

lemma expectsAll_items (r : Request) : Position.readTag.expectsAll r.items = some .readTag := by
  rcases request_shape r with rfl | ⟨c, p, shape, cast⟩
  · simp [Position.expectsAll, Request.items, Request.payload, Position.expects,
      switchOn_showTable]
  · simp [Position.expectsAll, shape, Position.expects, switchOn_tag, cast]

/-- Every read of the server on complete requests meets an item of the kind it expects, and the
last one leaves it at the head of its loop. -/
theorem expectsAll_complete {items : List Item} (h : Complete items) :
    Position.readTag.expectsAll items = some .readTag := by
  obtain ⟨rs, rfl⟩ := h
  induction rs with
  | nil => rfl
  | cons r rs ih =>
      rw [List.flatMap_cons, expectsAll_append, expectsAll_items]
      exact ih

/-- An expected item is consumed, and takes the loop to the next position unless serving the
request fails. -/
lemma read_of_expects {B : Backend} {main : Main B} {i : Item} (rest : List Item)
    {position : Position} (h : main.position.expects i = some position) :
    (main.read Faults.none (i :: rest)).2 = rest
      ∧ ((main.read Faults.none (i :: rest)).1.position = position
        ∨ (main.read Faults.none (i :: rest)).1.position = .ended .sql) := by
  cases hp : main.position with
  | readTag =>
      cases i with
      | object p => simp [hp, Position.expects] at h
      | utf s =>
          simp only [hp, Position.expects] at h
          simp only [Main.read, hp, readUTF]
          cases branch : switchOn s with
          | showTable =>
              rw [branch] at h
              obtain rfl := Option.some.inj h
              refine ⟨rfl, ?_⟩
              rcases serve_none main .showTable with failed | ⟨served, -⟩
              · exact .inr failed
              · exact .inl served
          | reads c =>
              rw [branch] at h
              obtain rfl := Option.some.inj h
              exact ⟨rfl, .inl rfl⟩
          | noCase =>
              rw [branch] at h
              exact absurd h (by simp)
  | readPayload c =>
      cases i with
      | utf s => simp [hp, Position.expects] at h
      | object p =>
          simp only [hp, Position.expects] at h
          split_ifs at h with cast
          obtain ⟨r, cast⟩ := Option.isSome_iff_exists.mp cast
          obtain rfl := Option.some.inj h
          rw [read_payload Faults.none rest hp cast]
          refine ⟨rfl, ?_⟩
          rcases serve_none main r with failed | ⟨served, -⟩
          · exact .inr failed
          · exact .inl served
  | ended t => simp [hp, Position.expects] at h

/-- The server reads items one after the other. -/
def Main.readItems {B : Backend} (main : Main B) (items : List Item) : Main B :=
  items.foldl (fun main i => (main.read Faults.none [i]).1) main

lemma readItems_ended {B : Backend} {main : Main B} {t : Throwable}
    (h : main.position = .ended t) (items : List Item) : main.readItems items = main := by
  induction items with
  | nil => rfl
  | cons i items ih =>
      have stays : main.read Faults.none [i] = (main, [i]) := by simp only [Main.read, h]
      rw [Main.readItems, List.foldl_cons, stays]
      exact ih

/-- **Reading expected items** takes the loop along their positions, unless serving a request
fails. -/
theorem readItems_of_expectsAll {B : Backend} {main : Main B} {items : List Item}
    {position : Position} (h : main.position.expectsAll items = some position) :
    (main.readItems items).position = position
      ∨ (main.readItems items).position = .ended .sql := by
  induction items generalizing main with
  | nil => exact .inl (Option.some.inj h)
  | cons i items ih =>
      rw [Position.expectsAll, List.foldlM_cons] at h
      obtain ⟨next, expected, later⟩ := Option.bind_eq_some_iff.mp h
      have step : main.readItems (i :: items)
          = Main.readItems (main.read Faults.none [i]).1 items := rfl
      rcases (read_of_expects [] expected).2 with here | failed
      · rw [step]
        exact ih (by rw [here]; exact later)
      · rw [step, readItems_ended failed]
        exact .inr failed

/-- After complete requests the server is at the head of its loop, unless a statement failed. -/
theorem readItems_complete {B : Backend} {main : Main B} (start : main.position = .readTag)
    {items : List Item} (h : Complete items) :
    (main.readItems items).position = .readTag
      ∨ (main.readItems items).position = .ended .sql :=
  readItems_of_expectsAll (by rw [start]; exact expectsAll_complete h)

/-! ## Runs of events -/

/-- The step relation of the window while every write succeeds. -/
def EventStep (c : Client) (e : Event) (c' : Client) : Prop :=
  e.Succeeds ∧ c' = c.step e

/-- What has been sent are complete requests, each item of the kind the server reads. -/
def Client.InStep (c : Client) : Prop :=
  Complete c.sent ∧ Position.readTag.expectsAll c.sent = some .readTag

/-- The event is not a press of Delete before a row has been selected. -/
def RowSelected (c : Client) : Event → Prop
  | .press .delete _ => c.billboardID ≠ none
  | _ => True

lemma inStep_iff (c : Client) : c.InStep ↔ Complete c.sent :=
  ⟨And.left, fun h => ⟨h, expectsAll_complete h⟩⟩

/-- What an event sends is complete exactly if it is no such press. -/
lemma complete_outgoing_iff (c : Client) (e : Event) :
    Complete (c.outgoing e) ↔ RowSelected c e := by
  cases e with
  | press button fails =>
      cases button with
      | delete =>
          simp only [Client.outgoing, RowSelected]
          cases c.billboardID with
          | none => exact iff_of_false (not_complete_tag .delete) (by simp)
          | some k => exact iff_of_true (complete_items (.delete ⟨k⟩)) (by simp)
      | update =>
          simp only [Client.outgoing, RowSelected, iff_true]
          split
          · exact complete_items _
          · exact complete_nil
      | scheduleSubmit => exact iff_of_true (complete_items _) trivial
      | edit => exact iff_of_true complete_nil trivial
      | submit => exact iff_of_true complete_nil trivial
  | select row => exact iff_of_true complete_nil trivial
  | clearSelection => exact iff_of_true complete_nil trivial
  | type area s => exact iff_of_true complete_nil trivial
  | editCell row column s => exact iff_of_true complete_nil trivial
  | arrangeColumns columns => exact iff_of_true complete_nil trivial

/-- **The items sent form complete requests in every state of a run of events, and every read of
the server meets the kind of item it expects, if and only if Delete is pressed in no state of the
run in which `billboardID` is still `null`.** -/
theorem sent_complete_iff (reply : DataArray) (events : List Event) :
    Always EventStep Client.InStep (Client.start reply) events
      ↔ EveryStep EventStep RowSelected (Client.start reply) events := by
  refine always_iff_everyStep (I := fun _ => True) ?_ (fun _ _ _ _ _ _ _ => trivial) trivial
    ((inStep_iff _).mpr (complete_items .showTable))
  rintro c e c' - before ⟨succeeds, rfl⟩
  obtain ⟨⟨rs, sent⟩, -⟩ := before
  rw [inStep_iff, sent_step succeeds, ← complete_outgoing_iff]
  constructor
  · intro after
    rw [sent] at after
    exact complete_of_append rs after
  · intro outgoing
    exact Complete.append ⟨rs, sent⟩ outgoing

/-- Delete is pressed at once: the tag is sent alone. -/
theorem delete_sends_tag_only :
    ¬ Always EventStep Client.InStep (Client.start ⟨[]⟩) [.press .delete noFailure] := by
  intro always
  have step : EventStep (Client.start ⟨[]⟩) (.press .delete noFailure)
      ((Client.start ⟨[]⟩).step (.press .delete noFailure)) := ⟨fun _ => rfl, rfl⟩
  obtain ⟨complete, -⟩ := always _ [] _ (List.append_nil _).symm ⟨_, step, rfl⟩
  rw [step_delete_none rfl] at complete
  exact not_complete_tag .delete (complete_of_append [.showTable] complete)

end Billboard
