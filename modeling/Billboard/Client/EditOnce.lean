import Billboard.Client.FailedSend
import Billboard.Client.Fragments
import Billboard.Library.Runs

/-!
# How often an edit is sent

A press of Update clears the form, and an empty form sends nothing: a second press finds no integer
in it.  Only where the row at `rowToEdit` has gone does an exception keep the form filled.

* **`updates_bounded`** — in every run in which the row that an Update would overwrite is displayed,
  the window writes at most one `Edit` for each press of Edit and each time the id is typed,
  however often Update is pressed and whichever writes fail.
-/

namespace Billboard

open Java Runs

/-- The item is an `Edit`. -/
def Item.isEdit : Item → Bool
  | .object (.edit _) => true
  | _ => false

/-- How many of them the window has written. -/
def Client.edits (c : Client) : ℕ :=
  c.sent.countP Item.isEdit

/-- Whether a press of Update would send one. -/
def Client.pending (c : Client) : ℕ :=
  if (parseInt (c.text .editBbID)).isSome then 1 else 0

/-- The events that can fill the id of the form. -/
def Event.fills : Event → ℕ
  | .press .edit _ => 1
  | .type .editBbID _ => 1
  | _ => 0

def Steps (c : Client) (e : Event) (c' : Client) : Prop :=
  c' = c.step e

/-- At an Update that finds an integer in the form, the row at `rowToEdit` is displayed. -/
def RowDisplayed (c : Client) : Event → Prop
  | .press .update _ => parseInt (c.text .editBbID) ≠ none →
      TableModel.row? c.table2.rows c.rowToEdit ≠ none
  | _ => True

/-! ## What an event leaves of the form -/

lemma pending_le_one (c : Client) : c.pending ≤ 1 := by
  rw [Client.pending]
  split <;> simp

lemma pending_congr {c c' : Client} (same : c'.text .editBbID = c.text .editBbID) :
    c'.pending = c.pending := by
  rw [Client.pending, Client.pending, same]

/-- The id of the form. -/
def Client.formID (c : Client) : Text :=
  c.text .editBbID

lemma keeps_formID_getText (area : TextArea) : Act.Keeps Client.formID (getText area) := by
  refine .bind .get fun c => ?_
  exact .bind (.call _ _) fun _ => .pure _

lemma keeps_formID_setText {area : TextArea} (other : area ≠ .editBbID) (s : Text) :
    Act.Keeps Client.formID (setText area s) := by
  refine .bind (.call _ _) fun _ => .modify fun c => ?_
  show Function.update c.text area s .editBbID = c.text .editBbID
  rw [Function.update_of_ne (Ne.symm other)]

lemma keeps_formID_writeUTF (fails : Write → Bool) (s : Text) :
    Act.Keeps Client.formID (writeUTF fails s) := by
  refine .bind (.call _ _) fun _ => ?_
  exact .bind (.modify fun _ => rfl) fun _ => .call _ _

lemma keeps_formID_writeObject (fails : Write → Bool) (p : Payload) :
    Act.Keeps Client.formID (writeObject fails p) := by
  refine .bind (.call _ _) fun _ => ?_
  exact .bind (.modify fun _ => rfl) fun _ => .call _ _

lemma keeps_formID_deleteButton1 (fails : Write → Bool) :
    Act.Keeps Client.formID (deleteButton1 fails) := by
  refine .catching ?_
  refine .bind (keeps_formID_writeUTF _ _) fun _ => ?_
  refine .bind .get fun c => ?_
  refine .bind (.orThrow _ _) fun k => ?_
  refine .bind (keeps_formID_writeObject _ _) fun _ => ?_
  refine .bind .get fun c => ?_
  split
  · exact .bind .get fun _ => keeps_removeRow _ (fun _ _ => rfl) (fun _ _ => rfl) fun _ _ => rfl
  · exact .pure _

lemma keeps_formID_scheduleSubmitButton (fails : Write → Bool) :
    Act.Keeps Client.formID (scheduleSubmitButton fails) := by
  refine .catching ?_
  refine .bind (keeps_formID_getText _) fun id => ?_
  refine .bind (keeps_formID_getText _) fun date => ?_
  refine .bind (keeps_formID_getText _) fun startTime => ?_
  refine .bind (keeps_formID_getText _) fun endTime => ?_
  refine .bind (keeps_formID_writeUTF _ _) fun _ => ?_
  refine .bind (keeps_formID_writeObject _ _) fun _ => ?_
  refine .bind (keeps_formID_setText (by decide) _) fun _ => ?_
  refine .bind (keeps_formID_setText (by decide) _) fun _ => ?_
  refine .bind (keeps_formID_setText (by decide) _) fun _ => ?_
  refine .bind (keeps_formID_setText (by decide) _) fun _ => ?_
  exact .modify fun _ => rfl

/-! ## What an event sends -/

lemma countP_beginning {items whole : List Item} (h : items <+: whole) :
    items.countP Item.isEdit ≤ whole.countP Item.isEdit :=
  h.sublist.countP_le

/-- An event that sends no `Edit`, and leaves the form or may fill it. -/
lemma budget_of_keeps {c c' : Client} {items : List Item} (sent : c'.sent = c.sent ++ items)
    (none_sent : items.countP Item.isEdit = 0) {credit : ℕ}
    (form : c'.formID = c.formID ∨ credit = 1) :
    c'.edits + c'.pending ≤ c.edits + c.pending + credit := by
  have edits : c'.edits = c.edits := by
    rw [Client.edits, sent, List.countP_append, none_sent]
    rfl
  rw [edits]
  rcases form with same | rfl
  · rw [pending_congr same]
    omega
  · have := pending_le_one c'
    omega

/-- An Update that finds its row leaves the form empty. -/
lemma formID_update {c : Client} {k : Int32} (id : parseInt (c.text .editBbID) = some k)
    (fails : Write → Bool) (displayed : TableModel.row? c.table2.rows c.rowToEdit ≠ none) :
    (c.step (.press .update fails)).formID = [] := by
  by_cases failed : ∃ w, fails w = true
  · obtain ⟨items, run⟩ := run_update_failed failed id
    rw [Client.step, Event.act, Button.listener, Act.after_eq_of_ok run]
    rfl
  · obtain rfl : fails = noFailure := by
      funext w
      exact Bool.eq_false_of_not_eq_true (not_exists.mp failed w)
    obtain ⟨r, row⟩ := Option.ne_none_iff_exists'.mp displayed
    rw [step_update id, row]
    rfl

lemma budget_update (c : Client) (fails : Write → Bool)
    (displayed : RowDisplayed c (.press .update fails)) :
    (c.step (.press .update fails)).edits + (c.step (.press .update fails)).pending
      ≤ c.edits + c.pending := by
  cases id : parseInt (c.text .editBbID) with
  | none => rw [step_update_nan id]
  | some k =>
      have displayed : TableModel.row? c.table2.rows c.rowToEdit ≠ none := displayed (by simp [id])
      obtain ⟨items, one, sent⟩ : ∃ items : List Item, items.countP Item.isEdit ≤ 1
          ∧ (c.step (.press .update fails)).sent = c.sent ++ items :=
        ⟨_, countP_beginning (posted_beginning fails _ _), sent_update id fails⟩
      have before : c.pending = 1 := by rw [Client.pending, id]; rfl
      have after : (c.step (.press .update fails)).pending = 0 := by
        rw [Client.pending, show (c.step (.press .update fails)).text .editBbID = [] from
          formID_update id fails displayed, parseInt_nil]
        rfl
      have edits : (c.step (.press .update fails)).edits
          = c.edits + items.countP Item.isEdit := by
        rw [Client.edits, sent, List.countP_append]
        rfl
      omega

/-- **One event** spends no more than its credit. -/
theorem budget_step (c : Client) (e : Event) (displayed : RowDisplayed c e) :
    (c.step e).edits + (c.step e).pending ≤ c.edits + c.pending + e.fills := by
  -- an event that succeeds whatever fails, and sends nothing
  have silent : e.Succeeds → c.outgoing e = [] → (c.step e).formID = c.formID ∨ e.fills = 1 →
      (c.step e).edits + (c.step e).pending ≤ c.edits + c.pending + e.fills := by
    intro succeeds nothing form
    exact budget_of_keeps (by rw [sent_step succeeds, nothing]) rfl form
  cases e with
  | select row =>
      refine silent trivial rfl (.inl ?_)
      refine Act.Keeps.bind (g := Client.formID) .get (fun c => ?_) c
      split
      · exact keeps_changeSelection _ (fun _ _ => rfl) (fun _ _ => rfl) fun _ _ => rfl
      · exact .pure _
  | clearSelection =>
      refine silent trivial rfl (.inl ?_)
      exact keeps_changeSelection (g := Client.formID) _ (fun _ _ => rfl) (fun _ _ => rfl)
        (fun _ _ => rfl) c
  | type area s =>
      refine silent trivial rfl ?_
      by_cases here : area = .editBbID
      · subst here
        exact .inr rfl
      · refine .inl (Act.Keeps.bind (g := Client.formID) .get (fun c => ?_) c)
        split
        · exact keeps_formID_setText here s
        · exact .pure _
  | editCell row column s =>
      refine silent trivial rfl (.inl ?_)
      refine Act.Keeps.bind (g := Client.formID) .get (fun c => ?_) c
      split
      · exact keeps_setValueAt _ _ _ fun _ _ => rfl
      · exact .pure _
  | arrangeColumns columns => exact silent trivial rfl (.inl rfl)
  | press button fails =>
      cases button with
      | delete =>
          refine budget_of_keeps (sent_delete fails c) (Nat.le_zero.mp ?_)
            (.inl (keeps_formID_deleteButton1 fails c))
          refine (countP_beginning (posted_beginning fails _ _)).trans ?_
          cases c.billboardID <;> rfl
      | edit =>
          have sent : (c.step (.press .edit fails)).sent = c.sent ++ [] := by
            rw [step_edit, List.append_nil]
            split <;> rfl
          exact budget_of_keeps sent rfl (.inr rfl)
      | update => exact budget_update c fails displayed
      | submit =>
          rw [step_submit]
          exact Nat.le_add_right _ _
      | scheduleSubmit =>
          refine budget_of_keeps (sent_scheduleSubmit fails c) (Nat.le_zero.mp ?_)
            (.inl (keeps_formID_scheduleSubmitButton fails c))
          exact countP_beginning (posted_beginning fails _ _)

/-- **An edit is sent once.**  In every run in which an Update with an integer in the form finds the
row at `rowToEdit`, whichever writes fail, the window has written at most as many `Edit`s as the
button Edit has been pressed and the id been typed. -/
theorem updates_bounded {reply : DataArray} {events : List Event} {c : Client}
    (run : Reaches Steps (Client.start reply) events c)
    (displayed : EveryStep Steps RowDisplayed (Client.start reply) events) :
    c.edits ≤ (events.map Event.fills).sum := by
  have step : ∀ c e c', Steps c e c' → RowDisplayed c e →
      c'.edits + c'.pending ≤ c.edits + c.pending + e.fills := by
    rintro c e _ rfl displayed
    exact budget_step c e displayed
  have spent := reaches_budget step displayed run
  have nothing : (Client.start reply).edits + (Client.start reply).pending = 0 := rfl
  omega

/-- Update is pressed twice: the edit has been sent once. -/
theorem updates_bounded_twice :
    ∃ c, Reaches Steps (Client.start twoRows)
        [.press .edit noFailure, .press .update noFailure, .press .update noFailure] c
      ∧ c.edits ≤ 1 := by
  obtain ⟨c, run⟩ : ∃ c, Reaches Steps (Client.start twoRows)
      [.press .edit noFailure, .press .update noFailure, .press .update noFailure] c :=
    ⟨_, _, rfl, _, rfl, _, rfl, rfl⟩
  refine ⟨c, run, updates_bounded run ?_⟩
  rw [everyStep_cons]
  refine ⟨fun _ _ => trivial, ?_⟩
  rintro _ rfl
  rw [everyStep_cons]
  refine ⟨fun _ _ _ missing => Option.some_ne_none _ missing, ?_⟩
  rintro _ rfl
  rw [everyStep_cons]
  exact ⟨fun _ _ filled => absurd rfl filled, fun _ _ => everyStep_nil _ _ _⟩

end Billboard
