import Billboard.Client.Rows

/-!
# Sends that fail

A handler that sends a request makes four writes, and the first of them that fails throws an
`IOException`, which the handler catches.  Where its changes of the window stand inside the `try`,
none of them happens; `editUpdateButton` makes its last ones after it.

**`failed_send_unchanged_iff`**: when a write fails, the window is as before the press exactly
unless the press is one of Update that comes to its writes.
-/

namespace Billboard

open Java

/-! ## The writes -/

section

variable {fails : Write → Bool}

/-- A write that fails belongs to the tag, or the tag is written and it belongs to the payload. -/
lemma failed_cases (failed : ∃ w, fails w = true) :
    (fails .tag = true ∨ fails .flushTag = true) ∨
      (fails .tag = false ∧ fails .flushTag = false) ∧
        (fails .object = true ∨ fails .flushObject = true) := by
  obtain ⟨w, hw⟩ := failed
  cases tag : fails .tag with
  | true => exact .inl (.inl rfl)
  | false =>
      cases flushTag : fails .flushTag with
      | true => exact .inl (.inr rfl)
      | false =>
          refine .inr ⟨⟨rfl, rfl⟩, ?_⟩
          cases w with
          | tag => exact absurd (tag.symm.trans hw) (by simp)
          | flushTag => exact absurd (flushTag.symm.trans hw) (by simp)
          | object => exact .inl hw
          | flushObject => exact .inr hw

lemma run_writeUTF_failed (failed : fails .tag = true ∨ fails .flushTag = true) (s : Text)
    (c : Client) : ∃ items, (writeUTF fails s).run c = .error .io (c.writing items) := by
  cases tag : fails .tag with
  | true => exact ⟨[], by simp [writeUTF, tag, Client.writing]⟩
  | false =>
      have flushTag : fails .flushTag = true := by simpa [tag] using failed
      exact ⟨[.utf s], by simp [writeUTF, tag, flushTag, Client.writing]⟩

lemma run_writeObject_failed (failed : fails .object = true ∨ fails .flushObject = true)
    (p : Payload) (c : Client) :
    ∃ items, (writeObject fails p).run c = .error .io (c.writing items) := by
  cases object : fails .object with
  | true => exact ⟨[], by simp [writeObject, object, Client.writing]⟩
  | false =>
      have flushObject : fails .flushObject = true := by simpa [object] using failed
      exact ⟨[.object p], by simp [writeObject, object, flushObject, Client.writing]⟩

/-- What follows the writes does not run. -/
lemma run_send_failed (failed : ∃ w, fails w = true) (s : Text) (p : Payload) (c : Client) :
    ∃ items, ∀ rest : Act Client Unit,
      (do writeUTF fails s; writeObject fails p; rest).run c = .error .io (c.writing items) := by
  rcases failed_cases failed with tag | ⟨⟨tag, flushTag⟩, payload⟩
  · obtain ⟨items, run⟩ := run_writeUTF_failed tag s c
    exact ⟨items, fun rest => Act.run_bind_of_error run⟩
  · obtain ⟨items, run⟩ := run_writeObject_failed payload p (c.writing [.utf s])
    refine ⟨[.utf s] ++ items, fun rest => ?_⟩
    rw [Act.run_bind_of_ok (run_writeUTF_of_ok tag flushTag s c), Act.run_bind_of_error run,
      writing_writing]

/-! ## The handlers -/

/-- The schedule form stays as it is. -/
lemma run_scheduleSubmit_failed (failed : ∃ w, fails w = true) (c : Client) :
    ∃ items, (scheduleSubmitButton fails).run c = .ok () (c.writing items) := by
  obtain ⟨items, run⟩ := run_send_failed failed "addView".toList (.add c.addview) c
  refine ⟨items, Act.run_catching_of_caught (t := .io) ?_ rfl⟩
  rw [Act.run_bind_of_ok (run_getText rfl c), Act.run_bind_of_ok (run_getText rfl c),
    Act.run_bind_of_ok (run_getText rfl c), Act.run_bind_of_ok (run_getText rfl c)]
  exact run _

/-- No row is removed. -/
lemma run_delete_failed (failed : ∃ w, fails w = true) {c : Client} {b : Int32}
    (id : c.billboardID = some b) :
    ∃ items, (deleteButton1 fails).run c = .ok () (c.writing items) := by
  rcases failed_cases failed with tag | ⟨⟨tag, flushTag⟩, payload⟩
  · obtain ⟨items, run⟩ := run_writeUTF_failed tag "delete".toList c
    exact ⟨items, Act.run_catching_of_caught (Act.run_bind_of_error run) rfl⟩
  · obtain ⟨items, run⟩ :=
      run_writeObject_failed payload (.delete ⟨b⟩) (c.writing [.utf "delete".toList])
    refine ⟨[.utf "delete".toList] ++ items, Act.run_catching_of_caught (t := .io) ?_ rfl⟩
    have id : (c.writing [.utf "delete".toList]).billboardID = some b := id
    rw [Act.run_bind_of_ok (run_writeUTF_of_ok tag flushTag _ c),
      Act.run_bind_of_ok (Act.run_get _), id,
      Act.run_bind_of_ok (Act.run_orThrow_some _ _ _), Act.run_bind_of_error run, writing_writing]

/-- Without an id no payload is written, so at most the tag is. -/
lemma step_delete_nothing {c : Client} (id : c.billboardID = none) :
    ∃ items, c.step (.press .delete fails) = c.writing items := by
  rw [Client.step, Event.act, Button.listener, deleteButton1, Act.after_catching]
  by_cases tag : fails .tag = true ∨ fails .flushTag = true
  · obtain ⟨items, run⟩ := run_writeUTF_failed tag "delete".toList c
    exact ⟨items, Act.after_bind_of_error run⟩
  · obtain ⟨tag, flushTag⟩ : fails .tag = false ∧ fails .flushTag = false := by simpa using tag
    refine ⟨[.utf "delete".toList], ?_⟩
    rw [Act.after_bind_of_ok (run_writeUTF_of_ok tag flushTag _ c),
      Act.after_bind_of_ok (Act.run_get _),
      show (c.writing [.utf "delete".toList]).billboardID = none from id,
      Act.after_bind_of_error (Act.run_orThrow_none _ _)]

/-- Update goes on after the exception: it clears the form and announces success. -/
lemma run_update_failed (failed : ∃ w, fails w = true) {c : Client} {k : Int32}
    (id : parseInt (c.text .editBbID) = some k) :
    ∃ items, (editUpdateButton fails).run c = .ok () (c.writing items).dismissed := by
  obtain ⟨items, run⟩ := run_send_failed failed "editTable".toList (.edit (c.editData k)) c
  have run : (tryUpdate fails (c.editData k)).run c = .error .io (c.writing items) := run _
  refine ⟨items, ?_⟩
  rw [run_editUpdateButton id, Act.run_bind_of_ok (Act.run_catching_of_caught run rfl),
    run_dismissForm]

end

/-! ## The window -/

/-- The listener of the button sends a request. -/
def Button.Sends : Button → Prop
  | .edit => False
  | _ => True

/-- The table model, the form fields, `rowToEdit`, the selected tab and the number of success
messages are the same. -/
structure Client.Unchanged (c c' : Client) : Prop where
  rows : c'.table2.rows = c.table2.rows
  text : c'.text = c.text
  rowToEdit : c'.rowToEdit = c.rowToEdit
  selectedTab : c'.selectedTab = c.selectedTab
  successes : c'.successes = c.successes

lemma unchanged_refl (c : Client) : c.Unchanged c :=
  ⟨rfl, rfl, rfl, rfl, rfl⟩

lemma unchanged_writing (c : Client) (items : List Item) : c.Unchanged (c.writing items) :=
  ⟨rfl, rfl, rfl, rfl, rfl⟩

/-- **A failed send leaves the window as it was if and only if it is not one of Update**, where an
Update that finds no integer in the form ends before it sends. -/
theorem failed_send_unchanged_iff (c : Client) (button : Button) (sends : button.Sends)
    {fails : Write → Bool} (failed : ∃ w, fails w = true) :
    c.Unchanged (c.step (.press button fails))
      ↔ (button = .update → parseInt (c.text .editBbID) = none) := by
  cases button with
  | delete =>
      refine iff_of_true ?_ fun update => Button.noConfusion update
      cases id : c.billboardID with
      | none =>
          obtain ⟨items, step⟩ := @step_delete_nothing fails c id
          rw [step]
          exact unchanged_writing c items
      | some b =>
          obtain ⟨items, run⟩ := run_delete_failed failed id
          rw [Client.step, Event.act, Button.listener, Act.after_eq_of_ok run]
          exact unchanged_writing c items
  | edit => exact sends.elim
  | update =>
      cases id : parseInt (c.text .editBbID) with
      | none =>
          rw [step_update_nan id]
          exact iff_of_true (unchanged_refl c) fun _ => rfl
      | some k =>
          obtain ⟨items, run⟩ := run_update_failed failed id
          rw [Client.step, Event.act, Button.listener, Act.after_eq_of_ok run]
          refine iff_of_false ?_ fun never => absurd (never rfl) (by simp)
          intro unchanged
          exact absurd unchanged.successes (Nat.succ_ne_self c.successes)
  | submit =>
      rw [step_submit]
      exact iff_of_true (unchanged_refl c) fun update => Button.noConfusion update
  | scheduleSubmit =>
      obtain ⟨items, run⟩ := run_scheduleSubmit_failed failed c
      rw [Client.step, Event.act, Button.listener, Act.after_eq_of_ok run]
      exact iff_of_true (unchanged_writing c items) fun update => Button.noConfusion update

/-- The tag of a schedule cannot be written. -/
theorem failed_schedule_unchanged :
    (Client.start twoRows).Unchanged
      ((Client.start twoRows).step (.press .scheduleSubmit fun w => w = .tag)) :=
  (failed_send_unchanged_iff _ .scheduleSubmit trivial ⟨.tag, rfl⟩).mpr fun update =>
    Button.noConfusion update

/-- The id 1 is typed and the tag of its update cannot be written: success is announced. -/
theorem failed_update_announced :
    ¬ ((Client.start twoRows).step (.type .editBbID (decimal 1))).Unchanged
        (((Client.start twoRows).step (.type .editBbID (decimal 1))).step
          (.press .update fun w => w = .tag)) := by
  intro unchanged
  have typed : ((Client.start twoRows).step (.type .editBbID (decimal 1))).text .editBbID
      = decimal 1 := rfl
  obtain ⟨items, run⟩ := @run_update_failed (fun w => w = .tag) ⟨.tag, rfl⟩ _ 1
    ((congrArg parseInt typed).trans (parseInt_decimal 1))
  have same := unchanged.successes
  rw [Client.step, Event.act, Button.listener, Act.after_eq_of_ok run] at same
  exact absurd same (Nat.succ_ne_self 0)

end Billboard
