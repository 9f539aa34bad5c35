import Billboard.Client.Stream

/-!
# What failing writes leave on the stream

A handler whose writes fail stops in between, and so does Delete without a selected row.

**`fragment_writes`**: what an event leaves on the stream is nothing, a tag alone, or a complete
request, whichever of its writes fail.
-/

namespace Billboard

open Java Runs

/-! ## Writes -/

/-- What is left on the stream of a tag and the payload behind it, if there is one. -/
def posted (fails : Write → Bool) (s : Text) (p : Option Payload) : List Item :=
  if fails .tag then []
  else .utf s :: if fails .flushTag || fails .object then [] else (p.map Item.object).toList

/-- It is a beginning of both. -/
lemma posted_beginning (fails : Write → Bool) (s : Text) (p : Option Payload) :
    posted fails s p <+: .utf s :: (p.map Item.object).toList := by
  rw [posted]
  split_ifs
  · exact List.nil_prefix
  · exact List.cons_prefix_cons.mpr ⟨rfl, List.nil_prefix⟩
  · exact List.prefix_refl _

/-- Where the payload of a request can be written, its tag is left alone exactly if flushing it
fails. -/
lemma posted_cases {fails : Write → Bool} (object : fails .object = false) {s : Text} {p : Payload}
    {r : Request} (items : r.items = [.utf s, .object p]) :
    (fails .tag = false ∧ fails .flushTag = true) ∧ posted fails s (some p) = [.utf s]
      ∨ ¬ (fails .tag = false ∧ fails .flushTag = true) ∧ Complete (posted fails s (some p)) := by
  rw [posted, object]
  cases fails .tag with
  | true => exact .inr ⟨by simp, complete_nil⟩
  | false =>
      cases fails .flushTag with
      | true => exact .inl ⟨by simp, rfl⟩
      | false =>
          refine .inr ⟨by simp, ?_⟩
          have whole := complete_items r
          rwa [items] at whole

/-- Either writing the tag ends the handler, or what follows goes on from there. -/
lemma after_writeUTF (fails : Write → Bool) (s : Text) (rest : Unit → Act Client Unit)
    (c : Client) :
    (writeUTF fails s >>= rest).after c
      = if fails .tag then c
        else if fails .flushTag then c.writing [.utf s]
        else (rest ()).after (c.writing [.utf s]) := by
  cases tag : fails .tag with
  | true => simp [Act.after, writeUTF, tag]
  | false =>
      cases flushTag : fails .flushTag with
      | true => simp [Act.after, writeUTF, tag, flushTag, Client.writing]
      | false => exact Act.after_bind_of_ok (run_writeUTF_of_ok tag flushTag s c)

/-- The payload is written or not, and what follows writes nothing. -/
lemma sent_writeObject (fails : Write → Bool) (p : Payload) (rest : Unit → Act Client Unit)
    (keeps : Act.Keeps Client.sent (rest ())) (c : Client) :
    ((writeObject fails p >>= rest).after c).sent
      = c.sent ++ if fails .object then [] else [.object p] := by
  cases object : fails .object with
  | true => simp [Act.after, writeObject, object]
  | false =>
      cases flushObject : fails .flushObject with
      | true => simp [Act.after, writeObject, object, flushObject]
      | false =>
          have run : (writeObject fails p).run c = .ok () (c.writing [.object p]) := by
            simp [writeObject, object, flushObject, Client.writing]
          rw [Act.after_bind_of_ok run, keeps]
          rfl

/-- A handler that writes a tag, and behind it a payload or nothing. -/
lemma sent_send {fails : Write → Bool} {s : Text} {p : Option Payload}
    {rest : Unit → Act Client Unit} {c : Client}
    (payload : ((rest ()).after (c.writing [.utf s])).sent
      = (c.writing [.utf s]).sent
        ++ if fails .object then [] else (p.map Item.object).toList) :
    ((writeUTF fails s >>= rest).after c).sent = c.sent ++ posted fails s p := by
  rw [after_writeUTF, posted]
  cases fails .tag with
  | true => exact (List.append_nil _).symm
  | false =>
      cases fails .flushTag with
      | true => rfl
      | false =>
          simp only [Bool.false_eq_true, if_false, Bool.false_or, payload]
          simp only [Client.writing, List.append_assoc, List.singleton_append]

/-! ## Handlers -/

lemma keeps_sent_setText (area : TextArea) (s : Text) : Act.Keeps Client.sent (setText area s) :=
  keeps_setText area s fun _ _ => rfl

lemma keeps_sent_setValueAt (value : JObject) (row : ℤ) (column : Fin 8) :
    Act.Keeps Client.sent (setValueAt value row column) :=
  keeps_setValueAt value row column fun _ _ => rfl

lemma keeps_sent_dismissForm : Act.Keeps Client.sent dismissForm := by
  refine .bind (keeps_sent_setText _ _) fun _ => ?_
  refine .bind (keeps_sent_setText _ _) fun _ => ?_
  refine .bind (keeps_sent_setText _ _) fun _ => ?_
  refine .bind (keeps_sent_setText _ _) fun _ => ?_
  refine .bind (keeps_sent_setText _ _) fun _ => ?_
  exact .bind (.modify fun _ => rfl) fun _ => .modify fun _ => rfl

/-- The schedule form. -/
lemma sent_scheduleSubmit (fails : Write → Bool) (c : Client) :
    (c.step (.press .scheduleSubmit fails)).sent
      = c.sent ++ posted fails Case.addView.tag (some (.add c.addview)) := by
  have keeps : Act.Keeps Client.sent (do
      setText .scheduleID []
      setText .sceduledDate []
      setText .scheduleStartTime []
      setText .scheduleEndTime []
      showSuccess) := by
    refine .bind (keeps_sent_setText _ _) fun _ => ?_
    refine .bind (keeps_sent_setText _ _) fun _ => ?_
    refine .bind (keeps_sent_setText _ _) fun _ => ?_
    refine .bind (keeps_sent_setText _ _) fun _ => ?_
    exact .modify fun _ => rfl
  rw [Client.step, Event.act, Button.listener, scheduleSubmitButton, Act.after_catching,
    Act.after_bind_of_ok (run_getText rfl c), Act.after_bind_of_ok (run_getText rfl c),
    Act.after_bind_of_ok (run_getText rfl c), Act.after_bind_of_ok (run_getText rfl c)]
  exact sent_send (sent_writeObject fails (.add c.addview) _ keeps _)

/-- Update, if the id in the form is an integer. -/
lemma sent_update {c : Client} {k : Int32} (id : parseInt (c.text .editBbID) = some k)
    (fails : Write → Bool) :
    (c.step (.press .update fails)).sent
      = c.sent ++ posted fails Case.editTable.tag (some (.edit (c.editData k))) := by
  have keeps : Act.Keeps Client.sent (do
      let rowToEdit := (← get).rowToEdit
      setValueAt (.int (c.editData k).id) rowToEdit 0
      setValueAt (.str (c.editData k).query1) rowToEdit 1
      setValueAt (.str (c.editData k).query2) rowToEdit 2
      setValueAt (.str (c.editData k).query3) rowToEdit 3
      setValueAt (.str (c.editData k).query4) rowToEdit 4
      modify fun c => { c with rowToEdit := -1 }) := by
    refine .bind .get fun c => ?_
    refine .bind (keeps_sent_setValueAt _ _ _) fun _ => ?_
    refine .bind (keeps_sent_setValueAt _ _ _) fun _ => ?_
    refine .bind (keeps_sent_setValueAt _ _ _) fun _ => ?_
    refine .bind (keeps_sent_setValueAt _ _ _) fun _ => ?_
    refine .bind (keeps_sent_setValueAt _ _ _) fun _ => ?_
    exact .modify fun _ => rfl
  have sent : ((tryUpdate fails (c.editData k)).after c).sent
      = c.sent ++ posted fails Case.editTable.tag (some (.edit (c.editData k))) :=
    sent_send (sent_writeObject fails (.edit (c.editData k)) _ keeps _)
  have here := (congrArg Client.sent (Act.after_catching Throwable.isIOException
    (tryUpdate fails (c.editData k)) c)).trans sent
  rw [Client.step, Event.act, Button.listener, Act.after_congr (run_editUpdateButton id fails)]
  refine Act.after_bind_invariant (P := fun c' : Client => c'.sent = _) here ?_
  intro _ c' run
  rw [keeps_sent_dismissForm, ← Act.after_eq_of_ok run, here]

/-- Delete, which has a payload if an id is remembered. -/
lemma sent_delete (fails : Write → Bool) (c : Client) :
    (c.step (.press .delete fails)).sent
      = c.sent ++ posted fails Case.delete.tag (c.billboardID.map fun k => .delete ⟨k⟩) := by
  rw [Client.step, Event.act, Button.listener, deleteButton1, Act.after_catching]
  refine sent_send ?_
  rw [Act.after_bind_of_ok (Act.run_get _)]
  cases id : c.billboardID with
  | none =>
      rw [show (c.writing [.utf "delete".toList]).billboardID = none from id,
        Act.after_bind_of_error (Act.run_orThrow_none _ _)]
      exact ((congrArg _ (ite_self _)).trans (List.append_nil _)).symm
  | some k =>
      have keeps : Act.Keeps Client.sent (do
          if (← get).billboardID ≠ none then
            removeRow (← get).selectedRow) := by
        refine .bind .get fun c => ?_
        split
        · exact .bind .get fun _ => keeps_sent_removeRow _
        · exact .pure _
      rw [show (c.writing [.utf "delete".toList]).billboardID = some k from id,
        Act.after_bind_of_ok (Act.run_orThrow_some _ _ _)]
      exact sent_writeObject fails (.delete ⟨k⟩) _ keeps _

/-! ## Fragments -/

/-- What one event can leave on the stream. -/
inductive Fragment : List Item → Prop
  | nothing : Fragment []
  | tag (c : Case) : Fragment [.utf c.tag]
  | request (r : Request) : Fragment r.items

/-- A tag with the payload of its case, or without one. -/
lemma fragment_posted (fails : Write → Bool) (k : Case) {p : Option Payload}
    (fits : ∀ q, p = some q → ∃ r : Request, r.items = [.utf k.tag, .object q]) :
    Fragment (posted fails k.tag p) := by
  rw [posted]
  split_ifs
  · exact .nothing
  · exact .tag k
  · cases p with
    | none => exact .tag k
    | some q =>
        obtain ⟨r, items⟩ := fits q rfl
        exact items ▸ .request r

/-- What an event has written to the stream. -/
def Client.writes (c : Client) (e : Event) : List Item :=
  (c.step e).sent.drop c.sent.length

lemma writes_eq {c : Client} {e : Event} {items : List Item}
    (h : (c.step e).sent = c.sent ++ items) : c.writes e = items := by
  rw [Client.writes, h, List.drop_left]

/-- **Every event** appends a fragment. -/
theorem fragment_writes (c : Client) (e : Event) :
    Fragment (c.writes e) ∧ (c.step e).sent = c.sent ++ c.writes e := by
  have of_append : ∀ items, Fragment items → (c.step e).sent = c.sent ++ items →
      Fragment (c.writes e) ∧ (c.step e).sent = c.sent ++ c.writes e := by
    intro items fragment sent
    rw [writes_eq sent]
    exact ⟨fragment, sent⟩
  -- an event that writes nothing succeeds
  have silent : e.Succeeds → c.outgoing e = [] →
      Fragment (c.writes e) ∧ (c.step e).sent = c.sent ++ c.writes e := by
    intro succeeds nothing
    refine of_append [] .nothing ?_
    rw [sent_step succeeds, nothing]
  cases e with
  | select row => exact silent trivial rfl
  | clearSelection => exact silent trivial rfl
  | type area s => exact silent trivial rfl
  | editCell row column s => exact silent trivial rfl
  | arrangeColumns columns => exact silent trivial rfl
  | press button fails =>
      cases button with
      | delete =>
          refine of_append _ (fragment_posted fails .delete fun q h => ?_) (sent_delete fails c)
          obtain ⟨k, -, rfl⟩ := Option.map_eq_some_iff.mp h
          exact ⟨.delete ⟨k⟩, rfl⟩
      | edit =>
          refine of_append [] .nothing ?_
          rw [step_edit, List.append_nil]
          split <;> rfl
      | update =>
          cases id : parseInt (c.text .editBbID) with
          | none => exact of_append [] .nothing (by rw [step_update_nan id, List.append_nil])
          | some k =>
              refine of_append _ (fragment_posted fails .editTable ?_) (sent_update id fails)
              rintro _ ⟨rfl⟩
              exact ⟨.editTable (c.editData k), rfl⟩
      | submit => exact of_append [] .nothing (by rw [step_submit, List.append_nil])
      | scheduleSubmit =>
          refine of_append _ (fragment_posted fails .addView ?_) (sent_scheduleSubmit fails c)
          rintro _ ⟨rfl⟩
          exact ⟨.addView c.addview, rfl⟩

/-- A fragment that is not empty starts with a tag. -/
lemma head_of_fragment {items : List Item} (h : Fragment items) (written : items ≠ []) :
    ∃ s rest, items = .utf s :: rest := by
  cases h with
  | nothing => exact absurd rfl written
  | tag c => exact ⟨c.tag, [], rfl⟩
  | request r => exact ⟨r.tag, _, rfl⟩

end Billboard
