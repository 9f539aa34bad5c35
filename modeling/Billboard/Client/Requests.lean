import Billboard.Client.Fragments

/-!
# What a window asks for

* `request_of_writes` — whichever writes fail, what an event writes to the end is the request that
  it was asked for.
* `sends_split` — a stream that starts with the items of some requests is the stream of these and of
  further ones: tags alone, which failed events leave between them, are never taken for a part of a
  request.
* `misleads_iff` — if no payload failed to be written, the server cannot read all of a stream
  exactly where an event left a tag alone and a later one wrote something.
-/

namespace Billboard

open Java Runs

/-- The window after some events. -/
def Client.run (c : Client) (events : List Event) : Client :=
  events.foldl Client.step c

lemma run_snoc (c : Client) (events : List Event) (e : Event) :
    c.run (events ++ [e]) = (c.run events).step e := by
  rw [Client.run, List.foldl_append]
  rfl

/-! ## What an event asks for -/

/-- The request that an event sends. -/
def Client.request (c : Client) : Event → Option Request
  | .press .delete _ => c.billboardID.map fun k => .delete ⟨k⟩
  | .press .update _ => (parseInt (c.text .editBbID)).map fun k => .editTable (c.editData k)
  | .press .scheduleSubmit _ => some (.addView c.addview)
  | _ => none

/-- The requests that some events send, one after the other. -/
def Client.asks (c : Client) : List Event → List Request
  | [] => []
  | e :: events => (c.request e).toList ++ (c.step e).asks events

lemma asks_snoc (c : Client) (events : List Event) (e : Event) :
    c.asks (events ++ [e]) = c.asks events ++ ((c.run events).request e).toList := by
  induction events generalizing c with
  | nil => simp [Client.asks, Client.run]
  | cons e' events ih =>
      rw [List.cons_append, Client.asks, Client.asks, ih, List.append_assoc]
      rfl

/-- What is sent are the items of this request, unless Delete is pressed without an id. -/
lemma outgoing_request {c : Client} {e : Event} (selected : RowSelected c e) :
    c.outgoing e = (c.request e).toList.flatMap Request.items := by
  cases e with
  | press button fails =>
      cases button with
      | delete =>
          obtain ⟨k, id⟩ := Option.ne_none_iff_exists'.mp selected
          simp [Client.outgoing, Client.request, id]
      | update =>
          cases id : parseInt (c.text .editBbID) <;> simp [Client.outgoing, Client.request, id]
      | scheduleSubmit => simp [Client.outgoing, Client.request]
      | edit => rfl
      | submit => rfl
  | _ => rfl

/-- A request of a kind that the window sends once it is open. -/
def Request.OfWindow : Request → Prop
  | .addBillboard _ => False
  | .showTable => False
  | _ => True

lemma ofWindow_request {c : Client} {e : Event} {r : Request} (h : c.request e = some r) :
    r.OfWindow := by
  cases e with
  | press button fails =>
      cases button with
      | delete =>
          obtain ⟨k, -, rfl⟩ := Option.map_eq_some_iff.mp h
          trivial
      | update =>
          obtain ⟨k, -, rfl⟩ := Option.map_eq_some_iff.mp h
          trivial
      | scheduleSubmit =>
          obtain rfl := Option.some.inj h
          trivial
      | edit => cases h
      | submit => cases h
  | _ => cases h

lemma ofWindow_asks {c : Client} {events : List Event} {r : Request} (h : r ∈ c.asks events) :
    r.OfWindow := by
  induction events generalizing c with
  | nil => cases h
  | cons e events ih =>
      rcases List.mem_append.mp h with now | later
      · exact ofWindow_request (Option.mem_toList.mp now)
      · exact ih later

/-! ## What is written to the end -/

/-- The request that an event writes to the end. -/
def Client.sends (c : Client) (e : Event) : Option Request :=
  (c.request e).filter fun r => c.writes e = r.items

/-- The requests that some events write to the end, one after the other. -/
def Client.sendsAll (c : Client) : List Event → List Request
  | [] => []
  | e :: events => (c.sends e).toList ++ (c.step e).sendsAll events

lemma sendsAll_snoc (c : Client) (events : List Event) (e : Event) :
    c.sendsAll (events ++ [e]) = c.sendsAll events ++ ((c.run events).sends e).toList := by
  induction events generalizing c with
  | nil => simp [Client.sendsAll, Client.run]
  | cons e' events ih =>
      rw [List.cons_append, Client.sendsAll, Client.sendsAll, ih, List.append_assoc]
      rfl

/-- All of them have been asked for. -/
lemma sendsAll_sublist (c : Client) (events : List Event) :
    (c.sendsAll events).Sublist (c.asks events) := by
  induction events generalizing c with
  | nil => exact .slnil
  | cons e events ih =>
      refine .append ?_ (ih (c.step e))
      rw [Client.sends]
      cases c.request e with
      | none => exact .slnil
      | some r =>
          rw [Option.filter_some]
          split
          · exact .refl _
          · exact List.nil_sublist _

/-- Items of a stream: those of the requests, with tags alone between them. -/
inductive Sends : List Item → List Request → Prop
  | nothing : Sends [] []
  | tag {items : List Item} {rs : List Request} (k : Case) (later : Sends items rs) :
      Sends (.utf k.tag :: items) rs
  | request {items : List Item} {rs : List Request} (r : Request) (later : Sends items rs) :
      Sends (r.items ++ items) (r :: rs)

lemma Sends.append {items items' : List Item} {rs rs' : List Request} (h : Sends items rs)
    (h' : Sends items' rs') : Sends (items ++ items') (rs ++ rs') := by
  induction h with
  | nothing => exact h'
  | tag k later ih => exact .tag k ih
  | request r later ih =>
      rw [List.append_assoc]
      exact .request r ih

/-- The items of each request are on the stream. -/
lemma Sends.mem {items : List Item} {rs : List Request} (h : Sends items rs) {r : Request}
    (hr : r ∈ rs) {i : Item} (hi : i ∈ r.items) : i ∈ items := by
  induction h with
  | nothing => cases hr
  | tag k later ih => exact List.mem_cons_of_mem _ (ih hr)
  | request r' later ih =>
      rcases List.mem_cons.mp hr with rfl | hr
      · exact List.mem_append_left _ hi
      · exact List.mem_append_right _ (ih hr)

/-- The first item is a tag. -/
lemma Sends.head {i : Item} {rest : List Item} {rs : List Request} (h : Sends (i :: rest) rs) :
    ∃ x, i = .utf x := by
  generalize whole : i :: rest = items at h
  cases h with
  | nothing => cases whole
  | tag k later => exact ⟨k.tag, (List.cons.inj whole).1⟩
  | request r later => exact ⟨r.tag, (List.cons.inj whole).1⟩

/-- The next item of a stream is the first of the next request, or a tag alone. -/
lemma Sends.of_cons {i : Item} {rest : List Item} {rs : List Request} (h : Sends (i :: rest) rs) :
    (∃ k : Case, i = .utf k.tag ∧ Sends rest rs)
      ∨ (i = .utf Request.showTable.tag ∧ ∃ left, rs = .showTable :: left ∧ Sends rest left)
      ∨ ∃ (c : Case) (p : Payload) (r : Request) (left : List Request) (rest' : List Item),
        i = .utf c.tag ∧ rest = .object p :: rest' ∧ r.items = [.utf c.tag, .object p]
          ∧ c.cast p = some r ∧ rs = r :: left ∧ Sends rest' left := by
  generalize whole : i :: rest = items at h
  cases h with
  | nothing => cases whole
  | tag k later =>
      obtain ⟨rfl, rfl⟩ := List.cons.inj whole
      exact .inl ⟨k, rfl, later⟩
  | @request items left r later =>
      rcases request_shape r with rfl | ⟨c, p, shape, cast⟩
      · obtain ⟨rfl, rfl⟩ := List.cons.inj whole
        exact .inr (.inl ⟨rfl, left, rfl, later⟩)
      · rw [shape] at whole
        obtain ⟨rfl, rfl⟩ := List.cons.inj whole
        exact .inr (.inr ⟨c, p, r, left, items, rfl, rfl, shape, cast, rfl, later⟩)

/-- **A tag alone is never taken for a part of a request.** -/
lemma sends_split {rs sent : List Request} {rest : List Item}
    (h : Sends (rs.flatMap Request.items ++ rest) sent) :
    ∃ left, sent = rs ++ left ∧ Sends rest left := by
  induction rs generalizing sent with
  | nil => exact ⟨sent, rfl, h⟩
  | cons r rs ih =>
      rw [List.flatMap_cons, List.append_assoc] at h
      rcases request_shape r with rfl | ⟨c, p, shape, cast⟩
      · rcases Sends.of_cons h with
          ⟨k, same, -⟩ | ⟨-, left, rfl, later⟩ | ⟨c, p, r, left, rest', same, -⟩
        · exact absurd (Item.utf.inj same).symm (tag_ne_showTable k)
        · obtain ⟨left', rfl, later'⟩ := ih later
          exact ⟨left', rfl, later'⟩
        · exact absurd (Item.utf.inj same).symm (tag_ne_showTable c)
      · rw [shape] at h
        rcases Sends.of_cons h with
          ⟨k, -, later⟩ | ⟨same, -⟩ |
          ⟨c', p', r', left, rest', same, object, -, cast', rfl, later⟩
        · obtain ⟨x, clash⟩ := later.head
          cases clash
        · exact absurd (Item.utf.inj same) (tag_ne_showTable c)
        · obtain rfl := tag_injective (Item.utf.inj same)
          obtain ⟨here, rfl⟩ := List.cons.inj object
          obtain rfl := Item.object.inj here
          obtain rfl : r = r' := Option.some.inj (cast.symm.trans cast')
          obtain ⟨left', rfl, later'⟩ := ih later
          exact ⟨left', rfl, later'⟩

/-! ## What an event writes -/

/-- No request is a beginning of another one. -/
lemma eq_of_beginning {r r' : Request} (h : r.items <+: r'.items) : r = r' := by
  obtain ⟨rest, split⟩ := h
  exact (items_append_inj (split.trans (List.append_nil _).symm)).1

/-- Nor of the tag of one that has a payload. -/
lemma not_beginning_tag (r : Request) (k : Case) : ¬ r.items <+: [.utf k.tag] := by
  intro h
  rcases request_shape r with rfl | ⟨c, p, shape, -⟩
  · obtain ⟨rest, split⟩ := h
    exact tag_ne_showTable k (Item.utf.inj (List.cons.inj split).1).symm
  · rw [shape] at h
    have short := h.length_le
    simp at short

/-- What an event writes to the end is what it was asked for. -/
lemma request_of_writes {c : Client} {e : Event} {r : Request} (h : c.writes e = r.items) :
    c.request e = some r := by
  have written : c.writes e ≠ [] := by
    rw [h]
    exact List.cons_ne_nil _ _
  have silent : (c.step e).sent = c.sent ++ [] → c.request e = some r := fun sent =>
    absurd (writes_eq sent) written
  cases e with
  | select row => exact silent (sent_step trivial)
  | clearSelection => exact silent (sent_step trivial)
  | type area s => exact silent (sent_step trivial)
  | editCell row column s => exact silent (sent_step trivial)
  | arrangeColumns columns => exact silent (sent_step trivial)
  | press button fails =>
      cases button with
      | delete =>
          have cut := posted_beginning fails Case.delete.tag
            (c.billboardID.map fun k => .delete ⟨k⟩)
          rw [← writes_eq (sent_delete fails c), h] at cut
          rw [Client.request]
          cases id : c.billboardID with
          | none =>
              rw [id] at cut
              exact absurd cut (not_beginning_tag r .delete)
          | some k =>
              rw [id] at cut
              exact congrArg some (eq_of_beginning cut : r = .delete ⟨k⟩).symm
      | edit => exact silent (by rw [step_edit, List.append_nil]; split <;> rfl)
      | update =>
          cases id : parseInt (c.text .editBbID) with
          | none => exact silent (by rw [step_update_nan id, List.append_nil])
          | some k =>
              have cut := posted_beginning fails Case.editTable.tag (some (.edit (c.editData k)))
              rw [← writes_eq (sent_update id fails), h] at cut
              rw [Client.request, id]
              exact congrArg some (eq_of_beginning cut : r = .editTable (c.editData k)).symm
      | submit => exact silent (by rw [step_submit, List.append_nil])
      | scheduleSubmit =>
          have cut := posted_beginning fails Case.addView.tag (some (.add c.addview))
          rw [← writes_eq (sent_scheduleSubmit fails c), h] at cut
          exact congrArg some (eq_of_beginning cut : r = .addView c.addview).symm

/-- **An event** writes the request it sends, or at most a tag. -/
lemma sends_writes (c : Client) (e : Event) : Sends (c.writes e) (c.sends e).toList := by
  by_cases whole : ∃ r : Request, c.writes e = r.items
  · obtain ⟨r, items⟩ := whole
    have sends : c.sends e = some r := by
      rw [Client.sends, request_of_writes items]
      exact if_pos (decide_eq_true items)
    rw [items, sends]
    simpa using Sends.request r .nothing
  · have sends : c.sends e = none :=
      Option.filter_eq_none_iff.mpr fun r _ items => whole ⟨r, of_decide_eq_true items⟩
    have fragment := (fragment_writes c e).1
    rw [sends]
    generalize written : c.writes e = items at fragment
    cases fragment with
    | nothing => exact .nothing
    | tag k => exact .tag k .nothing
    | request r => exact absurd ⟨r, written⟩ whole

/-- What a window has written. -/
lemma sends_run (reply : DataArray) (events : List Event) :
    Sends ((Client.start reply).run events).sent
      (.showTable :: (Client.start reply).sendsAll events) := by
  induction events using List.reverseRecOn with
  | nil => exact .request .showTable .nothing
  | append_singleton events e ih =>
      rw [run_snoc, (fragment_writes _ e).2, sendsAll_snoc]
      exact ih.append (sends_writes _ e)

/-! ## Tags without payload -/

lemma expects_payload_utf (c : Case) (s : Text) :
    (Position.readPayload c).expects (.utf s) = none := rfl

lemma expectsAll_cons (position : Position) (i : Item) (items : List Item) :
    position.expectsAll (i :: items)
      = (position.expects i).bind fun next => next.expectsAll items := by
  rw [Position.expectsAll, List.foldlM_cons]
  rfl

/-- Complete requests, and a tag alone behind them. -/
def EndsInTag (items : List Item) : Prop :=
  ∃ (rs : List Request) (k : Case), items = rs.flatMap Request.items ++ [.utf k.tag]

/-- Writing the payload of the event is not made to fail. -/
def Event.WritesObject : Event → Prop
  | .press _ fails => fails .object = false
  | _ => True

/-- The event leaves a tag alone: flushing it fails, or Delete has no id to send behind it. -/
def Client.Strands (c : Client) : Event → Prop
  | .press .delete fails =>
      fails .tag = false ∧ (fails .flushTag = true ∨ c.billboardID = none)
  | .press .update fails =>
      parseInt (c.text .editBbID) ≠ none ∧ fails .tag = false ∧ fails .flushTag = true
  | .press .scheduleSubmit fails => fails .tag = false ∧ fails .flushTag = true
  | _ => False

/-- One of the events left a tag alone. -/
def Stranded (c : Client) : List Event → Prop :=
  SomeEvent fun before e => (c.run before).Strands e

/-- An event left a tag alone, and a later one wrote something. -/
def Misleads (c : Client) : List Event → Prop :=
  SomeEvent fun before e => Stranded c before ∧ (c.run before).writes e ≠ []

/-- **An event** that leaves no tag alone writes a complete request, or nothing. -/
lemma writes_cases {e : Event} (object : e.WritesObject) (c : Client) :
    c.Strands e ∧ (∃ k : Case, c.writes e = [.utf k.tag])
      ∨ ¬ c.Strands e ∧ Complete (c.writes e) := by
  have silent : ¬ c.Strands e → (c.step e).sent = c.sent ++ [] →
      c.Strands e ∧ (∃ k : Case, c.writes e = [.utf k.tag])
        ∨ ¬ c.Strands e ∧ Complete (c.writes e) := by
    intro not sent
    rw [writes_eq sent]
    exact .inr ⟨not, complete_nil⟩
  cases e with
  | select row => exact silent id (sent_step trivial)
  | clearSelection => exact silent id (sent_step trivial)
  | type area s => exact silent id (sent_step trivial)
  | editCell row column s => exact silent id (sent_step trivial)
  | arrangeColumns columns => exact silent id (sent_step trivial)
  | press button fails =>
      cases button with
      | delete =>
          rw [Client.Strands, writes_eq (sent_delete fails c)]
          cases c.billboardID with
          | none =>
              cases tag : fails .tag with
              | true => exact .inr ⟨by simp, [], by simp [posted, tag]⟩
              | false => exact .inl ⟨by simp, .delete, by simp [posted, tag]⟩
          | some k =>
              rcases posted_cases object (r := .delete ⟨k⟩) rfl with ⟨strands, alone⟩ | ⟨not, whole⟩
              · exact .inl ⟨⟨strands.1, .inl strands.2⟩, .delete, alone⟩
              · exact .inr ⟨by simpa using not, whole⟩
      | edit => exact silent id (by rw [step_edit, List.append_nil]; split <;> rfl)
      | update =>
          cases id : parseInt (c.text .editBbID) with
          | none =>
              refine silent (fun strands => strands.1 id) ?_
              rw [step_update_nan id, List.append_nil]
          | some k =>
              rw [Client.Strands, writes_eq (sent_update id fails)]
              rcases posted_cases object (r := .editTable (c.editData k)) rfl with
                ⟨strands, alone⟩ | ⟨not, whole⟩
              · exact .inl ⟨⟨by simp [id], strands⟩, .editTable, alone⟩
              · exact .inr ⟨fun strands => not strands.2, whole⟩
      | submit => exact silent id (by rw [step_submit, List.append_nil])
      | scheduleSubmit =>
          rw [Client.Strands, writes_eq (sent_scheduleSubmit fails c)]
          rcases posted_cases object (r := .addView c.addview) rfl with
            ⟨strands, alone⟩ | ⟨not, whole⟩
          · exact .inl ⟨strands, .addView, alone⟩
          · exact .inr ⟨not, whole⟩

/-- Behind a tag alone nothing can be expected but its payload. -/
lemma expectsAll_endsInTag (rs : List Request) (k : Case) (items : List Item) :
    Position.readTag.expectsAll (rs.flatMap Request.items ++ .utf k.tag :: items)
      = (Position.readPayload k).expectsAll items := by
  rw [expectsAll_append, expectsAll_complete ⟨rs, rfl⟩, Option.bind_some, expectsAll_cons]
  simp only [Position.expects, switchOn_tag, Option.bind_some]

/-- A tag alone, and more behind it. -/
def Broken (items : List Item) : Prop :=
  ∃ (rs : List Request) (k : Case) (x : Text) (rest : List Item),
    items = rs.flatMap Request.items ++ .utf k.tag :: .utf x :: rest

lemma Broken.append {items : List Item} (h : Broken items) (more : List Item) :
    Broken (items ++ more) := by
  obtain ⟨rs, k, x, rest, rfl⟩ := h
  exact ⟨rs, k, x, rest ++ more, by simp⟩

lemma broken_of_endsInTag {xs ys : List Item} (h : EndsInTag xs) (fragment : Fragment ys)
    (written : ys ≠ []) : Broken (xs ++ ys) := by
  obtain ⟨rs, k, rfl⟩ := h
  obtain ⟨x, rest, rfl⟩ := head_of_fragment fragment written
  exact ⟨rs, k, x, rest, by simp⟩

lemma expectsAll_broken {items : List Item} (h : Broken items) :
    Position.readTag.expectsAll items = none := by
  obtain ⟨rs, k, x, rest, rfl⟩ := h
  rw [expectsAll_endsInTag, expectsAll_cons, expects_payload_utf]
  rfl

/-- What has been sent is complete, complete up to a tag alone at its end, or broken, as the events
left no tag alone, left one, or wrote something behind it. -/
lemma sent_cases (reply : DataArray) {events : List Event}
    (objects : ∀ e ∈ events, e.WritesObject) :
    ¬ Stranded (Client.start reply) events ∧ ¬ Misleads (Client.start reply) events
        ∧ Complete ((Client.start reply).run events).sent
      ∨ Stranded (Client.start reply) events ∧ ¬ Misleads (Client.start reply) events
        ∧ EndsInTag ((Client.start reply).run events).sent
      ∨ Misleads (Client.start reply) events ∧ Broken ((Client.start reply).run events).sent := by
  induction events using List.reverseRecOn with
  | nil =>
      exact .inl ⟨not_someEvent_nil _, not_someEvent_nil _, complete_items .showTable⟩
  | append_singleton events e ih =>
      obtain ⟨fragment, sent⟩ := fragment_writes ((Client.start reply).run events) e
      have before : ∀ e ∈ events, e.WritesObject := fun e h =>
        objects e (List.mem_append_left _ h)
      have last : e.WritesObject := objects e (by simp)
      rw [Stranded, Misleads, someEvent_snoc, someEvent_snoc, run_snoc, sent]
      rcases ih before with ⟨none, not, complete⟩ | ⟨stranded, not, left⟩ | ⟨misleads, broken⟩
      · have still : ¬ (Misleads (Client.start reply) events
            ∨ Stranded (Client.start reply) events
              ∧ ((Client.start reply).run events).writes e ≠ []) :=
          fun h => h.elim not fun h => none h.1
        rcases writes_cases last ((Client.start reply).run events) with
          ⟨strands, k, items⟩ | ⟨whole, items⟩
        · obtain ⟨rs, split⟩ := complete
          exact .inr (.inl ⟨.inr strands, still, rs, k, by rw [split, items]⟩)
        · exact .inl ⟨fun h => h.elim none whole, still, complete.append items⟩
      · by_cases written : ((Client.start reply).run events).writes e = []
        · refine .inr (.inl ⟨.inl stranded, fun h => h.elim not fun h => h.2 written, ?_⟩)
          rw [written, List.append_nil]
          exact left
        · exact .inr (.inr
            ⟨.inr ⟨stranded, written⟩, broken_of_endsInTag left fragment written⟩)
      · exact .inr (.inr ⟨.inl misleads, broken.append _⟩)

/-- The server cannot read all that has been sent exactly where the events mislead it. -/
lemma misleads_iff (reply : DataArray) {events : List Event}
    (objects : ∀ e ∈ events, e.WritesObject) :
    Misleads (Client.start reply) events
      ↔ Position.readTag.expectsAll ((Client.start reply).run events).sent = none := by
  rcases sent_cases reply objects with
    ⟨-, not, complete⟩ | ⟨-, not, rs, k, sent⟩ | ⟨misleads, broken⟩
  · rw [expectsAll_complete complete]
    exact iff_of_false not (by simp)
  · rw [sent, expectsAll_endsInTag]
    exact iff_of_false not (by simp [Position.expectsAll])
  · exact iff_of_true misleads (expectsAll_broken broken)

end Billboard
