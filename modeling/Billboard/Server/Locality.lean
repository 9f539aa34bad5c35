import Billboard.Server.History

/-!
# One billboard at a time

A request names one billboard, or draws the next id.  So what both tables hold under one id depends
only on their counters, on the requests that name it and on the additions.

* **`billboard_local`** — runs that start with the same counters and the same rows under an id, and
  agree in their additions and in the requests that name it, end with the same counters and the same
  rows under it.
* **`last_writes`** — what a run leaves under an id that was there: in `billboard` the texts of the
  last edit, in `view` the last schedule, unless the id has been deleted there.  An addition does
  not bring it back, since `view` is taken to draw its ids from a counter.
-/

namespace Billboard

open Java Runs Sql

variable {m : MariaDb}

/-! ## What is seen of one id -/

/-- What both tables hold under an id, and their counters, which decide whether an addition draws
this id. -/
structure Seen where
  billboardNext : ℕ
  viewNext : ℕ
  billboard : Option BillboardRow
  view : Option ViewRow

def Db.seen (i : Int32) (db : Db m) : Seen :=
  ⟨db.billboard.next, db.view.next, db.billboard.find i, db.view.find i⟩

/-- The request names the id, or draws one.  Which id an addition draws is for the counters to say,
so each counts for every id. -/
def concerns (m : MariaDb) (i : Int32) : Request → Bool
  | .addBillboard _ => true
  | .addView a => m.keyOf a.query1 = some i
  | .showTable => false
  | .delete d => i = d.billboardID
  | .editTable e => i = e.id

/-- A row of `view` with another schedule. -/
def ViewRow.scheduled (m : MariaDb) (a : Add) (r : ViewRow) : ViewRow :=
  { r with
    scheduledDate := some (m.date a.query2)
    startTime := some (m.time a.query3)
    endTime := some (m.time a.query4) }

/-- A row of `billboard` with other texts. -/
def BillboardRow.edited (e : Edit) (r : BillboardRow) : BillboardRow :=
  { r with
    billboardName := some e.query1
    message := some e.query2
    info := some e.query3
    url := some e.query4 }

/-- What is seen of an id after a request that concerns it. -/
def Seen.after (m : MariaDb) (i : Int32) (o : Seen) : Request → Seen
  | .addBillboard a =>
      { billboardNext := o.billboardNext + 1
        viewNext := o.viewNext + 1
        billboard :=
          if i = Int32.ofNat o.billboardNext then some (a.billboardRow i) else o.billboard
        view := if i = Int32.ofNat o.viewNext then some (a.viewRow i) else o.view }
  | .addView a => { o with view := o.view.map (ViewRow.scheduled m a) }
  | .showTable => o
  | .delete _ => { o with view := none }
  | .editTable e => { o with billboard := o.billboard.map (BillboardRow.edited e) }

lemma seen_insert {db : Db m} {a : Add} (room : db.billboard.HasRoom)
    (room' : (db.insertBillboard a room).view.HasRoom) (i : Int32) :
    ((db.insertBillboard a room).insertView a room').seen i
      = (db.seen i).after m i (.addBillboard a) := by
  have billboard : ((db.insertBillboard a room).insertView a room').billboard.find i
      = if i = db.billboard.newId then some (a.billboardRow i) else db.billboard.find i := by
    have same : ((db.insertBillboard a room).insertView a room').billboard
        = db.billboard.insert room (textsOfBillboard a.query1 a.query2 a.query3 a.query4) := rfl
    rw [same, Table.find_insert]
    split_ifs with here
    · rw [here]
      rfl
    · rfl
  have view : ((db.insertBillboard a room).insertView a room').view.find i
      = if i = db.view.newId then some (a.viewRow i) else db.view.find i := by
    rw [Db.insertView, Table.find_insert]
    have same : (db.insertBillboard a room).view = db.view := rfl
    rw [same]
    split_ifs with here
    · rw [here]
      rfl
    · rfl
  rw [Db.seen, billboard, view]
  rfl

/-- A request that concerns the id changes what is seen of it by `after`. -/
lemma seen_concerned {db db' : Db m} {r : Request} {i : Int32} (h : Serves db r db')
    (here : concerns m i r = true) : db'.seen i = (db.seen i).after m i r := by
  have effect := (serves_iff.mp h).2
  cases r with
  | addBillboard a =>
      simp only [Db.effect] at effect
      split_ifs at effect with room room'
      obtain rfl := Option.some.inj effect
      exact seen_insert room room' i
  | addView a =>
      have here : m.keyOf a.query1 = some i := of_decide_eq_true here
      obtain rfl := Option.some.inj effect
      rw [Db.seen, Db.updateSchedule, Table.find_update, if_pos (decide_eq_true here)]
      rfl
  | showTable => exact absurd here (by simp [concerns])
  | delete d =>
      have here : i = d.billboardID := of_decide_eq_true here
      obtain rfl := Option.some.inj effect
      rw [Db.seen, Db.deleteView, Table.find_delete, if_pos (decide_eq_true here)]
      rfl
  | editTable e =>
      have here : i = e.id := of_decide_eq_true here
      obtain rfl := Option.some.inj effect
      rw [Db.seen, Db.updateBillboard, Table.find_update, if_pos (decide_eq_true here)]
      rfl

/-- Another one changes nothing of it. -/
lemma seen_other {db db' : Db m} {r : Request} {i : Int32} (h : Serves db r db')
    (here : concerns m i r = false) : db'.seen i = db.seen i := by
  have effect := (serves_iff.mp h).2
  cases r with
  | addBillboard a => exact absurd here (by simp [concerns])
  | addView a =>
      have here : ¬ m.keyOf a.query1 = some i := of_decide_eq_false here
      obtain rfl := Option.some.inj effect
      rw [Db.seen, Db.updateSchedule, Table.find_update, if_neg (by simpa using here)]
      rfl
  | showTable => obtain rfl := Option.some.inj effect; rfl
  | delete d =>
      have here : ¬ i = d.billboardID := of_decide_eq_false here
      obtain rfl := Option.some.inj effect
      rw [Db.seen, Db.deleteView, Table.find_delete, if_neg (by simpa using here)]
      rfl
  | editTable e =>
      have here : ¬ i = e.id := of_decide_eq_false here
      obtain rfl := Option.some.inj effect
      rw [Db.seen, Db.updateBillboard, Table.find_update, if_neg (by simpa using here)]
      rfl

lemma seen_reaches {db db' : Db m} {rs : List Request} (i : Int32)
    (run : Reaches Serves db rs db') :
    db'.seen i = (rs.filter (concerns m i)).foldl (Seen.after m i) (db.seen i) :=
  reaches_observe (fun _ _ _ one here => seen_concerned one here)
    (fun _ _ _ one here => seen_other one here) run

/-- **Billboards do not interfere.**  Two runs from the same rows under an id and the same counters,
with the same additions and the same requests that name the id, end with the same rows under it and
the same counters.  They may differ in all requests that name other ids. -/
theorem billboard_local {db₁ db₁' db₂ db₂' : Db m} {rs₁ rs₂ : List Request} {i : Int32}
    (run₁ : Reaches Serves db₁ rs₁ db₁') (run₂ : Reaches Serves db₂ rs₂ db₂')
    (start : db₁.seen i = db₂.seen i)
    (same : rs₁.filter (concerns m i) = rs₂.filter (concerns m i)) : db₁'.seen i = db₂'.seen i := by
  rw [seen_reaches i run₁, seen_reaches i run₂, start, same]

/-- Whether id 2 is deleted or not, an edit of id 1 has the same effect on it. -/
theorem billboard_local_single :
    let db : Db (MariaDb.simple .infoMessage) := Db.single someBillboard
    let e : Edit := ⟨1, "new".toList, "b".toList, "c".toList, "d".toList⟩
    (db.updateBillboard e).seen 1 = ((db.deleteView ⟨2⟩).updateBillboard e).seen 1 := by
  intro db e
  have edit : (Request.editTable e).Plain := by decide +kernel
  have delete : (Request.delete ⟨2⟩).Plain := by decide +kernel
  have run₁ : Reaches Serves db [.editTable e] (db.updateBillboard e) :=
    ⟨_, serves_iff.mpr ⟨edit, rfl⟩, rfl⟩
  have run₂ : Reaches Serves db [.delete ⟨2⟩, .editTable e]
      ((db.deleteView ⟨2⟩).updateBillboard e) :=
    ⟨_, serves_iff.mpr ⟨delete, rfl⟩, _, serves_iff.mpr ⟨edit, rfl⟩, rfl⟩
  exact billboard_local run₁ run₂ rfl (by decide +kernel)

/-! ## The last writes -/

/-- The edit that a request makes of an id. -/
def editOf (i : Int32) : Request → Option Edit
  | .editTable e => if e.id = i then some e else none
  | _ => none

/-- The schedule that a request gives to an id. -/
def scheduleFor (m : MariaDb) (i : Int32) : Request → Option Add
  | .addView a => if m.keyOf a.query1 = some i then some a else none
  | _ => none

/-- The request deletes the id. -/
def deletes (i : Int32) : Request → Bool
  | .delete d => d.billboardID = i
  | _ => false

/-- The last value that some function finds in a list. -/
def lastOf {α β : Type} (f : α → Option β) (xs : List α) : Option β :=
  (xs.filterMap f).getLast?

lemma lastOf_snoc {α β : Type} (f : α → Option β) (xs : List α) (x : α) :
    lastOf f (xs ++ [x]) = (f x).or (lastOf f xs) := by
  rw [lastOf, List.filterMap_append]
  cases hx : f x with
  | none => simp [hx, lastOf]
  | some y => simp [hx]

/-- What a run makes of a row of `billboard`. -/
def lastBillboard (rs : List Request) (i : Int32) (row : BillboardRow) : BillboardRow :=
  match lastOf (editOf i) rs with
  | some e => row.edited e
  | none => row

/-- What a run makes of a row of `view`. -/
def lastView (m : MariaDb) (rs : List Request) (i : Int32) (row : ViewRow) : Option ViewRow :=
  if rs.any (deletes i) then none
  else some (match lastOf (scheduleFor m i) rs with
    | some a => row.scheduled m a
    | none => row)

lemma lastBillboard_snoc (rs : List Request) (r : Request) (i : Int32) (row : BillboardRow) :
    lastBillboard (rs ++ [r]) i row = match editOf i r with
      | some e => (lastBillboard rs i row).edited e
      | none => lastBillboard rs i row := by
  rw [lastBillboard, lastOf_snoc]
  cases editOf i r with
  | none => rfl
  | some e =>
      rw [lastBillboard]
      cases lastOf (editOf i) rs <;> rfl

lemma lastView_snoc (rs : List Request) (r : Request) (i : Int32) (row : ViewRow) :
    lastView m (rs ++ [r]) i row
      = if deletes i r then none
        else match scheduleFor m i r with
          | some a => (lastView m rs i row).map (ViewRow.scheduled m a)
          | none => lastView m rs i row := by
  rw [lastView, lastView, List.any_append, lastOf_snoc]
  cases gone : rs.any (deletes i) with
  | true =>
      simp only [Bool.true_or, if_true, Option.map_none]
      split_ifs
      · rfl
      · split <;> rfl
  | false =>
      simp only [Bool.false_or, List.any_cons, List.any_nil, Bool.or_false, Bool.false_eq_true,
        if_false, Option.map_some]
      split_ifs
      · rfl
      · cases scheduleFor m i r with
        | none => rfl
        | some a => cases lastOf (scheduleFor m i) rs <;> rfl

/-- An id below a counter is not the one given out next. -/
lemma ne_ofNat_of_lt {i : Int32} {n : ℕ} (room : n < 2 ^ 31) (below : i.toInt < n) :
    i ≠ Int32.ofNat n := by
  rintro rfl
  rw [Int32.toInt_ofNat_of_lt room] at below
  exact lt_irrefl _ below

/-- One request on an id that has been given out in both tables. -/
lemma writes_serves {db db' : Db m} {r : Request} (h : Serves db r db') {i : Int32}
    (below : i.toInt < db.billboard.next) (below' : i.toInt < db.view.next) :
    db'.billboard.find i = (match editOf i r with
        | some e => (db.billboard.find i).map (BillboardRow.edited e)
        | none => db.billboard.find i)
      ∧ db'.view.find i = if deletes i r then none
        else match scheduleFor m i r with
          | some a => (db.view.find i).map (ViewRow.scheduled m a)
          | none => db.view.find i := by
  have parts : ∀ {o : Seen}, db'.seen i = o →
      db'.billboard.find i = o.billboard ∧ db'.view.find i = o.view := by
    rintro o rfl
    exact ⟨rfl, rfl⟩
  have effect := (serves_iff.mp h).2
  cases r with
  | addBillboard a =>
      simp only [Db.effect] at effect
      split_ifs at effect with room room'
      obtain ⟨billboard, view⟩ := parts (seen_concerned h rfl)
      refine ⟨billboard.trans ?_, view.trans ?_⟩
      · exact if_neg (ne_ofNat_of_lt room below)
      · exact if_neg (ne_ofNat_of_lt room' below')
  | addView a =>
      by_cases here : m.keyOf a.query1 = some i
      · obtain ⟨billboard, view⟩ := parts (seen_concerned h (decide_eq_true here))
        refine ⟨billboard, view.trans ?_⟩
        simp only [scheduleFor, if_pos here]
        rfl
      · obtain ⟨billboard, view⟩ := parts (seen_other h (decide_eq_false here))
        refine ⟨billboard, view.trans ?_⟩
        simp only [scheduleFor, if_neg here]
        rfl
  | showTable => exact parts (seen_other h rfl)
  | delete d =>
      by_cases here : i = d.billboardID
      · obtain ⟨billboard, view⟩ := parts (seen_concerned h (decide_eq_true here))
        refine ⟨billboard, view.trans ?_⟩
        rw [if_pos (show deletes i (.delete d) = true from decide_eq_true here.symm)]
        rfl
      · obtain ⟨billboard, view⟩ := parts (seen_other h (decide_eq_false here))
        refine ⟨billboard, view.trans ?_⟩
        rw [if_neg (show ¬ deletes i (.delete d) = true by simpa [deletes] using Ne.symm here)]
        rfl
  | editTable e =>
      by_cases here : i = e.id
      · obtain ⟨billboard, view⟩ := parts (seen_concerned h (decide_eq_true here))
        refine ⟨billboard.trans ?_, view⟩
        simp only [editOf, if_pos here.symm]
        rfl
      · obtain ⟨billboard, view⟩ := parts (seen_other h (decide_eq_false here))
        refine ⟨billboard.trans ?_, view⟩
        simp only [editOf, if_neg (Ne.symm here)]
        rfl

/-- **The last writes count.**  What a run leaves under an id that both tables held: in `billboard`
the row with the texts of the last edit that names the id, in `view` the row with its old texts and
the last schedule given to it, unless a request has deleted it: the counter of `view` does not give
out the id again. -/
theorem last_writes {db db' : Db m} {rs : List Request} (run : Reaches Serves db rs db')
    {i : Int32} {billboard : BillboardRow} {view : ViewRow}
    (found : db.billboard.find i = some billboard) (found' : db.view.find i = some view) :
    db'.billboard.find i = some (lastBillboard rs i billboard)
      ∧ db'.view.find i = lastView m rs i view := by
  have below : i.toInt < db.billboard.next := by
    rw [← Table.id_of_find found]
    exact db.billboard.below billboard (Table.mem_of_find found)
  have below' : i.toInt < db.view.next := by
    rw [← Table.id_of_find found']
    exact db.view.below view (Table.mem_of_find found')
  induction rs using List.reverseRecOn generalizing db' with
  | nil =>
      obtain rfl := run
      exact ⟨found, found'⟩
  | append_singleton rs r ih =>
      obtain ⟨mid, before, one⟩ := (reaches_snoc _ _ _ _ _).mp run
      obtain ⟨inBillboard, inView⟩ := ih before
      obtain ⟨billboardNext, viewNext⟩ := counters_of_reaches before
      obtain ⟨billboard', view'⟩ := writes_serves one (i := i) (by omega) (by omega)
      rw [lastBillboard_snoc, lastView_snoc, ← inView, view', billboard', inBillboard]
      refine ⟨?_, rfl⟩
      cases editOf i r <;> rfl

/-- Of two edits of id 1 the second one stays. -/
theorem last_writes_twice :
    let db : Db (MariaDb.simple .infoMessage) := Db.single someBillboard
    let e : Edit := ⟨1, "new".toList, "b".toList, "c".toList, "d".toList⟩
    let e' : Edit := ⟨1, "newer".toList, "b".toList, "c".toList, "d".toList⟩
    ((db.updateBillboard e).updateBillboard e').billboard.find 1
      = some ((someBillboard.billboardRow 1).edited e') := by
  intro db e e'
  have edit : (Request.editTable e).Plain := by decide +kernel
  have edit' : (Request.editTable e').Plain := by decide +kernel
  have run : Reaches Serves db [.editTable e, .editTable e']
      ((db.updateBillboard e).updateBillboard e') :=
    ⟨_, serves_iff.mpr ⟨edit, rfl⟩, _, serves_iff.mpr ⟨edit', rfl⟩, rfl⟩
  have found : db.billboard.find 1 = some (someBillboard.billboardRow 1) := by decide +kernel
  have found' : db.view.find 1 = some (someBillboard.viewRow 1) := by decide +kernel
  exact (last_writes run found found').1

end Billboard
