import Billboard.Server.Effect
import Billboard.Server.Loop
import Mathlib.Logic.Function.Iterate

/-!
# Iterations of the request loop

One iteration of `for(;;)` reads a tag and, in a case with a payload, an object.  The end of the
stream is caught and met again by the next iteration, so it ends nothing.  An item of which only
some bytes have arrived when the client closes is such an end as well.

**`loop_ends_iff`**: the loop ends exactly when it reads the payload of a case and meets a text or
an object of another class.  On the items of requests, cut off anywhere, it never does
(`not_misreads_cut`).
-/

namespace Billboard

open Java

variable {B : Backend}

/-- One iteration of the loop. -/
def Main.iteration (f : Faults) (main : Main B) (stream : List Item) : Main B × List Item :=
  match (main.read f stream).1.position with
  | .readPayload _ => (main.read f stream).1.read f (main.read f stream).2
  | _ => main.read f stream

/-- The loop and its stream after a number of iterations, none of whose calls is made to fail. -/
def Main.iterations (main : Main B) (stream : List Item) (n : ℕ) : Main B × List Item :=
  (fun p : Main B × List Item => p.1.iteration Faults.none p.2)^[n] (main, stream)

/-- Read from this position on, an item that a case does not expect is met: a text, or an object of
another class.  An object where a tag is read is met as the end of the stream. -/
def Position.misreads : Position → List Item → Bool
  | .readTag, .utf requestType :: rest => match switchOn requestType with
    | .showTable => Position.readTag.misreads rest
    | .reads c => (Position.readPayload c).misreads rest
    | .noCase => Position.readTag.misreads rest
  | .readPayload c, .object p :: rest =>
      if (c.cast p).isSome then Position.readTag.misreads rest else true
  | .readPayload _, .utf _ :: _ => true
  | _, _ => false

/-! ## Items of requests -/

/-- The items of requests are never misread, wherever they are cut off. -/
theorem not_misreads_cut (requests : List Request) (k : ℕ) :
    Position.readTag.misreads ((requests.flatMap Request.items).take k) = false := by
  induction requests generalizing k with
  | nil => simp [Position.misreads]
  | cons r requests ih =>
      rw [List.flatMap_cons]
      rcases request_shape r with rfl | ⟨c, p, shape, cast⟩
      · cases k with
        | zero => rfl
        | succ k =>
            show Position.readTag.misreads
              (.utf Request.showTable.tag :: (requests.flatMap Request.items).take k) = false
            rw [Position.misreads, switchOn_showTable]
            exact ih k
      · rw [shape]
        match k with
        | 0 => rfl
        | 1 =>
            show Position.readTag.misreads [.utf c.tag] = false
            rw [Position.misreads, switchOn_tag]
            rfl
        | k + 2 =>
            show Position.readTag.misreads
              (.utf c.tag :: .object p :: (requests.flatMap Request.items).take k) = false
            rw [Position.misreads, switchOn_tag]
            simp only [Position.misreads, cast, Option.isSome_some, if_true]
            exact ih k

/-! ## One iteration -/

/-- The ways in which an iteration that starts at a tag can end. -/
inductive Iterated (main : Main B) (stream : List Item) : Main B × List Item → Prop
  /-- Nothing was read, and the loop stands where it stood. -/
  | stuck : Position.readTag.misreads stream = false → Iterated main stream (main, stream)
  | advanced {main' : Main B} {rest : List Item} : rest.length < stream.length →
      main'.position = .readTag →
      Position.readTag.misreads rest = Position.readTag.misreads stream →
      Iterated main stream (main', rest)
  | rejected {main' : Main B} {rest : List Item} : main'.position = .ended .sql →
      Iterated main stream (main', rest)
  | misread {main' : Main B} {rest : List Item} (t : Throwable) : main'.position = .ended t →
      Position.readTag.misreads stream = true → Iterated main stream (main', rest)

lemma iteration_of_read {f : Faults} {main main' : Main B} {stream rest : List Item}
    (read : main.read f stream = (main', rest)) (done : ∀ c, main'.position ≠ .readPayload c) :
    main.iteration f stream = (main', rest) := by
  rw [Main.iteration, read]
  cases h : main'.position with
  | readPayload c => exact absurd h (done c)
  | readTag => rfl
  | ended t => rfl

lemma iteration_of_tag {f : Faults} {main main' : Main B} {stream rest : List Item} {c : Case}
    (read : main.read f stream = (main', rest)) (payload : main'.position = .readPayload c) :
    main.iteration f stream = main'.read f rest := by
  rw [Main.iteration, read, payload]

lemma iterated_of_serve {main main' : Main B} {stream rest : List Item} {r : Request}
    (shorter : rest.length < stream.length)
    (same : Position.readTag.misreads rest = Position.readTag.misreads stream)
    (served : main' = main.serve Faults.none r) : Iterated main stream (main', rest) := by
  subst served
  rcases serve_none main r with failed | ⟨position, -⟩
  · exact .rejected failed
  · exact .advanced shorter position same

/-- Serving ends at the head of the loop or outside of it. -/
lemma serve_position (f : Faults) (main : Main B) (r : Request) (c : Case) :
    (main.serve f r).position ≠ .readPayload c := by
  rw [Main.serve]
  split
  · exact Position.noConfusion
  · next t server run =>
      cases t <;> exact Position.noConfusion

/-- An iteration in which the tag of a case has been read. -/
lemma iterated_payload {main : Main B} {requestType : Text} {rest : List Item} {c : Case}
    (branch : switchOn requestType = .reads c) :
    Iterated main (.utf requestType :: rest)
      (Main.read Faults.none { main with position := .readPayload c } rest) := by
  have tag : Position.readTag.misreads (.utf requestType :: rest)
      = (Position.readPayload c).misreads rest := by rw [Position.misreads, branch]
  cases rest with
  | nil =>
      rw [read_end Faults.none (fun t => Position.noConfusion)]
      exact .advanced (Nat.zero_lt_one) rfl (by rw [tag]; rfl)
  | cons i rest =>
      cases i with
      | utf s => exact .misread .optionalData rfl (by rw [tag]; rfl)
      | object p =>
          have payload : (Position.readPayload c).misreads (.object p :: rest)
              = if (c.cast p).isSome then Position.readTag.misreads rest else true := rfl
          rw [payload] at tag
          cases cast : c.cast p with
          | none =>
              rw [cast] at tag
              have read : Main.read Faults.none { main with position := .readPayload c }
                  (.object p :: rest) = ({ main with position := .ended .classCast }, rest) := by
                simp only [Main.read, readObject, cast, Position.caught]
              rw [read]
              exact .misread .classCast rfl tag
          | some r =>
              rw [cast] at tag
              rw [read_payload Faults.none rest rfl cast]
              exact iterated_of_serve (by simp only [List.length_cons]; omega) tag.symm rfl

/-- **One iteration** at a tag gets stuck there, or takes items off the stream without changing
whether one is misread, or ends the loop. -/
theorem iterated {main : Main B} (position : main.position = .readTag) (stream : List Item) :
    Iterated main stream (main.iteration Faults.none stream) := by
  have here : { main with position := .readTag } = main := by rw [← position]
  cases stream with
  | nil =>
      have running : ∀ t, main.position ≠ .ended t := by
        rw [position]
        exact fun t => Position.noConfusion
      have read := read_end Faults.none running
      rw [here] at read
      rw [iteration_of_read read (by rw [position]; exact fun c => Position.noConfusion)]
      exact .stuck rfl
  | cons i rest =>
      cases i with
      | object p =>
          have read : main.read Faults.none (.object p :: rest) = (main, .object p :: rest) := by
            simp only [Main.read, position, readUTF, Position.caught, here]
          rw [iteration_of_read read (by rw [position]; exact fun c => Position.noConfusion)]
          exact .stuck rfl
      | utf requestType =>
          cases branch : switchOn requestType with
          | showTable =>
              have read : main.read Faults.none (.utf requestType :: rest)
                  = (main.serve Faults.none .showTable, rest) := by
                simp only [Main.read, position, readUTF, branch]
              rw [iteration_of_read read (serve_position Faults.none main .showTable)]
              exact iterated_of_serve (by simp) (by simp only [Position.misreads, branch]) rfl
          | noCase =>
              have read : main.read Faults.none (.utf requestType :: rest) = (main, rest) := by
                simp only [Main.read, position, readUTF, branch]
              rw [iteration_of_read read (by rw [position]; exact fun c => Position.noConfusion)]
              exact .advanced (by simp) position (by simp only [Position.misreads, branch])
          | reads c =>
              have read : main.read Faults.none (.utf requestType :: rest)
                  = ({ main with position := .readPayload c }, rest) := by
                simp only [Main.read, position, readUTF, branch]
              rw [iteration_of_tag read rfl]
              exact iterated_payload branch

/-! ## Any number of iterations -/

lemma iterations_succ (main : Main B) (stream : List Item) (n : ℕ) :
    main.iterations stream (n + 1) = (main.iteration Faults.none stream).1.iterations
      (main.iteration Faults.none stream).2 n :=
  Function.iterate_succ_apply _ n _

/-- The induction is on the items that are left: an iteration that reads some of them leaves the
question as it is. -/
lemma iterations_end_iff {main : Main B} {stream : List Item} (position : main.position = .readTag)
    (succeed : ∀ n, (main.iterations stream n).1.position ≠ .ended .sql) :
    (∃ n t, (main.iterations stream n).1.position = .ended t)
      ↔ Position.readTag.misreads stream = true := by
  induction left : stream.length using Nat.strong_induction_on generalizing main stream with
  | _ left' ih =>
      subst left
      have once := iterated position stream
      have next := iterations_succ main stream
      generalize main.iteration Faults.none stream = result at once next
      cases once with
      | stuck aligned =>
          have stays : ∀ n, main.iterations stream n = (main, stream) := by
            intro n
            induction n with
            | zero => rfl
            | succ n ihn => rw [next, ihn]
          rw [aligned]
          refine iff_of_false ?_ Bool.false_ne_true
          rintro ⟨n, t, ended⟩
          rw [stays, position] at ended
          cases ended
      | @advanced main' rest shorter position' same =>
          have rest_ends := ih rest.length shorter position'
            (fun n => by rw [← next]; exact succeed (n + 1)) rfl
          rw [← same, ← rest_ends]
          constructor
          · rintro ⟨n, t, ended⟩
            cases n with
            | zero =>
                rw [Main.iterations, Function.iterate_zero_apply, position] at ended
                cases ended
            | succ n => exact ⟨n, t, by rw [← next, ended]⟩
          · rintro ⟨n, t, ended⟩
            exact ⟨n + 1, t, by rw [next, ended]⟩
      | rejected failed => exact absurd (by rw [next]; exact failed) (succeed 1)
      | misread t ended wrong =>
          refine iff_of_true ⟨1, t, ?_⟩ wrong
          rw [next]
          exact ended

/-- **The loop ends if and only if it misreads an item**, when every statement succeeds: then it
leaves by an exception that is not caught, and otherwise it goes on for ever. -/
theorem loop_ends_iff (server : Server B) (stream : List Item)
    (succeed : ∀ n, (Main.iterations ⟨server, .readTag, []⟩ stream n).1.position ≠ .ended .sql) :
    (∃ n t, (Main.iterations ⟨server, .readTag, []⟩ stream n).1.position = .ended t)
      ↔ Position.readTag.misreads stream = true :=
  iterations_end_iff rfl succeed

/-- A loop that has ended stays as it is. -/
lemma iteration_ended (f : Faults) {main : Main B} {t : Throwable}
    (ended : main.position = .ended t) (stream : List Item) :
    main.iteration f stream = (main, stream) := by
  refine iteration_of_read ?_ ?_
  · simp only [Main.read, ended]
  · intro c
    rw [ended]
    exact Position.noConfusion

lemma iterations_ended {main : Main B} {t : Throwable} (ended : main.position = .ended t)
    (stream : List Item) (n : ℕ) : main.iterations stream n = (main, stream) := by
  induction n with
  | zero => rfl
  | succ n ih => rw [iterations_succ, iteration_ended Faults.none ended, ih]

/-- Two tags in a row end the loop. -/
theorem loop_ends_tagTwice :
    let server : Server (MariaDb.simple .infoMessage).backend := .initial
    ∃ n t, (Main.iterations ⟨server, .readTag, []⟩ [.utf Case.delete.tag, .utf Case.delete.tag]
      n).1.position = .ended t := by
  intro server
  have read : Main.read Faults.none ⟨server, .readTag, []⟩
      [.utf Case.delete.tag, .utf Case.delete.tag]
        = (⟨server, .readPayload .delete, []⟩, [.utf Case.delete.tag]) :=
    read_tag Faults.none .delete [.utf Case.delete.tag] rfl
  have once : Main.iteration Faults.none ⟨server, .readTag, []⟩
      [.utf Case.delete.tag, .utf Case.delete.tag]
        = (⟨server, .ended .optionalData, []⟩, [.utf Case.delete.tag]) := iteration_of_tag read rfl
  refine (loop_ends_iff server _ ?_).mpr (by decide +kernel)
  intro n
  cases n with
  | zero => exact Position.noConfusion
  | succ n =>
      rw [iterations_succ, once, iterations_ended (t := .optionalData) rfl]
      decide

/-- The client closes at once: every iteration meets the end of the stream, and none ends the
loop. -/
theorem loop_never_ends_closed :
    let server : Server (MariaDb.simple .infoMessage).backend := .initial
    (∀ n, (Main.iterations ⟨server, .readTag, []⟩ [] n).1.position ≠ .ended .sql)
      ∧ ¬ ∃ n t, (Main.iterations ⟨server, .readTag, []⟩ [] n).1.position = .ended t := by
  intro server
  have stays : ∀ n, Main.iterations ⟨server, .readTag, []⟩ [] n
      = (⟨server, .readTag, []⟩, []) := by
    intro n
    induction n with
    | zero => rfl
    | succ n ih => rw [iterations_succ]; exact ih
  constructor
  · intro n
    rw [stays]
    exact Position.noConfusion
  · rintro ⟨n, t, ended⟩
    rw [stays] at ended
    cases ended

end Billboard
