import Mathlib.Tactic.Lemma

/-!
# Java code with state and exceptions

`Act σ α` is code that reads and changes a state `σ` and completes with a value or ends by an
exception.  An exception undoes nothing: what the code did before it stays done, which is what
`after` observes of a piece of code.
-/

namespace Java

/-- The exceptions that the code can meet. -/
inductive Throwable
  | io
  | eof
  | optionalData
  | sql
  | nullPointer
  | numberFormat
  | arrayIndex
  | classCast
  | stringIndex
  | illegalArgument
  | malformedURL
  deriving DecidableEq

/-- The subclasses of `IOException`. -/
def Throwable.isIOException : Throwable → Bool
  | .io => true
  | .eof => true
  | .optionalData => true
  | .malformedURL => true
  | _ => false

/-- Code over the state `σ` with a result of type `α`. -/
abbrev Act (σ α : Type) := EStateM Throwable σ α

namespace Act

variable {σ α β γ : Type}

/-- The state in which the code ends, whether it completes or throws. -/
def after (body : Act σ α) (s : σ) : σ :=
  match body.run s with
  | .ok _ s' => s'
  | .error _ s' => s'

/-- The exception by which the code ends, if any. -/
def thrown (body : Act σ α) (s : σ) : Option Throwable :=
  match body.run s with
  | .ok _ _ => none
  | .error t _ => some t

/-- A call that throws `t` if it fails. -/
def call (fails : Bool) (t : Throwable) : Act σ Unit :=
  if fails then throw t else pure ()

/-- A result that exists, or else the exception. -/
def orThrow (t : Throwable) : Option α → Act σ α
  | some a => pure a
  | none => throw t

/-- A call that completes or throws as its result says. -/
def ofExcept : Except Throwable α → Act σ α
  | .ok a => pure a
  | .error t => throw t

/-- `try { body } catch (…) { }`: the handlers of the program only print. -/
def catching (catches : Throwable → Bool) (body : Act σ Unit) : Act σ Unit :=
  tryCatch body fun t => if catches t then pure () else throw t

/-! ## Running code -/

@[simp] lemma run_call (fails : Bool) (t : Throwable) (s : σ) :
    (call fails t : Act σ Unit).run s = if fails then .error t s else .ok () s := by
  cases fails <;> rfl

@[simp] lemma run_throw' (t : Throwable) (s : σ) :
    (throw t : Act σ α).run s = .error t s := rfl

@[simp] lemma run_map (f : α → β) (x : Act σ α) (s : σ) :
    (f <$> x).run s = match x.run s with
      | .ok a s' => .ok (f a) s'
      | .error t s' => .error t s' := by
  simp only [Functor.map, EStateM.map, EStateM.run]
  cases x s <;> rfl

lemma run_get (s : σ) : (get : Act σ σ).run s = .ok s s := rfl

@[simp] lemma run_orThrow_some (t : Throwable) (a : α) (s : σ) :
    (orThrow t (some a) : Act σ α).run s = .ok a s := rfl

@[simp] lemma run_orThrow_none (t : Throwable) (s : σ) :
    (orThrow t none : Act σ α).run s = .error t s := rfl

/-- Catching changes how the code ends, never what it has done. -/
lemma run_catching (catches : Throwable → Bool) (body : Act σ Unit) (s : σ) :
    (catching catches body).run s = match body.run s with
      | .ok _ s' => .ok () s'
      | .error t s' => if catches t then .ok () s' else .error t s' := by
  show EStateM.tryCatch body _ s = match body s with
    | .ok _ s' => .ok () s'
    | .error t s' => if catches t then .ok () s' else .error t s'
  delta EStateM.tryCatch
  cases body s with
  | ok a s' => rfl
  | error t s' =>
      cases h : catches t <;> simp only [h] <;> rfl

lemma run_catching_of_ok {catches : Throwable → Bool} {body : Act σ Unit} {s s' : σ}
    (h : body.run s = .ok () s') : (catching catches body).run s = .ok () s' := by
  rw [run_catching, h]

/-- An exception of a caught class does not. -/
lemma run_catching_of_caught {catches : Throwable → Bool} {body : Act σ Unit} {t : Throwable}
    {s s' : σ} (h : body.run s = .error t s') (caught : catches t = true) :
    (catching catches body).run s = .ok () s' := by
  rw [run_catching, h]
  simp only [caught]
  rfl

/-- An exception of another class goes through. -/
lemma run_catching_of_error {catches : Throwable → Bool} {body : Act σ Unit} {t : Throwable}
    {s s' : σ} (h : body.run s = .error t s') (other : catches t = false) :
    (catching catches body).run s = .error t s' := by
  rw [run_catching, h]
  simp only [other]
  rfl

lemma after_eq_of_ok {body : Act σ α} {a : α} {s s' : σ} (h : body.run s = .ok a s') :
    body.after s = s' := by
  rw [after, h]

lemma after_eq_of_error {body : Act σ α} {t : Throwable} {s s' : σ}
    (h : body.run s = .error t s') : body.after s = s' := by
  rw [after, h]

lemma after_congr {body body' : Act σ α} {s s' : σ} (h : body.run s = body'.run s') :
    body.after s = body'.after s' := by
  rw [after, after, h]

lemma thrown_of_ok {body : Act σ α} {a : α} {s s' : σ} (h : body.run s = .ok a s') :
    body.thrown s = none := by
  rw [thrown, h]

lemma thrown_of_error {body : Act σ α} {t : Throwable} {s s' : σ}
    (h : body.run s = .error t s') : body.thrown s = some t := by
  rw [thrown, h]

lemma run_eq_error_of_thrown {body : Act σ α} {t : Throwable} {s : σ}
    (h : body.thrown s = some t) : body.run s = .error t (body.after s) := by
  rw [thrown] at h
  rw [after]
  cases run : body.run s with
  | ok a s' => simp [run] at h
  | error t' s' =>
      rw [run] at h
      obtain rfl := Option.some.inj h
      rfl

/-- No exception escapes exactly where only caught ones are thrown. -/
lemma thrown_catching_eq_none {catches : Throwable → Bool} {body : Act σ Unit} {s : σ} :
    (catching catches body).thrown s = none ↔ ∀ t, body.thrown s = some t → catches t = true := by
  cases run : body.run s with
  | ok a s' =>
      rw [thrown_of_ok (run_catching_of_ok run), thrown_of_ok run]
      simp
  | error t s' =>
      rw [thrown_of_error run]
      cases caught : catches t with
      | true =>
          rw [thrown_of_ok (run_catching_of_caught run caught)]
          simp [caught]
      | false =>
          rw [thrown_of_error (run_catching_of_error run caught)]
          simp [caught]

@[simp] lemma after_catching (catches : Throwable → Bool) (body : Act σ Unit) (s : σ) :
    (catching catches body).after s = body.after s := by
  rw [after, run_catching, after]
  cases body.run s with
  | ok a s' => rfl
  | error t s' =>
      cases h : catches t <;> simp only [h] <;> rfl

/-- Where the first part completes, the second goes on from there. -/
lemma run_bind_of_ok {x : Act σ α} {f : α → Act σ β} {a : α} {s s' : σ}
    (h : x.run s = .ok a s') : (x >>= f).run s = (f a).run s' := by
  rw [EStateM.run_bind, h]

/-- Where it throws, the second does not run. -/
lemma run_bind_of_error {x : Act σ α} {f : α → Act σ β} {t : Throwable} {s s' : σ}
    (h : x.run s = .error t s') : (x >>= f).run s = .error t s' := by
  rw [EStateM.run_bind, h]

lemma after_bind_of_ok {x : Act σ α} {f : α → Act σ β} {a : α} {s s' : σ}
    (h : x.run s = .ok a s') : (x >>= f).after s = (f a).after s' := by
  rw [after, run_bind_of_ok h, after]

lemma after_bind_of_error {x : Act σ α} {f : α → Act σ β} {t : Throwable} {s s' : σ}
    (h : x.run s = .error t s') : (x >>= f).after s = s' := by
  rw [after, run_bind_of_error h]

/-- How a composition completes. -/
lemma run_bind_eq_ok {x : Act σ α} {f : α → Act σ β} {b : β} {s s' : σ} :
    (x >>= f).run s = .ok b s' ↔ ∃ a m, x.run s = .ok a m ∧ (f a).run m = .ok b s' := by
  cases h : x.run s with
  | ok a m =>
      rw [run_bind_of_ok h]
      constructor
      · intro second
        exact ⟨a, m, rfl, second⟩
      · rintro ⟨a', m', first, second⟩
        obtain ⟨rfl, rfl⟩ := EStateM.Result.ok.inj first
        exact second
  | error t m => simp [run_bind_of_error h]

/-- How a composition throws. -/
lemma run_bind_eq_error {x : Act σ α} {f : α → Act σ β} {t : Throwable} {s s' : σ} :
    (x >>= f).run s = .error t s' ↔
      x.run s = .error t s' ∨ ∃ a m, x.run s = .ok a m ∧ (f a).run m = .error t s' := by
  cases h : x.run s with
  | ok a m =>
      rw [run_bind_of_ok h]
      constructor
      · intro second
        exact .inr ⟨a, m, rfl, second⟩
      · rintro (first | ⟨a', m', first, second⟩)
        · exact absurd first (by simp)
        · obtain ⟨rfl, rfl⟩ := EStateM.Result.ok.inj first
          exact second
  | error t' m => simp [run_bind_of_error h]

/-- **The invariant rule.**  What both parts keep, their composition keeps. -/
lemma after_bind_invariant {P : σ → Prop} {x : Act σ α} {f : α → Act σ β} {s : σ}
    (first : P (x.after s)) (second : ∀ a s', x.run s = .ok a s' → P ((f a).after s')) :
    P ((x >>= f).after s) := by
  cases h : x.run s with
  | ok a s' => rw [after_bind_of_ok h]; exact second a s' h
  | error t s' => rw [after_bind_of_error h]; rwa [after_eq_of_error h] at first

/-! ## What the code leaves alone -/

/-- The code does not change the part `g` of the state. -/
def Keeps (g : σ → γ) (body : Act σ α) : Prop :=
  ∀ s, g (body.after s) = g s

variable {g : σ → γ}

lemma Keeps.pure (a : α) : Keeps g (Pure.pure a : Act σ α) := fun _ => rfl

lemma Keeps.get : Keeps g (MonadState.get : Act σ σ) := fun _ => rfl

lemma Keeps.throw (t : Throwable) : Keeps g (MonadExcept.throw t : Act σ α) := fun _ => rfl

lemma Keeps.modify {f : σ → σ} (h : ∀ s, g (f s) = g s) :
    Keeps g (modifyGet fun s => (PUnit.unit, f s) : Act σ PUnit) :=
  fun s => h s

lemma Keeps.call (fails : Bool) (t : Throwable) : Keeps g (Act.call fails t : Act σ Unit) := by
  intro s
  cases fails <;> rfl

lemma Keeps.orThrow (t : Throwable) (o : Option α) : Keeps g (Act.orThrow t o : Act σ α) := by
  intro s
  cases o <;> rfl

lemma Keeps.catching {catches : Throwable → Bool} {body : Act σ Unit} (h : Keeps g body) :
    Keeps g (Act.catching catches body) := fun s => by
  rw [after_catching, h]

lemma Keeps.bind {x : Act σ α} {f : α → Act σ β} (hx : Keeps g x) (hf : ∀ a, Keeps g (f a)) :
    Keeps g (x >>= f) := by
  intro s
  refine after_bind_invariant (P := fun s' => g s' = g s) (hx s) fun a s' h => ?_
  rw [hf a s', ← after_eq_of_ok h, hx s]

/-! ## What the code maintains -/

/-- The code maintains an invariant of the state, however it ends, and where it completes its value
has a property. -/
def Maintains (I : σ → Prop) (body : Act σ α) (Q : α → Prop) : Prop :=
  ∀ s, I s → match body.run s with
    | .ok a s' => I s' ∧ Q a
    | .error _ s' => I s'

variable {I : σ → Prop} {Q : α → Prop} {R : β → Prop}

lemma Maintains.after {body : Act σ α} (h : Maintains I body Q) {s : σ} (hs : I s) :
    I (body.after s) := by
  have kept := h s hs
  rw [Act.after]
  cases run : body.run s with
  | ok a s' =>
      rw [run] at kept
      exact kept.1
  | error t s' =>
      rw [run] at kept
      exact kept

lemma Maintains.pure {a : α} (h : Q a) : Maintains I (Pure.pure a : Act σ α) Q :=
  fun _ hs => ⟨hs, h⟩

lemma Maintains.get : Maintains I (MonadState.get : Act σ σ) I :=
  fun _ hs => ⟨hs, hs⟩

lemma Maintains.modify {f : σ → σ} (h : ∀ s, I s → I (f s)) :
    Maintains I (modifyGet fun s => (PUnit.unit, f s) : Act σ PUnit) fun _ => True :=
  fun s hs => ⟨h s hs, trivial⟩

lemma Maintains.call (fails : Bool) (t : Throwable) :
    Maintains I (Act.call fails t : Act σ Unit) fun _ => True := by
  intro s hs
  cases fails with
  | false => exact ⟨hs, trivial⟩
  | true => exact hs

lemma Maintains.orThrow {t : Throwable} {o : Option α} (h : ∀ a, o = some a → Q a) :
    Maintains I (Act.orThrow t o : Act σ α) Q := by
  intro s hs
  cases o with
  | none => exact hs
  | some a => exact ⟨hs, h a rfl⟩

/-- **The rule of composition.** -/
lemma Maintains.bind {x : Act σ α} {f : α → Act σ β} (hx : Maintains I x Q)
    (hf : ∀ a, Q a → Maintains I (f a) R) : Maintains I (x >>= f) R := by
  intro s hs
  have first := hx s hs
  cases run : x.run s with
  | ok a s' =>
      rw [run] at first
      rw [run_bind_of_ok run]
      exact hf a first.2 s' first.1
  | error t s' =>
      rw [run] at first
      rw [run_bind_of_error run]
      exact first

/-- Where the second part does not go by what the first found. -/
lemma Maintains.andThen {x : Act σ α} {f : α → Act σ β} (hx : Maintains I x Q)
    (hf : ∀ a, Maintains I (f a) R) : Maintains I (x >>= f) R :=
  .bind hx fun a _ => hf a

lemma Maintains.orThrow_any (t : Throwable) (o : Option α) :
    Maintains I (Act.orThrow t o : Act σ α) fun _ => True :=
  .orThrow fun _ _ => trivial

lemma Maintains.catching {catches : Throwable → Bool} {body : Act σ Unit}
    (h : Maintains I body fun _ => True) :
    Maintains I (Act.catching catches body) fun _ => True := by
  intro s hs
  have kept := h s hs
  cases run : body.run s with
  | ok a s' =>
      rw [run] at kept
      rw [run_catching_of_ok run]
      exact ⟨kept.1, trivial⟩
  | error t s' =>
      rw [run] at kept
      cases caught : catches t with
      | true =>
          rw [run_catching_of_caught run caught]
          exact ⟨kept, trivial⟩
      | false =>
          rw [run_catching_of_error run caught]
          exact kept

end Act

end Java
