import Mathlib.Algebra.GroupWithZero.Nat
import Mathlib.Data.List.Induction
import Mathlib.Tactic.Lemma

/-!
# Runs of a labelled step relation

A component is a step relation `R s e s'`: in state `s` the event `e` may lead to `s'`.  A
deterministic component, a partial one (some events have no successor) and a nondeterministic one
are all of this form, so the rules below serve every state machine of the development.

* `Reaches` — the states a list of events can lead to.
* `Always` — a property holds in every state a run reaches, the first one included.
* `EveryStep` — a condition on the state before a step and on its event holds at every step.
* `SomeEvent` — some event has a property, which may depend on the events before it.
* **`always_iff_everyStep`** — when one step keeps the property exactly under the condition, a
  whole run keeps it exactly when every one of its steps meets the condition.
* **`everyStep_iff_everyStep`** — the same for a property of the steps themselves.
* **`refines_iff_everyStep`** — the same for agreement with the fold of an abstract step function.
* **`reaches_origin`** — what holds at the end of a run held at its start, or one of its steps has
  brought it about.
* **`reaches_observe`** — what is seen of a run depends on the events of concern only.
* **`reaches_budget`** — if every step pays for what it spends out of a potential and the credit of
  its event, a run spends no more than the credits of its events.
* **`reaches_final`** — where the parties of a system do not disturb one another, every run can be
  continued to the one end that one run has, in as many steps.
-/

namespace Runs

variable {σ ε α : Type*}

/-- From `s` the events `es`, in this order, can lead to `s'`. -/
def Reaches (R : σ → ε → σ → Prop) : σ → List ε → σ → Prop
  | s, [], s' => s' = s
  | s, e :: es, s' => ∃ m, R s e m ∧ Reaches R m es s'

/-- `P` holds in every state reached on the way, before the first event and after each one. -/
def Always (R : σ → ε → σ → Prop) (P : σ → Prop) (s : σ) (es : List ε) : Prop :=
  ∀ pre post s', es = pre ++ post → Reaches R s pre s' → P s'

/-- `C` holds at every step that is taken, of the state before it and of its event. -/
def EveryStep (R : σ → ε → σ → Prop) (C : σ → ε → Prop) (s : σ) (es : List ε) : Prop :=
  ∀ pre e post m s', es = pre ++ e :: post → Reaches R s pre m → R m e s' → C m e

/-- `P` holds of some event and of those before it. -/
def SomeEvent (P : List ε → ε → Prop) (es : List ε) : Prop :=
  ∃ pre e post, es = pre ++ e :: post ∧ P pre e

/-! ## Unfolding along the run -/

@[simp] lemma reaches_nil (R : σ → ε → σ → Prop) (s s' : σ) : Reaches R s [] s' ↔ s' = s :=
  Iff.rfl

@[simp] lemma reaches_cons (R : σ → ε → σ → Prop) (s s' : σ) (e : ε) (es : List ε) :
    Reaches R s (e :: es) s' ↔ ∃ m, R s e m ∧ Reaches R m es s' :=
  Iff.rfl

lemma reaches_append (R : σ → ε → σ → Prop) (s s' : σ) (es fs : List ε) :
    Reaches R s (es ++ fs) s' ↔ ∃ m, Reaches R s es m ∧ Reaches R m fs s' := by
  induction es generalizing s with
  | nil => simp
  | cons e es ih =>
      simp only [List.cons_append, reaches_cons, ih]
      constructor
      · rintro ⟨m, hm, m', hes, hfs⟩
        exact ⟨m', ⟨m, hm, hes⟩, hfs⟩
      · rintro ⟨m', ⟨m, hm, hes⟩, hfs⟩
        exact ⟨m, hm, m', hes, hfs⟩

lemma reaches_snoc (R : σ → ε → σ → Prop) (s s' : σ) (es : List ε) (e : ε) :
    Reaches R s (es ++ [e]) s' ↔ ∃ m, Reaches R s es m ∧ R m e s' := by
  simp [reaches_append]

/-- The run of a partial step function is its fold, as long as every step is possible. -/
lemma reaches_foldlM (f : σ → ε → Option σ) (s s' : σ) (es : List ε) :
    Reaches (fun s e s' => f s e = some s') s es s' ↔ es.foldlM f s = some s' := by
  induction es generalizing s with
  | nil => simp [eq_comm]
  | cons e es ih => simp [ih, Option.bind_eq_some_iff]

/-- Where a step has one outcome, so has a run. -/
lemma reaches_unique {R : σ → ε → σ → Prop} (unique : ∀ s e s' s'', R s e s' → R s e s'' → s' = s'')
    {s s' s'' : σ} {es : List ε} (run : Reaches R s es s') (run' : Reaches R s es s'') :
    s' = s'' := by
  induction es generalizing s with
  | nil => exact run.trans run'.symm
  | cons e es ih =>
      obtain ⟨m, one, later⟩ := run
      obtain ⟨m', one', later'⟩ := run'
      obtain rfl := unique s e m m' one one'
      exact ih later later'

/-! ## Unfolding at the last event -/

lemma always_snoc (R : σ → ε → σ → Prop) (P : σ → Prop) (s : σ) (es : List ε) (e : ε) :
    Always R P s (es ++ [e]) ↔ Always R P s es ∧ ∀ s', Reaches R s (es ++ [e]) s' → P s' := by
  constructor
  · intro h
    refine ⟨fun pre post s' split => h pre (post ++ [e]) s' (by simp [split]), fun s' => ?_⟩
    exact h (es ++ [e]) [] s' (by simp)
  · rintro ⟨before, last⟩ pre post s' split reach
    rcases List.eq_nil_or_concat post with rfl | ⟨post', e', rfl⟩
    · rw [List.append_nil] at split
      exact last s' (split ▸ reach)
    · have short : es = pre ++ post' := by simpa using congrArg List.dropLast split
      exact before pre post' s' short reach

lemma everyStep_snoc (R : σ → ε → σ → Prop) (C : σ → ε → Prop) (s : σ) (es : List ε) (e : ε) :
    EveryStep R C s (es ++ [e])
      ↔ EveryStep R C s es ∧ ∀ m s', Reaches R s es m → R m e s' → C m e := by
  constructor
  · intro h
    refine ⟨fun pre e' post m s' split => h pre e' (post ++ [e]) m s' (by simp [split]), ?_⟩
    exact fun m s' => h es e [] m s' rfl
  · rintro ⟨before, last⟩ pre e' post m s' split reach one
    rcases List.eq_nil_or_concat post with rfl | ⟨post', e'', rfl⟩
    · obtain ⟨rfl, same⟩ := List.append_inj' split rfl
      obtain rfl : e = e' := by simpa using same
      exact last m s' reach one
    · have regroup : es ++ [e] = (pre ++ e' :: post') ++ [e''] := by simpa using split
      have short : es = pre ++ e' :: post' := (List.append_inj' regroup rfl).1
      exact before pre e' post' m s' short reach one

@[simp] lemma everyStep_nil (R : σ → ε → σ → Prop) (C : σ → ε → Prop) (s : σ) :
    EveryStep R C s [] := by
  intro pre e post m s' split
  simp at split

lemma everyStep_cons (R : σ → ε → σ → Prop) (C : σ → ε → Prop) (s : σ) (e : ε) (es : List ε) :
    EveryStep R C s (e :: es)
      ↔ (∀ s', R s e s' → C s e) ∧ ∀ m, R s e m → EveryStep R C m es := by
  constructor
  · intro h
    refine ⟨fun s' => h [] e es s s' rfl rfl, ?_⟩
    intro m one pre e' post m' s' split reach
    exact h (e :: pre) e' post m' s' (by rw [split, List.cons_append]) ⟨m, one, reach⟩
  · rintro ⟨first, later⟩ pre e' post m s' split reach
    cases pre with
    | nil =>
        obtain ⟨rfl, -⟩ := List.cons.inj split
        obtain rfl := reach
        exact first s'
    | cons e'' pre =>
        obtain ⟨rfl, rest⟩ := List.cons.inj split
        obtain ⟨m', one, reach⟩ := reach
        exact later m' one pre e' post m s' rest reach

@[simp] lemma not_someEvent_nil (P : List ε → ε → Prop) : ¬ SomeEvent P [] := by
  rintro ⟨pre, e, post, split, -⟩
  simp at split

lemma someEvent_snoc (P : List ε → ε → Prop) (es : List ε) (e : ε) :
    SomeEvent P (es ++ [e]) ↔ SomeEvent P es ∨ P es e := by
  constructor
  · rintro ⟨pre, e', post, split, holds⟩
    rcases List.eq_nil_or_concat post with rfl | ⟨post', e'', rfl⟩
    · obtain ⟨rfl, same⟩ := List.append_inj' split rfl
      obtain rfl : e = e' := by simpa using same
      exact .inr holds
    · have regroup : es ++ [e] = (pre ++ e' :: post') ++ [e''] := by simpa using split
      exact .inl ⟨pre, e', post', (List.append_inj' regroup rfl).1, holds⟩
  · rintro (⟨pre, e', post, rfl, holds⟩ | holds)
    · exact ⟨pre, e', post ++ [e], by simp, holds⟩
    · exact ⟨es, e, [], rfl, holds⟩

@[simp] lemma always_nil (R : σ → ε → σ → Prop) (P : σ → Prop) (s : σ) :
    Always R P s [] ↔ P s := by
  constructor
  · intro h
    exact h [] [] s rfl rfl
  · intro h pre post s' split reach
    obtain rfl : pre = [] := by simpa using (List.append_eq_nil_iff.mp split.symm).1
    exact reach ▸ h

/-! ## Invariants -/

/-- **The induction over a run.**  What holds at the start and is kept by every step holds in
every state the run reaches. -/
theorem reaches_invariant {R : σ → ε → σ → Prop} {P : σ → Prop}
    (step : ∀ s e s', P s → R s e s' → P s') {s s' : σ} {es : List ε}
    (start : P s) (run : Reaches R s es s') : P s' := by
  induction es generalizing s with
  | nil => exact run ▸ start
  | cons e es ih =>
      obtain ⟨m, hm, hes⟩ := run
      exact ih (step s e m start hm) hes

/-- The same over the steps that meet a condition: a run all of whose steps meet it keeps what
those steps keep. -/
theorem reaches_invariant_of_everyStep {R : σ → ε → σ → Prop} {C : σ → ε → Prop} {P : σ → Prop}
    (step : ∀ s e s', P s → R s e s' → C s e → P s') {s s' : σ} {es : List ε}
    (start : P s) (steps : EveryStep R C s es) (run : Reaches R s es s') : P s' := by
  induction es using List.reverseRecOn generalizing s' with
  | nil => exact run ▸ start
  | append_singleton es e ih =>
      obtain ⟨m, hes, hm⟩ := (reaches_snoc R s s' es e).mp run
      obtain ⟨before, last⟩ := (everyStep_snoc R C s es e).mp steps
      exact step m e s' (ih before hes) hm (last m s' hes hm)

/-- Hence it holds throughout the run. -/
theorem always_of_everyStep {R : σ → ε → σ → Prop} {C : σ → ε → Prop} {P : σ → Prop}
    (step : ∀ s e s', P s → R s e s' → C s e → P s') {s : σ} {es : List ε}
    (start : P s) (steps : EveryStep R C s es) : Always R P s es := by
  intro pre post s' split run
  refine reaches_invariant_of_everyStep step start ?_ run
  intro pre' e post' m s'' split'
  exact steps pre' e (post' ++ post) m s'' (by simp [split, split'])

/-- **Exact condition for an invariant.**  `I` is what the run keeps anyway as long as `P` holds
and the condition is met; under `I` and `P` one step keeps `P` exactly when it meets `C`.  Then a
run keeps `P` throughout exactly when every step of it meets `C`. -/
theorem always_iff_everyStep {R : σ → ε → σ → Prop} {I P : σ → Prop} {C : σ → ε → Prop}
    (exact_step : ∀ s e s', I s → P s → R s e s' → (P s' ↔ C s e))
    (keep : ∀ s e s', I s → P s → R s e s' → C s e → I s')
    {s : σ} {es : List ε} (hI : I s) (hP : P s) :
    Always R P s es ↔ EveryStep R C s es := by
  induction es using List.reverseRecOn with
  | nil => simpa using hP
  | append_singleton es e ih =>
      rw [always_snoc, everyStep_snoc, ih]
      refine and_congr_right fun before => ?_
      have here : ∀ {m : σ}, Reaches R s es m → I m ∧ P m :=
        reaches_invariant_of_everyStep (P := fun s => I s ∧ P s)
          (fun s e s' h one c => ⟨keep s e s' h.1 h.2 one c, (exact_step s e s' h.1 h.2 one).mpr c⟩)
          ⟨hI, hP⟩ before
      constructor
      · intro last m s' reach one
        exact (exact_step m e s' (here reach).1 (here reach).2 one).mp
          (last s' ((reaches_snoc R s s' es e).mpr ⟨m, reach, one⟩))
      · intro last s' reach
        obtain ⟨m, hm, one⟩ := (reaches_snoc R s s' es e).mp reach
        exact (exact_step m e s' (here hm).1 (here hm).2 one).mpr (last m s' hm one)

/-- **Exact condition for the steps of a run.**  `I` is what a run keeps as long as the condition
`D` is met, and under `I` a step has the property `C` exactly when it meets `D`.  Then all steps of
a run have `C` exactly when all of them meet `D`. -/
theorem everyStep_iff_everyStep {R : σ → ε → σ → Prop} {I : σ → Prop} {C D : σ → ε → Prop}
    (exact_step : ∀ s e s', I s → R s e s' → (C s e ↔ D s e))
    (keep : ∀ s e s', I s → R s e s' → D s e → I s')
    {s : σ} {es : List ε} (hI : I s) :
    EveryStep R C s es ↔ EveryStep R D s es := by
  induction es using List.reverseRecOn with
  | nil => simp
  | append_singleton es e ih =>
      rw [everyStep_snoc, everyStep_snoc, ih]
      refine and_congr_right fun before => ?_
      have here : ∀ {m : σ}, Reaches R s es m → I m :=
        reaches_invariant_of_everyStep keep hI before
      constructor
      · intro last m s' reach one
        exact (exact_step m e s' (here reach) one).mp (last m s' reach one)
      · intro last m s' reach one
        exact (exact_step m e s' (here reach) one).mpr (last m s' reach one)

/-- **Exact condition for a refinement.**  `abs` reads the abstract state off a concrete one and
`f` is the abstract step.  When one concrete step is the abstract one exactly under `C`, the
concrete states along a run are the fold of `f` exactly when every step meets `C`. -/
theorem refines_iff_everyStep {R : σ → ε → σ → Prop} {I : σ → Prop} {C : σ → ε → Prop}
    {abs : σ → α} {f : α → ε → α}
    (exact_step : ∀ s e s', I s → R s e s' → (abs s' = f (abs s) e ↔ C s e))
    (keep : ∀ s e s', I s → R s e s' → I s')
    {s : σ} {es : List ε} (hI : I s) :
    (∀ pre post s', es = pre ++ post → Reaches R s pre s' → abs s' = pre.foldl f (abs s))
      ↔ EveryStep R C s es := by
  constructor
  · intro fold pre e post m s' split reach one
    have im : I m := reaches_invariant keep hI reach
    have here : abs m = pre.foldl f (abs s) := fold pre (e :: post) m split reach
    have next : abs s' = (pre ++ [e]).foldl f (abs s) :=
      fold (pre ++ [e]) post s' (by simp [split]) ((reaches_snoc R s s' pre e).mpr ⟨m, reach, one⟩)
    refine (exact_step m e s' im one).mp ?_
    rw [next, here, List.foldl_append]
    rfl
  · intro steps pre
    induction pre using List.reverseRecOn with
    | nil => intro post s' _ reach; rw [(reaches_nil R s s').mp reach]; rfl
    | append_singleton pre e ih =>
        intro post s' split reach
        obtain ⟨m, hpre, one⟩ := (reaches_snoc R s s' pre e).mp reach
        have split' : es = pre ++ e :: post := by simp [split]
        have cm : C m e := steps pre e post m s' split' hpre one
        rw [(exact_step m e s' (reaches_invariant keep hI hpre) one).mpr cm,
          ih (e :: post) m split' hpre, List.foldl_append]
        rfl

/-! ## Origins -/

/-- **What a run has brought about.**  What holds at its end held at its start, or there is a step
before which it did not hold and after which it did. -/
theorem reaches_origin {R : σ → ε → σ → Prop} {Q : σ → Prop} {s s' : σ} {es : List ε}
    (run : Reaches R s es s') (holds : Q s') :
    Q s ∨ ∃ pre e post m m', es = pre ++ e :: post ∧ Reaches R s pre m ∧ R m e m'
      ∧ Reaches R m' post s' ∧ ¬ Q m ∧ Q m' := by
  induction es generalizing s with
  | nil => exact .inl (run ▸ holds)
  | cons e es ih =>
      obtain ⟨m, one, later⟩ := run
      rcases ih later with here | ⟨pre, e', post, m₁, m₂, rfl, before, step, after, not, now⟩
      · by_cases already : Q s
        · exact .inl already
        · exact .inr ⟨[], e, es, s, m, rfl, rfl, one, later, already, here⟩
      · exact .inr ⟨e :: pre, e', post, m₁, m₂, rfl, ⟨m, one, before⟩, step, after, not, now⟩

/-! ## Observations -/

/-- **What one sees of a run.**  If an observation `g` changes only at the events that concern it,
and at these as a function `h` of itself, then what is seen at the end is the fold of `h` over the
events of concern. -/
theorem reaches_observe {R : σ → ε → σ → Prop} {g : σ → α} {h : α → ε → α} {concerns : ε → Bool}
    (concerned : ∀ s e s', R s e s' → concerns e = true → g s' = h (g s) e)
    (other : ∀ s e s', R s e s' → concerns e = false → g s' = g s)
    {s s' : σ} {es : List ε} (run : Reaches R s es s') :
    g s' = (es.filter concerns).foldl h (g s) := by
  induction es generalizing s with
  | nil => rw [run, List.filter_nil, List.foldl_nil]
  | cons e es ih =>
      obtain ⟨m, one, later⟩ := run
      cases here : concerns e with
      | true =>
          rw [List.filter_cons_of_pos here, List.foldl_cons, ← concerned s e m one here]
          exact ih later
      | false =>
          rw [List.filter_cons_of_neg (by simp [here]), ← other s e m one here]
          exact ih later

/-! ## Budgets -/

/-- **What a run can spend.**  At each step that meets the condition, what is spent and the change
of the potential are covered by the credit of the event. -/
theorem reaches_budget {R : σ → ε → σ → Prop} {C : σ → ε → Prop} {spent potential : σ → ℕ}
    {credit : ε → ℕ}
    (step : ∀ s e s', R s e s' → C s e →
      spent s' + potential s' ≤ spent s + potential s + credit e)
    {s s' : σ} {es : List ε} (steps : EveryStep R C s es) (run : Reaches R s es s') :
    spent s' + potential s' ≤ spent s + potential s + (es.map credit).sum := by
  induction es generalizing s with
  | nil =>
      obtain rfl := run
      exact Nat.le_add_right _ _
  | cons e es ih =>
      obtain ⟨m, one, later⟩ := run
      obtain ⟨first, rest⟩ := (everyStep_cons R C s e es).mp steps
      have now := step s e m one (first m one)
      have after := ih (rest m one) later
      rw [List.map_cons, List.sum_cons]
      omega

/-! ## Parties that do not disturb one another -/

/-- Steps of two parties, the labels, lead to the same in either order. -/
def Commutes (R : σ → ε → σ → Prop) : Prop :=
  ∀ s e e' a b, e ≠ e' → R s e a → R s e' b → ∃ c, R a e' c ∧ R b e c

/-- A step of a party is one of the steps of every run to the end. -/
lemma reaches_strip {R : σ → ε → σ → Prop}
    (unique : ∀ s e s' s'', R s e s' → R s e s'' → s' = s'') (commutes : Commutes R)
    {s m final : σ} {e : ε} {es : List ε} (stuck : ∀ e s', ¬ R final e s') (one : R s e m)
    (run : Reaches R s es final) :
    ∃ rest, Reaches R m rest final ∧ rest.length + 1 = es.length := by
  induction es generalizing s m with
  | nil =>
      obtain rfl := run
      exact absurd one (stuck e m)
  | cons e' es ih =>
      obtain ⟨m', one', later⟩ := run
      by_cases same : e = e'
      · subst same
        obtain rfl := unique s e m m' one one'
        exact ⟨es, later, List.length_cons.symm⟩
      · obtain ⟨t, left, right⟩ := commutes s e e' m m' same one one'
        obtain ⟨rest, reach, length⟩ := ih right later
        exact ⟨e' :: rest, ⟨t, left, reach⟩, by rw [List.length_cons, List.length_cons, length]⟩

/-- **One end.**  If one run ends where no party can take a step, every run can be continued to
this end, and takes as many steps to it. -/
theorem reaches_final {R : σ → ε → σ → Prop}
    (unique : ∀ s e s' s'', R s e s' → R s e s'' → s' = s'') (commutes : Commutes R)
    {s s' final : σ} {es es' : List ε} (stuck : ∀ e s', ¬ R final e s')
    (run : Reaches R s es final) (run' : Reaches R s es' s') :
    ∃ rest, Reaches R s' rest final ∧ es'.length + rest.length = es.length := by
  induction es' generalizing s es with
  | nil =>
      obtain rfl := run'
      exact ⟨es, run, Nat.zero_add _⟩
  | cons e es' ih =>
      obtain ⟨m, one, later⟩ := run'
      obtain ⟨rest, reach, length⟩ := reaches_strip unique commutes stuck one run
      obtain ⟨rest', reach', length'⟩ := ih reach later
      exact ⟨rest', reach', by rw [List.length_cons]; omega⟩

end Runs
