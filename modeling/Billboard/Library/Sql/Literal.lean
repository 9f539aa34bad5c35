import Billboard.Library.Sql.Lexer

/-!
# When a quoted literal reads as the text put between its quotes

A program that writes `'` ++ `f` ++ `'` into a statement means the literal whose value is `f`.
The lexical rules grant that only to some texts: a single quote ends the literal or doubles with
the next one, a backslash takes the character after it along.  `SelfReading f` is the exact
condition — no single quote, and every backslash directly before `%` or `_`, the two characters
before which it stays.

* `read_quoted_of_selfReading` — such a text is read back as itself and the literal ends where it
  was meant to.
* **`selfReading_of_read_quoted`** — no other text ever is, whatever follows it.  A shortened
  reading may run past the intended end, so this needs an invariant: as soon as the reading falls
  behind the text, what it still owes consists of quotes and backslashes only, and such a debt is
  never paid off.
-/

namespace Sql

/-- The texts that a single-quoted literal holds without escaping. -/
def selfReading : List Char → Bool
  | [] => true
  | '\'' :: _ => false
  | ['\\'] => false
  | '\\' :: c :: cs => (c == '%' || c == '_') && selfReading cs
  | _ :: cs => selfReading cs

/-- The condition in words: no quote, and `%` or `_` directly behind every backslash. -/
theorem selfReading_iff {f : List Char} :
    selfReading f ↔ '\'' ∉ f ∧
      ∀ pre post, f = pre ++ '\\' :: post → post.head? = some '%' ∨ post.head? = some '_' := by
  induction f using selfReading.induct with
  | case1 => simp [selfReading]
  | case2 cs => simp [selfReading]
  | case3 =>
      simp only [selfReading, Bool.false_eq_true, false_iff, not_and]
      intro _ h
      simpa using h [] [] rfl
  | case4 c cs ih =>
      simp only [selfReading, Bool.and_eq_true, Bool.or_eq_true, beq_iff_eq, ih]
      constructor
      · rintro ⟨hc, quote, after⟩
        refine ⟨?_, fun pre post split => ?_⟩
        · rcases hc with rfl | rfl <;> simpa using quote
        · match pre with
          | [] =>
              obtain rfl : c :: cs = post := by simpa using split
              rcases hc with rfl | rfl <;> simp
          | [a] =>
              have hb : c = '\\' := by simp_all
              rcases hc with rfl | rfl <;> simp at hb
          | a :: b :: pre =>
              refine after pre post ?_
              simp only [List.cons_append, List.cons.injEq] at split
              exact split.2.2
      · rintro ⟨quote, after⟩
        refine ⟨by simpa using after [] (c :: cs) rfl, fun h => quote (by simp [h]), ?_⟩
        intro pre post split
        exact after ('\\' :: c :: pre) post (by simp [split])
  | case5 c cs hquote hlone hpair ih =>
      have plain : c ≠ '\\' := fun e => by
        cases cs with
        | nil => exact hlone e rfl
        | cons d ds => exact hpair d ds e rfl
      rw [selfReading, ih]
      · constructor
        · rintro ⟨quote, after⟩
          refine ⟨?_, fun pre post split => ?_⟩
          · rw [List.mem_cons, not_or]
            exact ⟨fun e => hquote e.symm, quote⟩
          · cases pre with
            | nil => exact absurd (List.cons.inj split).1 plain
            | cons a pre => exact after pre post (List.cons.inj split).2
        · rintro ⟨quote, after⟩
          refine ⟨fun h => quote (by simp [h]), fun pre post split => ?_⟩
          exact after (c :: pre) post (by simp [split])
      all_goals assumption

/-- A text without quotes and backslashes is self-reading. -/
lemma selfReading_of_plain {f : List Char} (quote : '\'' ∉ f) (backslash : '\\' ∉ f) :
    selfReading f :=
  selfReading_iff.mpr ⟨quote, fun pre post split => absurd (by simp [split]) backslash⟩

/-! ## The equations of the reader inside a literal -/

@[simp] lemma read_quoted_nil (q : Char) (acc : List Char) : read (.quoted q acc) [] = none := rfl

@[simp] lemma read_escape_nil (q : Char) (acc : List Char) : read (.escape q acc) [] = none := rfl

lemma read_quoted_delimiter (q : Char) (acc cs : List Char) :
    read (.quoted q acc) (q :: cs) = read (.closing q acc) cs := by
  simp [read_cons, step]

lemma read_quoted_backslash {q : Char} (hq : '\\' ≠ q) (acc cs : List Char) :
    read (.quoted q acc) ('\\' :: cs) = read (.escape q acc) cs := by
  simp [read_cons, step, hq]

lemma read_quoted_plain {q c : Char} (hq : c ≠ q) (hc : c ≠ '\\') (acc cs : List Char) :
    read (.quoted q acc) (c :: cs) = read (.quoted q (acc ++ [c])) cs := by
  simp [read_cons, step, hq, hc]

lemma read_escape_cons (q c : Char) (acc cs : List Char) :
    read (.escape q acc) (c :: cs) = read (.quoted q (acc ++ unescape c)) cs := by
  simp [read_cons, step]

lemma read_closing_delimiter (q : Char) (acc cs : List Char) :
    read (.closing q acc) (q :: cs) = read (.quoted q (acc ++ [q])) cs := by
  simp [read_cons, step]

/-- A literal has ended once its delimiter is not followed by another one. -/
lemma read_closing {q : Char} {rest : List Char} (h : rest.head? ≠ some q) (acc : List Char) :
    read (.closing q acc) rest = (read .code rest).map (.quoted acc :: ·) := by
  cases rest with
  | nil => rfl
  | cons c cs =>
      have hc : c ≠ q := fun e => h (by rw [e]; rfl)
      rw [read_cons, read_cons .code]
      simp only [step, if_neg hc, List.nil_append]
      rw [enter_out [Token.quoted acc] c, Option.map_map]
      congr 1

/-! ## Self-reading texts are read back -/

lemma scan_quoted_of_selfReading {f : List Char} (h : selfReading f) (acc : List Char) :
    scan (.quoted '\'' acc) f = ⟨[], .quoted '\'' (acc ++ f)⟩ := by
  induction f using selfReading.induct generalizing acc with
  | case1 => simp [scan]
  | case2 => simp [selfReading] at h
  | case3 => simp [selfReading] at h
  | case4 c cs ih =>
      simp only [selfReading, Bool.and_eq_true, Bool.or_eq_true, beq_iff_eq] at h
      obtain ⟨hc, hcs⟩ := h
      have kept : unescape c = ['\\', c] := by rcases hc with rfl | rfl <;> rfl
      have reread := ih hcs (acc ++ ['\\', c])
      simp only [scan, List.foldl_cons, step] at reread ⊢
      simpa [kept] using reread
  | case5 c cs hquote hlone hpair ih =>
      have plain : c ≠ '\'' ∧ c ≠ '\\' := by
        refine ⟨hquote, fun e => ?_⟩
        cases cs with
        | nil => exact hlone e rfl
        | cons d ds => exact hpair d ds e rfl
      rw [selfReading] at h
      · have reread := ih h (acc ++ [c])
        simp only [scan, List.foldl_cons, step, if_neg plain.1, if_neg plain.2] at reread ⊢
        simpa using reread
      all_goals assumption

/-- **A self-reading text between quotes is the literal it was meant to be**, as long as the
closing quote is not doubled by what follows. -/
theorem read_quoted_of_selfReading {f rest : List Char} (h : selfReading f)
    (next : rest.head? ≠ some '\'') :
    read (.quoted '\'' []) (f ++ '\'' :: rest) = (read .code rest).map (.quoted f :: ·) := by
  rw [read_append, scan_quoted_of_selfReading h, List.nil_append, read_quoted_delimiter,
    read_closing next, Option.map_map]
  rfl

/-! ## No other text is -/

/-- From inside a literal the next token completed is that literal, and its value extends what
has been read of it. -/
lemma read_literal_extends (acc cs : List Char) :
    (∀ toks, read (.quoted '\'' acc) cs = some toks →
      ∃ u tl, toks = .quoted (acc ++ u) :: tl) ∧
    (∀ toks, read (.escape '\'' acc) cs = some toks →
      ∃ u tl, toks = .quoted (acc ++ u) :: tl) ∧
    (∀ toks, read (.closing '\'' acc) cs = some toks →
      ∃ u tl, toks = .quoted (acc ++ u) :: tl) := by
  induction cs generalizing acc with
  | nil =>
      refine ⟨by simp, by simp, fun toks h => ⟨[], [], ?_⟩⟩
      rw [List.append_nil]
      exact (Option.some.inj h).symm
  | cons c cs ih =>
      -- a longer value read so far is in particular one that extends `acc`
      have shorten : ∀ {x toks}, (∃ u tl, toks = Token.quoted ((acc ++ x) ++ u) :: tl) →
          ∃ u tl, toks = Token.quoted (acc ++ u) :: tl := by
        rintro x toks ⟨u, tl, rfl⟩
        exact ⟨x ++ u, tl, by rw [List.append_assoc]⟩
      refine ⟨fun toks h => ?_, fun toks h => ?_, fun toks h => ?_⟩
      · by_cases hq : c = '\''
        · subst hq
          rw [read_quoted_delimiter] at h
          exact (ih acc).2.2 toks h
        · by_cases hb : c = '\\'
          · subst hb
            rw [read_quoted_backslash (by decide)] at h
            exact (ih acc).2.1 toks h
          · rw [read_quoted_plain hq hb] at h
            exact shorten ((ih (acc ++ [c])).1 toks h)
      · rw [read_escape_cons] at h
        exact shorten ((ih (acc ++ unescape c)).1 toks h)
      · by_cases hq : c = '\''
        · subst hq
          rw [read_closing_delimiter] at h
          exact shorten ((ih (acc ++ ['\''])).1 toks h)
        · rw [read_closing (by simpa using hq)] at h
          obtain ⟨out, -, rfl⟩ := Option.map_eq_some_iff.mp h
          exact ⟨[], out, by simp⟩

/-- The value of the literal being read, once `x` more of it has been decoded, continues with
`x`. -/
lemma literal_continues {acc x owed cs : List Char} {tl : List Token}
    (h : read (.quoted '\'' (acc ++ x)) cs = some (.quoted (acc ++ owed) :: tl)) :
    x <+: owed := by
  obtain ⟨u, tl', same⟩ := (read_literal_extends (acc ++ x) cs).1 _ h
  have value : acc ++ owed = acc ++ (x ++ u) := by simpa using (List.cons.inj same).1
  exact ⟨u, (List.append_cancel_left value).symm⟩

/-- What `unescape` yields, by kind of character: before `%` and `_` the backslash stays, a quote
or backslash stands for itself, and no other character yields a quote or backslash first. -/
lemma unescape_cases (c : Char) :
    (unescape c = ['\\', c] ∧ (c = '%' ∨ c = '_')) ∨
    (unescape c = [c] ∧ (c = '\'' ∨ c = '\\')) ∨
    (∃ d, unescape c = [d] ∧ d ≠ '\'' ∧ d ≠ '\\') := by
  by_cases hq : c = '\'' ∨ c = '\\'
  · exact Or.inr (Or.inl ⟨by rcases hq with rfl | rfl <;> rfl, hq⟩)
  · rw [not_or] at hq
    unfold unescape
    split
    case h_7 => exact Or.inl ⟨rfl, Or.inl rfl⟩
    case h_8 => exact Or.inl ⟨rfl, Or.inr rfl⟩
    case h_9 => exact Or.inr (Or.inr ⟨c, rfl, hq⟩)
    all_goals exact Or.inr (Or.inr ⟨_, rfl, by decide, by decide⟩)

/-- What a reading owes when its value has fallen behind the text. -/
def Debt (w : List Char) : Prop :=
  ∀ c ∈ w, c = '\'' ∨ c = '\\'

lemma Debt.tail {c : Char} {w : List Char} (h : Debt (c :: w)) : Debt w :=
  fun d hd => h d (by simp [hd])

lemma Debt.snoc {c : Char} {w : List Char} (h : Debt w) (hc : c = '\'' ∨ c = '\\') :
    Debt (w ++ [c]) := by
  intro d hd
  rcases List.mem_append.mp hd with hd | hd
  · exact h d hd
  · rwa [List.mem_singleton.mp hd]

/-- A nonempty debt begins with a quote or a backslash, so nothing else pays it. -/
lemma Debt.not_plain {d : Char} {w v : List Char} (h : Debt w) (hw : w ≠ [])
    (hq : d ≠ '\'') (hb : d ≠ '\\') : ¬ [d] <+: w ++ v := by
  intro paid
  obtain ⟨c, w', rfl⟩ := List.exists_cons_of_ne_nil hw
  obtain rfl : d = c := by simpa using paid
  rcases h d (by simp) with e | e
  · exact hq e
  · exact hb e

/-- What reading `v` up to its closing quote comes to in the three modes of a literal when the
value read so far is behind by the debt `w`: the intended value is reached only if nothing is owed
(or, after a backslash, this backslash alone) and the rest of the text is self-reading. -/
structure Settled (rest v : List Char) : Prop where
  quoted : ∀ acc w {tl}, Debt w →
    read (.quoted '\'' acc) (v ++ '\'' :: rest) = some (.quoted (acc ++ (w ++ v)) :: tl) →
    w = [] ∧ selfReading v
  escape : ∀ {acc w tl}, Debt w → w ≠ [] →
    read (.escape '\'' acc) (v ++ '\'' :: rest) = some (.quoted (acc ++ (w ++ v)) :: tl) →
    w = ['\\'] ∧ selfReading ('\\' :: v)
  closing : ∀ {acc w tl}, Debt w → w ≠ [] →
    read (.closing '\'' acc) (v ++ '\'' :: rest) ≠ some (.quoted (acc ++ (w ++ v)) :: tl)

section

variable {rest v acc w : List Char} {tl : List Token} {y : Char}

/-- A reading that takes in the closing quote of the text also takes in what follows, which no
debt holds. -/
lemma Debt.not_overrun (next : rest.head? ≠ some '\'') (next' : rest.head? ≠ some '\\')
    (debt : Debt w) :
    read (.quoted '\'' (acc ++ ['\''])) rest ≠ some (.quoted (acc ++ w) :: tl) := by
  intro h
  cases hrest : rest with
  | nil => simp [hrest] at h
  | cons c cs =>
      have hq : c ≠ '\'' := fun e => next (by rw [hrest, e]; rfl)
      have hb : c ≠ '\\' := fun e => next' (by rw [hrest, e]; rfl)
      rw [hrest, read_quoted_plain hq hb, List.append_assoc] at h
      obtain ⟨u, hu⟩ := literal_continues h
      rcases debt c (by rw [← hu]; simp) with e | e
      · exact hq e
      · exact hb e

lemma settled_nil (next : rest.head? ≠ some '\'') (next' : rest.head? ≠ some '\\') :
    Settled rest [] where
  quoted := by
    intro acc w tl _ h
    rw [List.nil_append, List.append_nil, read_quoted_delimiter, read_closing next] at h
    obtain ⟨out, -, same⟩ := Option.map_eq_some_iff.mp h
    exact ⟨by simpa using (List.cons.inj same).1, rfl⟩
  escape := by
    intro acc w tl debt _ h
    rw [List.nil_append, List.append_nil, read_escape_cons] at h
    exact absurd h (Debt.not_overrun next next' debt)
  closing := by
    intro acc w tl debt _ h
    rw [List.nil_append, List.append_nil, read_closing_delimiter] at h
    exact absurd h (Debt.not_overrun next next' debt)

lemma owed_cons (acc w v : List Char) (y : Char) :
    acc ++ (w ++ y :: v) = acc ++ ((w ++ [y]) ++ v) := by simp

/-- Paying the first character of a debt leaves a debt one longer than before at its end. -/
lemma paid_cons (acc w v : List Char) (a y : Char) :
    acc ++ (a :: w ++ y :: v) = (acc ++ [a]) ++ ((w ++ [y]) ++ v) := by simp

lemma Settled.cons_quoted (ih : Settled rest v) (debt : Debt w)
    (h : read (.quoted '\'' acc) (y :: v ++ '\'' :: rest)
      = some (.quoted (acc ++ (w ++ y :: v)) :: tl)) :
    w = [] ∧ selfReading (y :: v) := by
  rw [List.cons_append] at h
  by_cases hq : y = '\''
  · -- the quote may close the literal: from here on the reading is behind by it
    subst hq
    rw [read_quoted_delimiter, owed_cons] at h
    exact (ih.closing (debt.snoc (Or.inl rfl)) (by simp) h).elim
  · by_cases hb : y = '\\'
    · subst hb
      rw [read_quoted_backslash (by decide), owed_cons] at h
      obtain ⟨behind, self⟩ := ih.escape (debt.snoc (Or.inr rfl)) (by simp) h
      exact ⟨by simpa using behind, self⟩
    · rw [read_quoted_plain hq hb] at h
      by_cases hw : w = []
      · subst hw
        have self := (ih.quoted (acc ++ [y]) [] (by simp [Debt])
          (by simpa using h)).2
        refine ⟨rfl, ?_⟩
        rw [selfReading]
        · exact self
        all_goals simp_all
      · exact absurd (literal_continues h) (debt.not_plain hw hq hb)

lemma Settled.cons_escape (ih : Settled rest v) (debt : Debt w) (hw : w ≠ [])
    (h : read (.escape '\'' acc) (y :: v ++ '\'' :: rest)
      = some (.quoted (acc ++ (w ++ y :: v)) :: tl)) :
    w = ['\\'] ∧ selfReading ('\\' :: y :: v) := by
  obtain ⟨a, w', rfl⟩ := List.exists_cons_of_ne_nil hw
  rw [List.cons_append, read_escape_cons] at h
  rcases unescape_cases y with ⟨kept, hy⟩ | ⟨itself, hy⟩ | ⟨d, other, hd⟩
  · -- the pair was kept: the reading has caught up if it was behind by the backslash alone
    rw [kept] at h
    obtain ⟨u, hu⟩ := literal_continues h
    cases w' with
    | nil =>
        obtain rfl : '\\' = a := (List.cons.inj hu).1
        have self := (ih.quoted (acc ++ ['\\', y]) [] (by simp [Debt])
          (by simpa using h)).2
        refine ⟨rfl, ?_⟩
        simpa [selfReading, self] using hy
    | cons b w'' =>
        obtain rfl : y = b := (List.cons.inj (List.cons.inj hu).2).1
        rcases debt y (by simp) with rfl | rfl <;> simp at hy
  · -- the pair was shortened: the debt changes its front character for the one just read
    rw [itself] at h
    obtain rfl : y = a := by simpa using literal_continues h
    rw [paid_cons] at h
    have caught := (ih.quoted _ _ (debt.tail.snoc hy) h).1
    simp at caught
  · rw [other] at h
    exact absurd (literal_continues h) (debt.not_plain hw hd.1 hd.2)

lemma Settled.cons_closing (ih : Settled rest v) (debt : Debt w) (hw : w ≠ []) :
    read (.closing '\'' acc) (y :: v ++ '\'' :: rest)
      ≠ some (.quoted (acc ++ (w ++ y :: v)) :: tl) := by
  intro h
  rw [List.cons_append] at h
  by_cases hq : y = '\''
  · -- a doubled quote: again the debt changes its front character
    subst hq
    rw [read_closing_delimiter] at h
    obtain ⟨a, w', rfl⟩ := List.exists_cons_of_ne_nil hw
    obtain rfl : '\'' = a := by simpa using literal_continues h
    rw [paid_cons] at h
    have caught := (ih.quoted _ _ (debt.tail.snoc (Or.inl rfl)) h).1
    simp at caught
  · rw [read_closing (by simpa using hq)] at h
    obtain ⟨out, -, same⟩ := Option.map_eq_some_iff.mp h
    have ended : acc = acc ++ (w ++ y :: v) := by simpa using (List.cons.inj same).1
    simp at ended

/-- **The debt is never paid off.** -/
lemma settled (next : rest.head? ≠ some '\'') (next' : rest.head? ≠ some '\\') (v : List Char) :
    Settled rest v := by
  induction v with
  | nil => exact settled_nil next next'
  | cons y v ih => exact ⟨fun _ _ => ih.cons_quoted, ih.cons_escape, ih.cons_closing⟩

end

/-- **No other text is read back.**  If the first token read from inside the literal has the
intended value, the text is self-reading, whatever stands behind it. -/
theorem selfReading_of_read_quoted {f rest : List Char} {tl : List Token}
    (next : rest.head? ≠ some '\'') (next' : rest.head? ≠ some '\\')
    (h : read (.quoted '\'' []) (f ++ '\'' :: rest) = some (.quoted f :: tl)) :
    selfReading f :=
  ((settled next next' f).quoted [] [] (by simp [Debt]) (by simpa using h)).2

end Sql
