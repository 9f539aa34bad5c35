import Billboard.Library.Sql.Literal
import Billboard.Library.Sql.Statement

/-!
# Statement texts with fields filled in

The texts a program builds by concatenation: fixed text, then fields between single quotes, each
followed by more fixed text.  `Glue` is a piece of fixed text behind a closing quote together with
its tokens; `literals` is the part of the text with the fields.

**`reads_fill_iff`**: such a text reads as the statement it was built for exactly when every field
put into it is self-reading.
-/

namespace Sql

/-- Fixed text between the closing quote of one literal and the opening quote of the next, or the
end.  It is complete tokens, and it neither doubles the quote before it nor begins with a
backslash. -/
structure Glue where
  text : List Char
  tokens : List Token
  reads : scan .code text = ⟨tokens, .code⟩
  not_quote : text.head? ≠ some '\''
  not_backslash : text.head? ≠ some '\\'

/-- A field and the fixed text behind its closing quote. -/
abbrev Piece := List Char × Glue

/-- The part of the text with the fields. -/
def literals : List Piece → List Char
  | [] => []
  | (f, g) :: rest => '\'' :: f ++ '\'' :: (g.text ++ literals rest)

/-- Its tokens, as they were meant. -/
def literalTokens : List Piece → List Token
  | [] => []
  | (f, g) :: rest => .quoted f :: (g.tokens ++ literalTokens rest)

/-- Two literals are never adjacent. -/
def Separated : List Piece → Prop
  | [] => True
  | [_] => True
  | (_, g) :: p :: rest => g.text ≠ [] ∧ Separated (p :: rest)

lemma Separated.tail {p : Piece} {rest : List Piece} (h : Separated (p :: rest)) :
    Separated rest := by
  cases rest with
  | nil => trivial
  | cons p' rest => exact h.2

/-- What follows a closing quote of a separated text is its glue, or the end. -/
lemma Separated.head_ne {f : List Char} {g : Glue} {rest : List Piece}
    (h : Separated ((f, g) :: rest)) :
    (g.text ++ literals rest).head? ≠ some '\'' ∧ (g.text ++ literals rest).head? ≠ some '\\' := by
  have first : g.text ++ literals rest = g.text ∨ g.text ≠ [] := by
    cases rest with
    | nil => exact Or.inl (by simp [literals])
    | cons p rest => exact Or.inr h.1
  rcases first with e | ne
  · rw [e]
    exact ⟨g.not_quote, g.not_backslash⟩
  · obtain ⟨c, cs, hc⟩ := List.exists_cons_of_ne_nil ne
    have := g.not_quote
    have := g.not_backslash
    simp_all

lemma read_literals_cons (f : List Char) (g : Glue) (rest : List Piece) :
    read .code (literals ((f, g) :: rest))
      = read (.quoted '\'' []) (f ++ '\'' :: (g.text ++ literals rest)) := by
  rw [literals, List.cons_append, read_cons]
  exact Option.map_id'

lemma read_glue (g : Glue) (cs : List Char) :
    read .code (g.text ++ cs) = (read .code cs).map (g.tokens ++ ·) := by
  rw [read_append, g.reads]

/-- A self-reading field contributes its literal and its glue. -/
lemma read_literals_of_selfReading {f : List Char} {g : Glue} {rest : List Piece}
    (sep : Separated ((f, g) :: rest)) (h : selfReading f) :
    read .code (literals ((f, g) :: rest))
      = (read .code (literals rest)).map (fun toks => .quoted f :: (g.tokens ++ toks)) := by
  rw [read_literals_cons, read_quoted_of_selfReading h sep.head_ne.1, read_glue, Option.map_map]
  rfl

/-- **Self-reading fields are read as they were meant.** -/
theorem read_literals {pieces : List Piece} (sep : Separated pieces)
    (h : ∀ p ∈ pieces, selfReading p.1) :
    read .code (literals pieces) = some (literalTokens pieces) := by
  induction pieces with
  | nil => rfl
  | cons p rest ih =>
      obtain ⟨f, g⟩ := p
      rw [read_literals_of_selfReading sep (h (f, g) (by simp)),
        ih sep.tail fun p hp => h p (by simp [hp])]
      rfl

/-! ## The converse -/

/-- A literal shields the tokens before it from the final semicolon. -/
lemma stripSemicolon_quoted (pre : List Token) (f : List Char) (ts : List Token) :
    stripSemicolon (pre ++ .quoted f :: ts) = pre ++ .quoted f :: stripSemicolon ts := by
  rcases List.eq_nil_or_concat ts with rfl | ⟨ts', last, rfl⟩
  · simp [stripSemicolon, semicolon]
  · have regroup : pre ++ Token.quoted f :: (ts' ++ [last])
        = (pre ++ Token.quoted f :: ts') ++ [last] := by simp
    rw [List.concat_eq_append, regroup, stripSemicolon, stripSemicolon]
    simp only [List.getLast?_concat, List.dropLast_concat]
    split_ifs <;> simp

lemma stripSemicolon_quoted_cons (f : List Char) (ts : List Token) :
    stripSemicolon (.quoted f :: ts) = .quoted f :: stripSemicolon ts :=
  stripSemicolon_quoted [] f ts

/-- From inside a text with fields, the first token is the first literal, whatever its value. -/
lemma head_of_read_literals {f : List Char} {g : Glue} {rest : List Piece} {toks : List Token}
    (h : read .code (literals ((f, g) :: rest)) = some toks) :
    ∃ u tl, toks = .quoted u :: tl := by
  rw [read_literals_cons] at h
  obtain ⟨u, tl, same⟩ := (read_literal_extends [] _).1 toks h
  exact ⟨u, tl, by simpa using same⟩

/-- **Only self-reading fields are read as they were meant**, a final semicolon aside. -/
theorem selfReading_of_read_literals {pieces : List Piece} (sep : Separated pieces)
    {toks : List Token} (h : read .code (literals pieces) = some toks)
    (meant : stripSemicolon toks = stripSemicolon (literalTokens pieces)) :
    ∀ p ∈ pieces, selfReading p.1 := by
  induction pieces generalizing toks with
  | nil => simp
  | cons p rest ih =>
      obtain ⟨f, g⟩ := p
      obtain ⟨u, tl, rfl⟩ := head_of_read_literals h
      rw [literalTokens, stripSemicolon_quoted_cons, stripSemicolon_quoted_cons,
        List.cons.injEq, Token.quoted.injEq] at meant
      obtain ⟨rfl, meant⟩ := meant
      have self : selfReading u := by
        rw [read_literals_cons] at h
        exact selfReading_of_read_quoted sep.head_ne.1 sep.head_ne.2 h
      rw [read_literals_of_selfReading sep self] at h
      obtain ⟨toks', reads, same⟩ := Option.map_eq_some_iff.mp h
      obtain rfl : g.tokens ++ toks' = tl := (List.cons.inj same).2
      rintro p hp
      rcases List.mem_cons.mp hp with rfl | hp
      · exact self
      · -- there is a next literal: it shields the glue from the final semicolon
        obtain ⟨⟨f', g'⟩, rest', rfl⟩ := List.exists_cons_of_ne_nil (List.ne_nil_of_mem hp)
        obtain ⟨u', tl', rfl⟩ := head_of_read_literals reads
        rw [literalTokens, stripSemicolon_quoted, stripSemicolon_quoted] at meant
        refine ih sep.tail reads ?_ p hp
        rw [literalTokens, stripSemicolon_quoted_cons, stripSemicolon_quoted_cons]
        exact List.append_cancel_left meant

/-- **A filled-in text reads as the statement it was built for exactly when its fields are
self-reading.**  `pre` is the fixed text before the first field. -/
theorem reads_fill_iff {pre : List Char} (preTokens : List Token) {pieces : List Piece} {s : Stmt}
    (fixed : scan .code pre = ⟨preTokens, .code⟩) (sep : Separated pieces) (fields : pieces ≠ [])
    (tokens : s.tokens = stripSemicolon (preTokens ++ literalTokens pieces)) :
    Reads (pre ++ literals pieces) s ↔ ∀ p ∈ pieces, selfReading p.1 := by
  have text : lex (pre ++ literals pieces)
      = (read .code (literals pieces)).map (preTokens ++ ·) := by
    rw [lex, read_append, fixed]
  rw [Reads, text, Option.map_map, tokens]
  constructor
  · intro h
    obtain ⟨toks, reads, meant⟩ := Option.map_eq_some_iff.mp h
    obtain ⟨⟨f, g⟩, rest, rfl⟩ := List.exists_cons_of_ne_nil fields
    obtain ⟨u, tl, rfl⟩ := head_of_read_literals reads
    refine selfReading_of_read_literals sep reads ?_
    rw [Function.comp_apply, literalTokens, stripSemicolon_quoted, stripSemicolon_quoted] at meant
    rw [literalTokens, stripSemicolon_quoted_cons, stripSemicolon_quoted_cons]
    exact List.append_cancel_left meant
  · intro h
    rw [read_literals sep h]
    rfl

end Sql
