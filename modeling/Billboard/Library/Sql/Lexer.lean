import Mathlib.Data.List.Basic
import Mathlib.Data.Nat.Notation
import Mathlib.Tactic.Lemma

/-!
# The lexical rules of MariaDB

A statement text is read character by character.  The reader is a state machine: `Mode` says what
the characters read so far leave open, `step` reads one more, `finish` closes the text.  The rules
are those of the default `sql_mode`: single and double quotes both delimit string literals, a
doubled delimiter and backslash escapes stand for characters inside one, `#`, `-- ` and `/* */`
are comments, words are case-insensitive.

`read m cs` is what the reader makes of `cs` when it starts in mode `m`; `lex` starts it between
two tokens.  Everything later is proved from `read_append` and the equations of `read` for the
modes of a literal, never from the reader's definition.

An executable comment (`/*! … */`) makes the server run its content; the rules here stop at one
(`Mode.unread`) instead of reading on.
-/

namespace Sql

/-- A token of a statement.  A literal carries its decoded value. -/
inductive Token
  | word (w : List Char)
  | number (digits : List Char)
  | quoted (v : List Char)
  | symbol (c : Char)
  deriving DecidableEq, Repr

/-- What the text read so far leaves open. -/
inductive Mode
  | code
  | word (acc : List Char)
  | quoted (q : Char) (acc : List Char)
  | escape (q : Char) (acc : List Char)
  | closing (q : Char) (acc : List Char)
  | identifier (acc : List Char)
  | dash
  | dashes
  | slash
  | line
  | blockOpen
  | blockOpenM
  | block
  | blockStar
  | unread
  deriving DecidableEq, Repr

/-- The tokens completed so far and the mode. -/
structure Lexer where
  out : List Token
  mode : Mode
  deriving DecidableEq, Repr

/-! ## Character classes -/

/-- White space: tab, line feed, vertical tab, form feed, carriage return, blank. -/
def isSpace (c : Char) : Bool :=
  c.toNat == 32 || (9 ≤ c.toNat && c.toNat ≤ 13)

def isControl (c : Char) : Bool :=
  c.toNat < 32 || c.toNat == 127

/-- The characters of unquoted words and numbers. -/
def isWordChar (c : Char) : Bool :=
  c.isAlphanum || c == '_' || c == '$' || 0x80 ≤ c.toNat

/-- A run of word characters is a number when all of them are digits.  Keywords and column names
are case-insensitive, so words are folded to lower case. -/
def wordToken (acc : List Char) : Token :=
  if acc.all Char.isDigit then .number acc else .word (acc.map Char.toLower)

/-- What a backslash and the character after it stand for.  Before `%` and `_` the backslash
stays, since it still matters to `LIKE`. -/
def unescape : Char → List Char
  | 'n' => ['\n']
  | 't' => ['\t']
  | 'r' => ['\r']
  | 'b' => [Char.ofNat 8]
  | '0' => [Char.ofNat 0]
  | 'Z' => [Char.ofNat 26]
  | '%' => ['\\', '%']
  | '_' => ['\\', '_']
  | c => [c]

/-! ## The reader -/

/-- Reading `c` between two tokens. -/
def enter (out : List Token) (c : Char) : Lexer :=
  if isSpace c then ⟨out, .code⟩
  else if isWordChar c then ⟨out, .word [c]⟩
  else match c with
    | '\'' => ⟨out, .quoted '\'' []⟩
    | '"' => ⟨out, .quoted '"' []⟩
    | '\x60' => ⟨out, .identifier []⟩
    | '#' => ⟨out, .line⟩
    | '-' => ⟨out, .dash⟩
    | '/' => ⟨out, .slash⟩
    | c => ⟨out ++ [.symbol c], .code⟩

/-- Reading one character. -/
def step (s : Lexer) (c : Char) : Lexer :=
  match s.mode with
  | .code => enter s.out c
  | .word acc =>
      if isWordChar c then ⟨s.out, .word (acc ++ [c])⟩ else enter (s.out ++ [wordToken acc]) c
  | .quoted q acc =>
      if c = q then ⟨s.out, .closing q acc⟩
      else if c = '\\' then ⟨s.out, .escape q acc⟩
      else ⟨s.out, .quoted q (acc ++ [c])⟩
  | .escape q acc => ⟨s.out, .quoted q (acc ++ unescape c)⟩
  -- a second delimiter makes the pair stand for one; anything else has closed the literal
  | .closing q acc =>
      if c = q then ⟨s.out, .quoted q (acc ++ [q])⟩ else enter (s.out ++ [.quoted acc]) c
  | .identifier acc =>
      if c = '\x60' then ⟨s.out ++ [.word (acc.map Char.toLower)], .code⟩
      else ⟨s.out, .identifier (acc ++ [c])⟩
  | .dash => if c = '-' then ⟨s.out, .dashes⟩ else enter (s.out ++ [.symbol '-']) c
  -- two dashes begin a comment only before white space or a control character
  | .dashes =>
      if isSpace c || isControl c then (if c = '\n' then ⟨s.out, .code⟩ else ⟨s.out, .line⟩)
      else if c = '-' then ⟨s.out ++ [.symbol '-'], .dashes⟩
      else enter (s.out ++ [.symbol '-', .symbol '-']) c
  | .slash => if c = '*' then ⟨s.out, .blockOpen⟩ else enter (s.out ++ [.symbol '/']) c
  | .line => if c = '\n' then ⟨s.out, .code⟩ else ⟨s.out, .line⟩
  | .blockOpen =>
      if c = '!' then ⟨s.out, .unread⟩
      else if c = 'M' then ⟨s.out, .blockOpenM⟩
      else if c = '*' then ⟨s.out, .blockStar⟩ else ⟨s.out, .block⟩
  | .blockOpenM =>
      if c = '!' then ⟨s.out, .unread⟩
      else if c = '*' then ⟨s.out, .blockStar⟩ else ⟨s.out, .block⟩
  | .block => if c = '*' then ⟨s.out, .blockStar⟩ else ⟨s.out, .block⟩
  | .blockStar =>
      if c = '/' then ⟨s.out, .code⟩
      else if c = '*' then ⟨s.out, .blockStar⟩ else ⟨s.out, .block⟩
  | .unread => ⟨s.out, .unread⟩

/-- The end of the text: `none` inside a literal, a quoted identifier or a block comment. -/
def finish (s : Lexer) : Option (List Token) :=
  match s.mode with
  | .code | .line | .dashes => some s.out
  | .word acc => some (s.out ++ [wordToken acc])
  | .closing _ acc => some (s.out ++ [.quoted acc])
  | .dash => some (s.out ++ [.symbol '-'])
  | .slash => some (s.out ++ [.symbol '/'])
  | .quoted _ _ | .escape _ _ | .identifier _ | .blockOpen | .blockOpenM | .block | .blockStar
  | .unread => none

/-- The reader after `cs`, started in mode `m` with no token completed. -/
def scan (m : Mode) (cs : List Char) : Lexer :=
  cs.foldl step ⟨[], m⟩

/-- The tokens of `cs` when the reader starts in mode `m`. -/
def read (m : Mode) (cs : List Char) : Option (List Token) :=
  finish (scan m cs)

/-- The tokens of a statement text, `none` when the text ends inside a token or comment. -/
def lex (text : List Char) : Option (List Token) :=
  read .code text

/-! ## Completed tokens do not influence the reader -/

lemma enter_out (out : List Token) (c : Char) :
    enter out c = ⟨out ++ (enter [] c).out, (enter [] c).mode⟩ := by
  unfold enter
  split_ifs
  · simp
  · simp
  · split <;> simp

lemma step_out (out : List Token) (m : Mode) (c : Char) :
    step ⟨out, m⟩ c = ⟨out ++ (step ⟨[], m⟩ c).out, (step ⟨[], m⟩ c).mode⟩ := by
  cases m with
  | code => exact enter_out out c
  | escape q acc => simp [step]
  | unread => simp [step]
  | word _ | closing _ _ | dash | dashes | slash =>
      simp only [step]
      rw [enter_out (out ++ _), enter_out ([] ++ _)]
      split_ifs <;> simp
  | _ =>
      simp only [step]
      split_ifs <;> simp

lemma foldl_step_out (out : List Token) (m : Mode) (cs : List Char) :
    cs.foldl step ⟨out, m⟩ = ⟨out ++ (scan m cs).out, (scan m cs).mode⟩ := by
  induction cs generalizing out m with
  | nil => simp [scan]
  | cons c cs ih =>
      rw [List.foldl_cons, step_out, ih, List.append_assoc]
      rw [show scan m (c :: cs) = cs.foldl step (step ⟨[], m⟩ c) from rfl]
      rw [ih (step ⟨[], m⟩ c).out (step ⟨[], m⟩ c).mode]

lemma finish_out (out : List Token) (m : Mode) :
    finish ⟨out, m⟩ = (finish ⟨[], m⟩).map (out ++ ·) := by
  cases m <;> simp [finish]

/-- **Reading a concatenation.**  The second part is read from the mode the first part leaves. -/
theorem read_append (m : Mode) (a b : List Char) :
    read m (a ++ b) = (read (scan m a).mode b).map ((scan m a).out ++ ·) := by
  rw [read, scan, List.foldl_append, ← scan, foldl_step_out, finish_out, read]
  conv_rhs => rw [show scan (scan m a).mode b
    = ⟨(scan (scan m a).mode b).out, (scan (scan m a).mode b).mode⟩ from rfl, finish_out]
  rw [Option.map_map]
  congr 1
  funext out
  simp

lemma read_cons (m : Mode) (c : Char) (cs : List Char) :
    read m (c :: cs) = (read (step ⟨[], m⟩ c).mode cs).map ((step ⟨[], m⟩ c).out ++ ·) :=
  read_append m [c] cs

/-! ## Numbers -/

lemma isWordChar_of_isDigit {c : Char} (h : c.isDigit) : isWordChar c := by
  simp [isWordChar, Char.isAlphanum, h]

lemma not_isSpace_of_isDigit {c : Char} (h : c.isDigit) : isSpace c = false := by
  simp only [Char.isDigit, ge_iff_le, Bool.and_eq_true, decide_eq_true_eq] at h
  have lower : 48 ≤ c.toNat := h.1
  simp only [isSpace, Bool.or_eq_false_iff, beq_eq_false_iff_ne, Bool.and_eq_false_iff,
    decide_eq_false_iff_not]
  omega

lemma scan_word {cs : List Char} (h : ∀ c ∈ cs, isWordChar c) (acc : List Char) :
    scan (.word acc) cs = ⟨[], .word (acc ++ cs)⟩ := by
  induction cs generalizing acc with
  | nil => simp [scan]
  | cons c cs ih =>
      have rest := ih (fun d hd => h d (by simp [hd])) (acc ++ [c])
      simp only [scan, List.foldl_cons, step, if_pos (h c (by simp))] at rest ⊢
      simpa using rest

/-- A word ends before the first character that is not one of its own. -/
lemma read_word_end {rest : List Char} (next : ∀ c, rest.head? = some c → isWordChar c = false)
    (acc : List Char) :
    read (.word acc) rest = (read .code rest).map (wordToken acc :: ·) := by
  cases rest with
  | nil => rfl
  | cons c cs =>
      have hc := next c rfl
      rw [read_cons, read_cons .code]
      simp only [step, hc, List.nil_append]
      rw [if_neg Bool.false_ne_true, enter_out [wordToken acc] c, Option.map_map]
      congr 1

/-- **A run of digits is read as the number it writes.** -/
theorem read_number {ds rest : List Char} (digits : ∀ c ∈ ds, c.isDigit) (nonempty : ds ≠ [])
    (next : ∀ c, rest.head? = some c → isWordChar c = false) :
    read .code (ds ++ rest) = (read .code rest).map (.number ds :: ·) := by
  obtain ⟨d, ds, rfl⟩ := List.exists_cons_of_ne_nil nonempty
  have first : step ⟨[], .code⟩ d = ⟨[], .word [d]⟩ := by
    have hd := digits d (by simp)
    simp [step, enter, not_isSpace_of_isDigit hd, isWordChar_of_isDigit hd]
  have word : wordToken (d :: ds) = .number (d :: ds) := by
    rw [wordToken, if_pos (List.all_eq_true.mpr digits)]
  have run : scan (.word [d]) ds = ⟨[], .word (d :: ds)⟩ :=
    scan_word (fun c hc => isWordChar_of_isDigit (digits c (by simp [hc]))) [d]
  rw [List.cons_append, read_cons, first, read_append, run, read_word_end next, word,
    Option.map_map, Option.map_map]
  rfl

end Sql
