import Billboard.Library.Sql.Lexer
import Mathlib.Data.Int.Notation

/-!
# Statements and their token sequences

The statements of one table with literal values: `INSERT`, `UPDATE` and `DELETE` of the rows with
a given value in one column, `SELECT *`.  `Stmt.tokens` is the token sequence a statement is
written with, `parse` goes back, and **`parse_tokens`** says that the sequence determines the
statement.

`Reads text s` is what a statement text has to satisfy to be exactly the statement `s`: its tokens,
by the lexical rules, are those of `s`, up to a final semicolon.  `readStatement` computes the
statement of a text.
-/

namespace Sql

/-- A name of a table or column, in lower case. -/
abbrev Name := List Char

/-- The name `s`. -/
def name (s : String) : Name :=
  s.toList

/-- A literal value. -/
inductive Value
  | null
  | text (v : List Char)
  | number (n : ℤ)
  deriving DecidableEq, Repr

/-- The right side of a comparison, possibly in parentheses. -/
inductive Operand
  | bare (v : Value)
  | parens (v : Value)
  deriving DecidableEq, Repr

def Operand.value : Operand → Value
  | .bare v => v
  | .parens v => v

/-- A statement.  The rows of an `update` or `delete` are those whose column `key` compares equal
to the operand. -/
inductive Stmt
  | insert (table : Name) (columns : Option (List Name)) (values : List Value)
  | update (table : Name) (assigns : List (Name × Value)) (key : Name) (operand : Operand)
  | delete (table : Name) (key : Name) (operand : Operand)
  | selectAll (table : Name)
  deriving DecidableEq, Repr

/-! ## Writing a statement -/

/-- The keyword `s`. -/
def kw (s : String) : Token :=
  .word s.toList

def comma : Token := .symbol ','
def equals : Token := .symbol '='
def opening : Token := .symbol '('
def closing : Token := .symbol ')'
def semicolon : Token := .symbol ';'

def Value.tokens : Value → List Token
  | .null => [kw "null"]
  | .text v => [.quoted v]
  | .number n =>
      if n < 0 then [.symbol '-', .number (Nat.toDigits 10 n.natAbs)]
      else [.number (Nat.toDigits 10 n.natAbs)]

def Operand.tokens : Operand → List Token
  | .bare v => v.tokens
  | .parens v => opening :: v.tokens ++ [closing]

def commaSep (groups : List (List Token)) : List Token :=
  [comma].intercalate groups

def assignTokens (a : Name × Value) : List Token :=
  .word a.1 :: equals :: a.2.tokens

def columnsTokens : Option (List Name) → List Token
  | none => []
  | some cs => opening :: commaSep (cs.map fun c => [.word c]) ++ [closing]

/-- The token sequence of a statement, without a final semicolon. -/
def Stmt.tokens : Stmt → List Token
  | .insert t cs vs =>
      [kw "insert", kw "into", .word t] ++ columnsTokens cs ++ [kw "values", opening]
        ++ commaSep (vs.map Value.tokens) ++ [closing]
  | .update t as k o =>
      [kw "update", .word t, kw "set"] ++ commaSep (as.map assignTokens)
        ++ [kw "where", .word k, equals] ++ o.tokens
  | .delete t k o =>
      [kw "delete", kw "from", .word t, kw "where", .word k, equals] ++ o.tokens
  | .selectAll t => [kw "select", .symbol '*', kw "from", .word t]

/-- A final semicolon ends the statement and is not part of it. -/
def stripSemicolon (ts : List Token) : List Token :=
  if ts.getLast? = some semicolon then ts.dropLast else ts

/-- **The text is exactly the statement `s`.** -/
def Reads (text : List Char) (s : Stmt) : Prop :=
  (lex text).map stripSemicolon = some s.tokens

instance (text : List Char) (s : Stmt) : Decidable (Reads text s) :=
  inferInstanceAs (Decidable (_ = _))

/-! ## Reading a statement back -/

/-- The rest of `ts` behind the tokens `p`. -/
def expect (p ts : List Token) : Option (List Token) :=
  if p <+: ts then some (ts.drop p.length) else none

/-- What stands before a final closing parenthesis. -/
def unclose (ts : List Token) : Option (List Token) :=
  if ts.getLast? = some closing then some ts.dropLast else none

def parseName : List Token → Option (Name × List Token)
  | .word w :: ts => some (w, ts)
  | _ => none

def parseValue : List Token → Option Value
  | [.word w] => if w = "null".toList then some .null else none
  | [.quoted v] => some (.text v)
  | [.number ds] => some (.number (Nat.ofDigitChars 10 ds 0))
  | [.symbol '-', .number ds] => some (.number (-(Nat.ofDigitChars 10 ds 0)))
  | _ => none

def parseOperand : List Token → Option Operand
  | .symbol '(' :: ts => (unclose ts).bind fun ts => (parseValue ts).map .parens
  | ts => (parseValue ts).map .bare

def parseColumn : List Token → Option Name
  | [.word w] => some w
  | _ => none

def parseAssign : List Token → Option (Name × Value)
  | .word c :: .symbol '=' :: ts => (parseValue ts).map (c, ·)
  | _ => none

/-- The elements of a comma-separated list. -/
def parseList {α : Type} (p : List Token → Option α) (ts : List Token) : Option (List α) :=
  (ts.splitOn comma).mapM p

/-- An optional parenthesised column list, up to the keyword `values`. -/
def parseColumns : List Token → Option (Option (List Name) × List Token)
  | .symbol '(' :: ts =>
      (parseList parseColumn (ts.takeWhile (· != closing))).map fun cs =>
        (some cs, (ts.dropWhile (· != closing)).drop 1)
  | ts => some (none, ts)

def parseInsert (ts : List Token) : Option Stmt := do
  let ts ← expect [kw "insert", kw "into"] ts
  let (t, ts) ← parseName ts
  let (cs, ts) ← parseColumns ts
  let ts ← expect [kw "values", opening] ts
  let vs ← parseList parseValue (← unclose ts)
  return .insert t cs vs

/-- What stands behind `where`: a column, an equals sign, an operand. -/
def parseWhere (ts : List Token) : Option (Name × Operand) := do
  let (k, ts) ← parseName (← expect [kw "where"] ts)
  let o ← parseOperand (← expect [equals] ts)
  return (k, o)

def parseUpdate (ts : List Token) : Option Stmt := do
  let (t, ts) ← parseName (← expect [kw "update"] ts)
  let ts ← expect [kw "set"] ts
  let as ← parseList parseAssign (ts.takeWhile (· != kw "where"))
  let (k, o) ← parseWhere (ts.dropWhile (· != kw "where"))
  return .update t as k o

def parseDelete (ts : List Token) : Option Stmt := do
  let (t, ts) ← parseName (← expect [kw "delete", kw "from"] ts)
  let (k, o) ← parseWhere ts
  return .delete t k o

def parseSelect (ts : List Token) : Option Stmt := do
  let (t, ts) ← parseName (← expect [kw "select", .symbol '*', kw "from"] ts)
  if ts = [] then return .selectAll t else none

/-- The statement with the token sequence `ts`. -/
def parse (ts : List Token) : Option Stmt :=
  parseInsert ts <|> parseUpdate ts <|> parseDelete ts <|> parseSelect ts

/-- The statement of a text. -/
def readStatement (text : List Char) : Option Stmt :=
  ((lex text).map stripSemicolon).bind parse

/-! ## The token sequence determines the statement -/

@[simp] lemma expect_append (p ts : List Token) : expect p (p ++ ts) = some ts := by
  simp [expect]

@[simp] lemma unclose_snoc (ts : List Token) : unclose (ts ++ [closing]) = some ts := by
  simp [unclose]

lemma parseValue_tokens (v : Value) : parseValue v.tokens = some v := by
  cases v with
  | null => rfl
  | text v => rfl
  | number n =>
      simp only [Value.tokens]
      split_ifs with hn
      · simp only [parseValue, Nat.ofDigitChars_ten_toDigits, Option.some.injEq]
        congr 1
        omega
      · simp only [parseValue, Nat.ofDigitChars_ten_toDigits, Option.some.injEq]
        congr 1
        omega

lemma value_tokens_ne_opening (v : Value) (ts : List Token) : v.tokens ≠ .symbol '(' :: ts := by
  cases v with
  | null => simp [Value.tokens, kw]
  | text v => simp [Value.tokens]
  | number n => simp only [Value.tokens]; split_ifs <;> simp

lemma symbol_not_mem_value_tokens {c : Char} (hc : c ≠ '-') (v : Value) :
    .symbol c ∉ v.tokens := by
  cases v with
  | null => simp [Value.tokens, kw]
  | text v => simp [Value.tokens]
  | number n => simp only [Value.tokens]; split_ifs <;> simp [hc]

lemma parseOperand_tokens (o : Operand) : parseOperand o.tokens = some o := by
  cases o with
  | bare v =>
      have value := parseValue_tokens v
      rw [Operand.tokens, parseOperand, value]
      · rfl
      · exact fun ts => value_tokens_ne_opening v ts
  | parens v => simp [Operand.tokens, opening, parseOperand, parseValue_tokens]

/-- A comma-separated list is read back when its elements are and hold no comma. -/
lemma parseList_commaSep {α : Type} {p : List Token → Option α} {f : α → List Token} {xs : List α}
    (elements : ∀ x ∈ xs, p (f x) = some x) (commas : ∀ x ∈ xs, comma ∉ f x) (nonempty : xs ≠ []) :
    parseList p (commaSep (xs.map f)) = some xs := by
  rw [parseList, commaSep, List.splitOn_intercalate]
  · rw [List.mapM_map]
    clear commas nonempty
    induction xs with
    | nil => rfl
    | cons x xs ih =>
        rw [List.mapM_cons, ih fun y hy => elements y (by simp [hy]), Function.comp_apply,
          elements x (by simp)]
        rfl
  · intro l hl
    obtain ⟨x, hx, rfl⟩ := List.mem_map.mp hl
    exact commas x hx
  · simpa using nonempty

lemma mem_commaSep {t : Token} {groups : List (List Token)} (h : t ∈ commaSep groups) :
    t = comma ∨ ∃ g ∈ groups, t ∈ g := by
  induction groups with
  | nil => simp [commaSep] at h
  | cons g gs ih =>
      cases gs with
      | nil => exact Or.inr ⟨g, by simp, by simpa [commaSep] using h⟩
      | cons g' gs =>
          have split : commaSep (g :: g' :: gs) = g ++ comma :: commaSep (g' :: gs) := by
            simp [commaSep, List.intercalate]
          rw [split, List.mem_append, List.mem_cons] at h
          rcases h with h | h | h
          · exact Or.inr ⟨g, by simp, h⟩
          · exact Or.inl h
          · rcases ih h with h | ⟨k, hk, h⟩
            · exact Or.inl h
            · exact Or.inr ⟨k, List.mem_cons_of_mem g hk, h⟩

/-- Cutting a token sequence at the first `stop` finds the one that was put there. -/
lemma cut_at {stop : Token} {ts : List Token} (rest : List Token) (h : stop ∉ ts) :
    (ts ++ stop :: rest).takeWhile (· != stop) = ts ∧
      (ts ++ stop :: rest).dropWhile (· != stop) = stop :: rest := by
  have inside : ∀ t ∈ ts, (t != stop) = true := fun t ht => by
    rw [bne_iff_ne]
    rintro rfl
    exact h ht
  constructor
  · rw [List.takeWhile_append_of_pos inside]
    simp
  · rw [List.dropWhile_append_of_pos inside]
    simp

/-- The lists of a statement are nonempty, and no assigned column has the name of the keyword
that ends the list of assignments. -/
def Stmt.WellNamed : Stmt → Prop
  | .insert _ cs vs => (∀ l, cs = some l → l ≠ []) ∧ vs ≠ []
  | .update _ as _ _ => as ≠ [] ∧ ∀ a ∈ as, a.1 ≠ name "where"
  | .delete _ _ _ => True
  | .selectAll _ => True

lemma parseColumns_tokens {cs : Option (List Name)} (nonempty : ∀ l, cs = some l → l ≠ [])
    (ts : List Token) :
    parseColumns (columnsTokens cs ++ kw "values" :: ts) = some (cs, kw "values" :: ts) := by
  cases cs with
  | none => rfl
  | some l =>
      have names : closing ∉ commaSep (l.map fun c => [Token.word c]) := fun h => by
        rcases mem_commaSep h with h | ⟨g, hg, h⟩
        · simp [comma, closing] at h
        · obtain ⟨c, -, rfl⟩ := List.mem_map.mp hg
          simp [closing] at h
      have cut := cut_at (kw "values" :: ts) names
      have list : parseList parseColumn (commaSep (l.map fun c => [Token.word c])) = some l :=
        parseList_commaSep (fun c _ => rfl) (fun c _ => by simp [comma]) (nonempty l rfl)
      simp only [columnsTokens, opening, parseColumns, List.cons_append, List.append_assoc,
        List.nil_append]
      rw [cut.1, cut.2, list]
      rfl

lemma parseWhere_tokens (k : Name) (o : Operand) :
    parseWhere (kw "where" :: .word k :: equals :: o.tokens) = some (k, o) := by
  have h1 := expect_append [kw "where"] (.word k :: equals :: o.tokens)
  have h2 := expect_append [equals] o.tokens
  simp only [List.cons_append, List.nil_append] at h1 h2
  simp [parseWhere, h1, h2, parseName, parseOperand_tokens]

lemma assigns_tokens {as : List (Name × Value)} (nonempty : as ≠ [])
    (names : ∀ a ∈ as, a.1 ≠ name "where") :
    parseList parseAssign (commaSep (as.map assignTokens)) = some as ∧
      kw "where" ∉ commaSep (as.map assignTokens) := by
  constructor
  · refine parseList_commaSep (fun a _ => ?_) (fun a _ => ?_) nonempty
    · simp [assignTokens, equals, parseAssign, parseValue_tokens]
    · have := symbol_not_mem_value_tokens (c := ',') (by decide) a.2
      simp_all [assignTokens, comma, equals]
  · intro h
    rcases mem_commaSep h with h | ⟨g, hg, h⟩
    · simp [kw, comma] at h
    · obtain ⟨a, ha, rfl⟩ := List.mem_map.mp hg
      simp only [assignTokens, List.mem_cons] at h
      rcases h with h | h | h
      · exact names a ha (by simpa [kw, name] using h.symm)
      · simp [kw, equals] at h
      · cases hv : a.2 with
        | null => rw [hv] at h; revert h; decide
        | text v => rw [hv] at h; simp [Value.tokens, kw] at h
        | number n => rw [hv, Value.tokens] at h; split_ifs at h <;> simp [kw] at h

/-- **The token sequence determines the statement.** -/
theorem parse_tokens {s : Stmt} (h : s.WellNamed) : parse s.tokens = some s := by
  cases s with
  | insert t cs vs =>
      have values : parseList parseValue (commaSep (vs.map Value.tokens)) = some vs :=
        parseList_commaSep (fun v _ => parseValue_tokens v)
          (fun v _ => symbol_not_mem_value_tokens (by decide) v) h.2
      have h1 := expect_append [kw "insert", kw "into"]
        (.word t :: (columnsTokens cs ++ kw "values" :: opening ::
          (commaSep (vs.map Value.tokens) ++ [closing])))
      have h2 := expect_append [kw "values", opening]
        (commaSep (vs.map Value.tokens) ++ [closing])
      have h3 := parseColumns_tokens h.1 (opening :: (commaSep (vs.map Value.tokens) ++ [closing]))
      simp only [List.cons_append, List.nil_append] at h1 h2 h3
      have insert : parseInsert (Stmt.insert t cs vs).tokens = some (.insert t cs vs) := by
        simp [parseInsert, Stmt.tokens, h1, h2, h3, parseName, values]
      rw [parse, insert]
      rfl
  | update t as k o =>
      obtain ⟨list, noWhere⟩ := assigns_tokens h.1 h.2
      have cut := cut_at (.word k :: equals :: o.tokens) noWhere
      have h1 := expect_append [kw "update"]
        (.word t :: kw "set" :: (commaSep (as.map assignTokens) ++ kw "where" :: .word k ::
          equals :: o.tokens))
      have h2 := expect_append [kw "set"]
        (commaSep (as.map assignTokens) ++ kw "where" :: .word k :: equals :: o.tokens)
      simp only [List.cons_append, List.nil_append] at h1 h2
      have insert : parseInsert (Stmt.update t as k o).tokens = none := rfl
      have update : parseUpdate (Stmt.update t as k o).tokens = some (.update t as k o) := by
        simp [parseUpdate, Stmt.tokens, h1, h2, parseName, cut.1, cut.2, list,
          parseWhere_tokens]
      rw [parse, insert, update]
      rfl
  | delete t k o =>
      have h1 := expect_append [kw "delete", kw "from"]
        (.word t :: kw "where" :: .word k :: equals :: o.tokens)
      simp only [List.cons_append, List.nil_append] at h1
      have insert : parseInsert (Stmt.delete t k o).tokens = none := rfl
      have update : parseUpdate (Stmt.delete t k o).tokens = none := rfl
      have delete : parseDelete (Stmt.delete t k o).tokens = some (.delete t k o) := by
        simp [parseDelete, Stmt.tokens, h1, parseName, parseWhere_tokens]
      rw [parse, insert, update, delete]
      rfl
  | selectAll t => rfl

/-- A text that reads as `s` is read as `s`. -/
theorem readStatement_of_reads {text : List Char} {s : Stmt} (h : Reads text s)
    (named : s.WellNamed) : readStatement text = some s := by
  rw [readStatement, show (lex text).map stripSemicolon = some s.tokens from h, Option.bind_some,
    parse_tokens named]

/-! ## What an `INSERT` starts with -/

def Stmt.isInsert : Stmt → Bool
  | .insert _ _ _ => true
  | _ => false

lemma head_of_expect {t : Token} {p ts us : List Token} (h : expect (t :: p) ts = some us) :
    ts.head? = some t := by
  rw [expect] at h
  split_ifs at h with starts
  obtain ⟨rest, rfl⟩ := starts
  rfl

/-- Only a token sequence that starts with the keyword is parsed as an `INSERT`. -/
lemma head_of_parse_insert {ts : List Token} {s : Stmt} (h : parse ts = some s)
    (insert : s.isInsert) : ts.head? = some (kw "insert") := by
  simp only [parse, Option.orElse_eq_orElse, Option.orElse_eq_or, Option.or_eq_some_iff] at h
  rcases h with h | ⟨-, h | ⟨-, h | ⟨-, h⟩⟩⟩
  · simp only [parseInsert, Option.bind_eq_bind, Option.bind_eq_some_iff] at h
    obtain ⟨us, expected, -⟩ := h
    exact head_of_expect expected
  · simp only [parseUpdate, Option.bind_eq_bind, Option.bind_eq_some_iff] at h
    obtain ⟨_, -, _, -, _, -, _, -, _, -, h⟩ := h
    obtain rfl := Option.some.inj h
    exact absurd insert (by simp [Stmt.isInsert])
  · simp only [parseDelete, Option.bind_eq_bind, Option.bind_eq_some_iff] at h
    obtain ⟨_, -, _, -, _, -, h⟩ := h
    obtain rfl := Option.some.inj h
    exact absurd insert (by simp [Stmt.isInsert])
  · simp only [parseSelect, Option.bind_eq_bind, Option.bind_eq_some_iff] at h
    obtain ⟨_, -, _, -, h⟩ := h
    split_ifs at h
    obtain rfl := Option.some.inj h
    exact absurd insert (by simp [Stmt.isInsert])

lemma head_stripSemicolon (t t' : Token) (ts : List Token) :
    (stripSemicolon (t :: t' :: ts)).head? = some t := by
  rw [stripSemicolon]
  split_ifs <;> rfl

/-- Nor is a text with another first word read as one, whatever follows its fixed beginning. -/
theorem not_insert_of_readStatement {pre rest : List Char} {t t' : Token} {ts : List Token}
    {s : Stmt} (fixed : (scan .code pre).out = t :: t' :: ts) (other : t ≠ kw "insert")
    (h : readStatement (pre ++ rest) = some s) : s.isInsert = false := by
  rw [readStatement, lex, read_append, fixed] at h
  by_contra insert
  rw [Bool.not_eq_false] at insert
  obtain ⟨tokens, read, parsed⟩ := Option.bind_eq_some_iff.mp h
  obtain ⟨out, ⟨us, -, rfl⟩, rfl⟩ := by simpa only [Option.map_eq_some_iff] using read
  have head := head_of_parse_insert parsed insert
  rw [List.cons_append, List.cons_append, head_stripSemicolon] at head
  exact other (Option.some.inj head)

end Sql
