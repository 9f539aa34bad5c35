import Mathlib.Algebra.Group.Nat.Defs
import Mathlib.Data.Int.Notation
import Mathlib.Data.Nat.Notation
import Mathlib.Tactic.Lemma

/-!
# Java texts and the integers written in them

A Java `String` is modelled by the list of its characters; `utf16` are the units by which Java
counts and indexes them.  `Integer.toString` is the decimal text of a 32-bit integer and
`Integer.parseInt` reads one back; the two meet in **`parseInt_decimal`**.
-/

namespace Java

/-- A Java `String`. -/
abbrev Text := List Char

/-! ## Units -/

/-- The UTF-16 units of a character. -/
def units (c : Char) : List ℕ :=
  if c.toNat < 0x10000 then [c.toNat]
  else [0xD800 + (c.toNat - 0x10000) / 0x400, 0xDC00 + (c.toNat - 0x10000) % 0x400]

/-- The UTF-16 units of a text. -/
def utf16 (s : Text) : List ℕ :=
  s.flatMap units

/-- The units of `s.substring(0, n)`, `none` for its `StringIndexOutOfBoundsException`. -/
def substring (s : Text) (n : ℕ) : Option (List ℕ) :=
  if n ≤ (utf16 s).length then some ((utf16 s).take n) else none

lemma units_of_lt {c : Char} (h : c.toNat < 0x10000) : units c = [c.toNat] :=
  if_pos h

/-- A prefix without surrogates is one of the characters, too. -/
lemma take_utf16_eq_iff {w : Text} (plain : ∀ c ∈ w, c.toNat < 0xD800) (s : Text) :
    (utf16 s).take w.length = utf16 w ↔ s.take w.length = w := by
  induction w generalizing s with
  | nil => simp [utf16]
  | cons c w ih =>
      have small : c.toNat < 0xD800 := plain c (by simp)
      have word : utf16 (c :: w) = c.toNat :: utf16 w := by
        rw [utf16, List.flatMap_cons, units_of_lt (by omega)]
        rfl
      have later := ih fun d hd => plain d (by simp [hd])
      rw [word, List.length_cons]
      cases s with
      | nil => simp [utf16]
      | cons d s =>
          rw [List.take_succ_cons, List.cons.injEq, ← later s, utf16, List.flatMap_cons]
          by_cases single : d.toNat < 0x10000
          · rw [units_of_lt single, List.singleton_append, List.take_succ_cons, List.cons.injEq,
              Char.toNat_inj]
            rfl
          · -- the first of two surrogates is no unit of `w`
            rw [units, if_neg single, List.cons_append, List.take_succ_cons, List.cons.injEq]
            refine iff_of_false ?_ ?_
            · rintro ⟨surrogate, -⟩
              omega
            · rintro ⟨rfl, -⟩
              omega

/-! ## Writing integers -/

/-- `Integer.toString(k)`, and what string concatenation inserts for an `Integer`. -/
def decimal (k : Int32) : Text :=
  (toString k.toInt).toList

lemma decimal_of_nonneg {k : Int32} (h : 0 ≤ k.toInt) :
    decimal k = Nat.toDigits 10 k.toInt.toNat := by
  obtain ⟨n, hn⟩ := Int.eq_ofNat_of_zero_le h
  rw [decimal, hn]
  exact Nat.toList_repr

lemma decimal_of_neg {k : Int32} (h : k.toInt < 0) :
    decimal k = '-' :: Nat.toDigits 10 k.toInt.natAbs := by
  obtain ⟨n, hn⟩ := Int.eq_negSucc_of_lt_zero h
  rw [decimal, hn]
  show ("-" ++ n.succ.repr).toList = _
  simp

/-- Every character of a decimal text is a digit or the minus sign. -/
lemma isDigit_or_minus_of_mem_decimal {k : Int32} {c : Char} (h : c ∈ decimal k) :
    c.isDigit ∨ c = '-' := by
  by_cases hk : k.toInt < 0
  · rw [decimal_of_neg hk, List.mem_cons] at h
    rcases h with h | h
    · exact Or.inr h
    · exact Or.inl (Nat.isDigit_of_mem_toDigits (by decide) (by decide) h)
  · rw [decimal_of_nonneg (by omega)] at h
    exact Or.inl (Nat.isDigit_of_mem_toDigits (by decide) (by decide) h)

/-! ## Reading integers -/

/-- The code points of the decimal zeros of Unicode's basic plane.  `Integer.parseInt` looks at
UTF-16 units one by one, so digits outside the basic plane are not digits for it. -/
def decimalZeros : List ℕ :=
  [0x30, 0x660, 0x6F0, 0x7C0, 0x966, 0x9E6, 0xA66, 0xAE6, 0xB66, 0xBE6, 0xC66, 0xCE6, 0xD66,
   0xDE6, 0xE50, 0xED0, 0xF20, 0x1040, 0x1090, 0x17E0, 0x1810, 0x1946, 0x19D0, 0x1A80, 0x1A90,
   0x1B50, 0x1BB0, 0x1C40, 0x1C50, 0xA620, 0xA8D0, 0xA900, 0xA9D0, 0xA9F0, 0xAA50, 0xABF0,
   0xFF10]

/-- `Character.digit(c, 10)`, with `none` for its `-1`. -/
def digit (c : Char) : Option ℕ :=
  decimalZeros.findSome? fun z =>
    if z ≤ c.toNat ∧ c.toNat < z + 10 then some (c.toNat - z) else none

/-- The number that a run of digits denotes, read from the left. -/
def digitsValue (n : ℕ) : Text → Option ℕ
  | [] => some n
  | c :: cs => (digit c).bind fun d => digitsValue (10 * n + d) cs

/-- The unsigned part of `Integer.parseInt`: at least one digit. -/
def magnitude : Text → Option ℕ
  | [] => none
  | cs => digitsValue 0 cs

/-- `Integer.parseInt(s)`, which `Integer.valueOf(String)` also is: an optional sign, then
digits, within the 32-bit range.  `none` stands for its `NumberFormatException`. -/
def parseInt (s : Text) : Option Int32 :=
  match s with
  | '-' :: ds => (magnitude ds).bind fun n =>
      if n ≤ 2 ^ 31 then some (Int32.ofInt (-n)) else none
  | '+' :: ds => (magnitude ds).bind fun n =>
      if n < 2 ^ 31 then some (Int32.ofInt n) else none
  | ds => (magnitude ds).bind fun n =>
      if n < 2 ^ 31 then some (Int32.ofInt n) else none

@[simp] lemma parseInt_nil : parseInt [] = none := rfl

lemma digit_of_isDigit {c : Char} (h : c.isDigit) : digit c = some (c.toNat - '0'.toNat) := by
  have hc : 0x30 ≤ c.toNat ∧ c.toNat < 0x30 + 10 := by
    simp only [Char.isDigit, ge_iff_le, Bool.and_eq_true, decide_eq_true_eq] at h
    have h1 : (48 : ℕ) ≤ c.toNat := h.1
    have h2 : c.toNat ≤ 57 := h.2
    omega
  rw [digit, decimalZeros, List.findSome?_cons, if_pos hc]
  rfl

lemma digitsValue_of_isDigit {cs : Text} (h : ∀ c ∈ cs, c.isDigit) (n : ℕ) :
    digitsValue n cs = some (Nat.ofDigitChars 10 cs n) := by
  induction cs generalizing n with
  | nil => simp [digitsValue]
  | cons c cs ih =>
      rw [digitsValue, digit_of_isDigit (h c (by simp)), Option.bind_some,
        ih fun d hd => h d (by simp [hd]), Nat.ofDigitChars_cons]

lemma magnitude_toDigits (n : ℕ) : magnitude (Nat.toDigits 10 n) = some n := by
  have digits : ∀ c ∈ Nat.toDigits 10 n, c.isDigit := fun c hc =>
    Nat.isDigit_of_mem_toDigits (by decide) (by decide) hc
  cases hds : Nat.toDigits 10 n with
  | nil => exact absurd hds Nat.toDigits_ne_nil
  | cons c cs =>
      rw [magnitude, ← hds, digitsValue_of_isDigit digits, Nat.ofDigitChars_ten_toDigits]
      simp

/-- A run of digits carries no sign, so `parseInt` takes its last branch on it. -/
lemma parseInt_toDigits (n : ℕ) :
    parseInt (Nat.toDigits 10 n) = if n < 2 ^ 31 then some (Int32.ofInt n) else none := by
  have digits : ∀ c ∈ Nat.toDigits 10 n, c.isDigit := fun c hc =>
    Nat.isDigit_of_mem_toDigits (by decide) (by decide) hc
  have value := magnitude_toDigits n
  cases hds : Nat.toDigits 10 n with
  | nil => exact absurd hds Nat.toDigits_ne_nil
  | cons c cs =>
      rw [hds] at value digits
      have hc : c.isDigit := digits c (by simp)
      have hminus : c ≠ '-' := by rintro rfl; exact absurd hc (by decide)
      have hplus : c ≠ '+' := by rintro rfl; exact absurd hc (by decide)
      simp [parseInt, hminus, hplus, value]

/-- **Reading back a decimal text gives the integer it was written from.** -/
theorem parseInt_decimal (k : Int32) : parseInt (decimal k) = some k := by
  have lower := k.le_toInt
  have upper := k.toInt_lt
  by_cases hk : k.toInt < 0
  · rw [decimal_of_neg hk, parseInt, magnitude_toDigits, Option.bind_some, if_pos (by omega)]
    rw [show (-(k.toInt.natAbs : ℤ)) = k.toInt by omega, Int32.ofInt_toInt]
  · rw [decimal_of_nonneg (by omega), parseInt_toDigits, if_pos (by omega),
      Int.toNat_of_nonneg (by omega), Int32.ofInt_toInt]

end Java
