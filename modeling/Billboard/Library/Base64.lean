import Mathlib.Data.Nat.Notation
import Mathlib.Tactic.Lemma

/-!
# Base64

The standard encoding of byte strings: three bytes are written as four characters of the alphabet,
and `=` stands for the characters that a last group of one or two bytes lacks.  The decoder takes
the padding or its absence, but no padding of another length and nothing after it.

**`decode_encode`**: what has been encoded is read back.
-/

namespace Base64

/-! ## The alphabet -/

def alphabet : List Char :=
  "ABCDEFGHIJKLMNOPQRSTUVWXYZabcdefghijklmnopqrstuvwxyz0123456789+/".toList

/-- The character of a number below 64. -/
def digit (n : ℕ) : Char :=
  alphabet.getD n '='

/-- The number of a character of the alphabet. -/
def value (c : Char) : Option ℕ :=
  if c ∈ alphabet then some (alphabet.idxOf c) else none

lemma alphabet_nodup : alphabet.Nodup := by
  decide +kernel

lemma value_digit {n : ℕ} (h : n < 64) : value (digit n) = some n := by
  have inside : n < alphabet.length := h
  have digit_eq : digit n = alphabet[n] := by
    rw [digit, List.getD_eq_getElem?_getD, List.getElem?_eq_getElem inside, Option.getD_some]
  rw [digit_eq, value, if_pos (List.getElem_mem inside), alphabet_nodup.idxOf_getElem n inside]

lemma value_pad : value '=' = none := by
  decide +kernel

lemma digit_ne_pad {n : ℕ} (h : n < 64) : digit n ≠ '=' := by
  intro pad
  have some_value := value_digit h
  rw [pad, value_pad] at some_value
  exact Option.some_ne_none n some_value.symm

/-! ## Groups -/

/-- Three bytes as a number of 24 bits. -/
def bits (a b c : UInt8) : ℕ :=
  a.toNat * 65536 + b.toNat * 256 + c.toNat

/-- The bytes that four characters stand for. -/
def group (c₀ c₁ c₂ c₃ : Char) : Option (List UInt8) := do
  let v₀ ← value c₀
  let v₁ ← value c₁
  let v₂ ← value c₂
  let v₃ ← value c₃
  let n := ((v₀ * 64 + v₁) * 64 + v₂) * 64 + v₃
  some [UInt8.ofNat (n / 65536), UInt8.ofNat (n / 256), UInt8.ofNat n]

lemma bits_lt (a b c : UInt8) : bits a b c < 16777216 := by
  have ha := a.toNat_lt
  have hb := b.toNat_lt
  have hc := c.toNat_lt
  rw [bits]
  omega

/-- The characters of a number stand for its three bytes. -/
lemma group_digits (a b c : UInt8) :
    group (digit (bits a b c / 262144)) (digit (bits a b c / 4096 % 64))
      (digit (bits a b c / 64 % 64)) (digit (bits a b c % 64)) = some [a, b, c] := by
  have small := bits_lt a b c
  have first : bits a b c / 262144 < 64 := by omega
  have whole : ((bits a b c / 262144 * 64 + bits a b c / 4096 % 64) * 64
      + bits a b c / 64 % 64) * 64 + bits a b c % 64 = bits a b c := by omega
  have ha := a.toNat_lt
  have hb := b.toNat_lt
  have hc := c.toNat_lt
  have byte₀ : UInt8.ofNat (bits a b c / 65536) = a := by
    apply UInt8.toNat_inj.mp
    rw [UInt8.toNat_ofNat', bits]
    omega
  have byte₁ : UInt8.ofNat (bits a b c / 256) = b := by
    apply UInt8.toNat_inj.mp
    rw [UInt8.toNat_ofNat', bits]
    omega
  have byte₂ : UInt8.ofNat (bits a b c) = c := by
    apply UInt8.toNat_inj.mp
    rw [UInt8.toNat_ofNat', bits]
    omega
  rw [group, value_digit first, value_digit (Nat.mod_lt _ (by omega)),
    value_digit (Nat.mod_lt _ (by omega)), value_digit (Nat.mod_lt _ (by omega))]
  simp only [Option.bind_eq_bind, Option.bind_some, whole, byte₀, byte₁, byte₂]

/-! ## Byte strings -/

/-- The Base64 text of a byte string. -/
def encode : List UInt8 → List Char
  | [] => []
  | [a] => [digit (bits a 0 0 / 262144), digit (bits a 0 0 / 4096 % 64), '=', '=']
  | [a, b] => [digit (bits a b 0 / 262144), digit (bits a b 0 / 4096 % 64),
      digit (bits a b 0 / 64 % 64), '=']
  | a :: b :: c :: rest => digit (bits a b c / 262144) :: digit (bits a b c / 4096 % 64)
      :: digit (bits a b c / 64 % 64) :: digit (bits a b c % 64) :: encode rest

/-- The byte string of a text.  A last group of two or three characters is read as if it were filled
up with zero bits, whether or not the padding stands there. -/
def decode : List Char → Option (List UInt8)
  | [] => some []
  | [_] => none
  | [c₀, c₁] => (group c₀ c₁ 'A' 'A').map (List.take 1)
  | [c₀, c₁, c₂] => (group c₀ c₁ c₂ 'A').map (List.take 2)
  | c₀ :: c₁ :: c₂ :: c₃ :: rest =>
    if c₃ = '=' then
      if rest ≠ [] then none
      else if c₂ = '=' then (group c₀ c₁ 'A' 'A').map (List.take 1)
      else (group c₀ c₁ c₂ 'A').map (List.take 2)
    else (group c₀ c₁ c₂ c₃).bind fun bytes => (decode rest).map (bytes ++ ·)

/-- **What has been encoded is read back.** -/
theorem decode_encode (bytes : List UInt8) : decode (encode bytes) = some bytes := by
  fun_induction encode bytes with
  | case1 => rfl
  | case2 a =>
      have zeros := group_digits a 0 0
      have third : bits a 0 0 / 64 % 64 = 0 := by
        simp only [bits, UInt8.toNat_ofNat]
        omega
      have fourth : bits a 0 0 % 64 = 0 := by
        simp only [bits, UInt8.toNat_ofNat]
        omega
      rw [third, fourth] at zeros
      rw [decode, if_pos rfl, if_neg (not_not_intro rfl), if_pos rfl]
      exact congrArg (Option.map (List.take 1)) zeros
  | case3 a b =>
      have zeros := group_digits a b 0
      have fourth : bits a b 0 % 64 = 0 := by
        simp only [bits, UInt8.toNat_ofNat]
        omega
      rw [fourth] at zeros
      rw [decode, if_pos rfl, if_neg (not_not_intro rfl),
        if_neg (digit_ne_pad (Nat.mod_lt _ (by omega)))]
      exact congrArg (Option.map (List.take 2)) zeros
  | case4 a b c rest ih =>
      rw [decode, if_neg (digit_ne_pad (Nat.mod_lt _ (by omega))), group_digits, ih]
      rfl

/-- Four characters are the text of three bytes. -/
lemma take_encode (bytes : List UInt8) : (encode bytes).take 4 = encode (bytes.take 3) := by
  fun_cases encode bytes with
  | case1 => rfl
  | case2 a => rfl
  | case3 a b => rfl
  | case4 a b c rest => rfl

/-- Only one byte string has a given text. -/
lemma encode_injective {bytes bytes' : List UInt8} (h : encode bytes = encode bytes') :
    bytes = bytes' := by
  have same := decode_encode bytes
  rw [h, decode_encode] at same
  exact (Option.some.inj same).symm

end Base64
