import Mathlib.Algebra.Group.Int.Defs
import Mathlib.Algebra.Group.Nat.Defs
import Mathlib.Data.List.TakeWhile

/-!
# Numbers in hexadecimal text

Two readers of such a number: `scanHex` is the conversion `%x` of `sscanf` with a field
width, which reads as far as it can, and `parseHex` is `Integer.parseInt` with radix 16,
which wants the whole text. On a text of digits alone that fits the width both read its
number (`scanHex_digits`, `parseHex_digits`).
-/

set_option autoImplicit false

namespace Library

/-- The value of a hexadecimal digit. -/
def hexDigit (c : Char) : Option ℕ :=
  if '0' ≤ c ∧ c ≤ '9' then some (c.toNat - '0'.toNat)
  else if 'a' ≤ c ∧ c ≤ 'f' then some (c.toNat - 'a'.toNat + 10)
  else if 'A' ≤ c ∧ c ≤ 'F' then some (c.toNat - 'A'.toNat + 10)
  else none

/-- A text of digits alone. -/
def HexDigits (text : List Char) : Prop := ∀ c ∈ text, (hexDigit c).isSome

instance (text : List Char) : Decidable (HexDigits text) :=
  List.decidableBAll (fun c => (hexDigit c).isSome = true) text

/-- The number that such a text spells. -/
def hexNumber (text : List Char) : ℕ := text.foldl (fun n c => 16 * n + (hexDigit c).getD 0) 0

/-- The sign of a number, and what follows it. -/
def signOf : List Char → ℤ × List Char
  | '-' :: rest => (-1, rest)
  | '+' :: rest => (1, rest)
  | text => (1, text)

/-- What follows the mark `0x`, which may be missing. -/
def afterMark : List Char → List Char
  | '0' :: 'x' :: rest => rest
  | '0' :: 'X' :: rest => rest
  | text => text

/-- The characters that `isspace` accepts. -/
def isSpace (c : Char) : Bool := c = ' ' || (9 ≤ c.toNat && c.toNat ≤ 13)

/-- `sscanf` with `%x` and a field width: white space is skipped, and at most `width`
characters are read. -/
def scanHex (width : ℕ) (text : List Char) : Option ℤ :=
  let (sign, rest) := signOf ((text.dropWhile isSpace).take width)
  let digits := (afterMark rest).takeWhile fun c => (hexDigit c).isSome
  if digits = [] then none else some (sign * hexNumber digits)

/-- `Integer.parseInt` with radix 16; it throws where there is no value. -/
def parseHex (text : List Char) : Option ℤ :=
  let (sign, digits) := signOf text
  let number := sign * hexNumber digits
  if digits ≠ [] ∧ HexDigits digits ∧ -2 ^ 31 ≤ number ∧ number < 2 ^ 31 then some number
  else none

/-! ## Digits alone -/

theorem hexDigit_lt {c : Char} {digit : ℕ} (read : hexDigit c = some digit) : digit < 16 := by
  simp only [hexDigit, Char.le_def, UInt32.le_iff_toNat_le] at read
  split at read
  · rename_i within
    rw [Option.some.injEq] at read
    have upper : c.toNat ≤ 57 := within.2
    have lower : '0'.toNat = 48 := rfl
    omega
  · split at read
    · rename_i within
      rw [Option.some.injEq] at read
      have upper : c.toNat ≤ 102 := within.2
      have lower : 'a'.toNat = 97 := rfl
      omega
    · split at read
      · rename_i within
        rw [Option.some.injEq] at read
        have upper : c.toNat ≤ 70 := within.2
        have lower : 'A'.toNat = 65 := rfl
        omega
      · cases read

/-- The digits lie behind the white space. -/
theorem hexDigit_ge {c : Char} (read : (hexDigit c).isSome) : 48 ≤ c.toNat := by
  simp only [hexDigit, Char.le_def, UInt32.le_iff_toNat_le] at read
  split at read
  · rename_i within
    exact within.1
  · split at read
    · rename_i within
      exact Nat.le_trans (by decide : 48 ≤ 'a'.toNat) within.1
    · split at read
      · rename_i within
        exact Nat.le_trans (by decide : 48 ≤ 'A'.toNat) within.1
      · cases read

/-- A number of few digits is small. -/
theorem hexNumber_lt (text : List Char) : hexNumber text < 16 ^ text.length := by
  have general : ∀ (text : List Char) (start bound : ℕ), start < bound →
      text.foldl (fun n c => 16 * n + (hexDigit c).getD 0) start < bound * 16 ^ text.length := by
    intro text
    induction text with
    | nil =>
        intro start bound below
        simpa using below
    | cons c text ih =>
        intro start bound below
        have digit : (hexDigit c).getD 0 < 16 := by
          cases read : hexDigit c with
          | none => decide
          | some digit => exact hexDigit_lt read
        have shifted := ih (16 * start + (hexDigit c).getD 0) (bound * 16) (by omega)
        rw [List.length_cons, Nat.pow_succ', ← Nat.mul_assoc]
        exact shifted
  have bounded := general text 0 1 Nat.one_pos
  rwa [Nat.one_mul] at bounded

section

variable {text : List Char} (digits : HexDigits text)

include digits

theorem signOf_digits : signOf text = (1, text) := by
  rw [signOf.eq_def]
  split
  · exact absurd (digits '-' (List.mem_cons_self ..)) (by decide)
  · exact absurd (digits '+' (List.mem_cons_self ..)) (by decide)
  · rfl

theorem afterMark_digits : afterMark text = text := by
  rw [afterMark.eq_def]
  split
  · exact absurd (digits 'x' (by simp)) (by decide)
  · exact absurd (digits 'X' (by simp)) (by decide)
  · rfl

theorem dropWhile_space_digits : text.dropWhile isSpace = text := by
  cases text with
  | nil => rfl
  | cons c text =>
      have digit := hexDigit_ge (digits c (List.mem_cons_self ..))
      rw [List.dropWhile_cons_of_neg]
      intro space
      have white : c.toNat = 32 ∨ 9 ≤ c.toNat ∧ c.toNat ≤ 13 := by
        simp only [isSpace, Bool.or_eq_true, decide_eq_true_eq, Bool.and_eq_true] at space
        rcases space with rfl | within
        · exact .inl rfl
        · exact .inr within
      omega

/-- **Digits alone that fit the width are read whole.** -/
theorem scanHex_digits {width : ℕ} (nonempty : text ≠ []) (fits : text.length ≤ width) :
    scanHex width text = some (hexNumber text : ℤ) := by
  have whole : text.takeWhile (fun c => (hexDigit c).isSome) = text :=
    List.takeWhile_eq_self_iff.mpr digits
  simp only [scanHex, dropWhile_space_digits digits, List.take_of_length_le fits,
    signOf_digits digits, afterMark_digits digits, whole, if_neg nonempty, Int.one_mul]

/-- **So they are where the number is small.** -/
theorem parseHex_digits (nonempty : text ≠ []) (short : text.length ≤ 7) :
    parseHex text = some (hexNumber text : ℤ) := by
  have bounded : hexNumber text < 16 ^ 7 :=
    Nat.lt_of_lt_of_le (hexNumber_lt text) (Nat.pow_le_pow_right (by decide) short)
  simp only [parseHex, signOf_digits digits, Int.one_mul]
  rw [if_pos]
  exact ⟨nonempty, digits, by omega, by omega⟩

end

end Library
