import Mathlib.Algebra.Ring.Nat
import Mathlib.Data.List.Induction
import Mathlib.Data.List.TakeWhile
import Mathlib.Tactic.Common

/-! Decimal and hexadecimal numerals as character lists. A reader takes the
longest leading run of digits; a printed numeral is read back to its value.
Printing is `Nat.toDigits`, which is minimal and uses lower-case letters. -/

namespace Qsox.Numeral

def digits (s : List Char) : List Char := s.takeWhile Char.isDigit

def afterDigits (s : List Char) : List Char := s.dropWhile Char.isDigit

def value (ds : List Char) : ℕ := Nat.ofDigitChars 10 ds 0

@[simp] theorem digits_eq_self_iff {s : List Char} :
    digits s = s ↔ ∀ c ∈ s, c.isDigit = true :=
  List.takeWhile_eq_self_iff

@[simp] theorem afterDigits_eq_nil_iff {s : List Char} :
    afterDigits s = [] ↔ ∀ c ∈ s, c.isDigit = true :=
  List.dropWhile_eq_nil_iff

theorem digits_ne_nil_iff {s : List Char} :
    digits s ≠ [] ↔ ∃ c rest, s = c :: rest ∧ c.isDigit = true := by
  cases s with
  | nil => simp [digits]
  | cons c rest => by_cases h : c.isDigit = true <;> simp [digits, h]

theorem digits_append_cons {c : Char} (h : c.isDigit = false) (s t : List Char) :
    digits (s ++ c :: t) = digits s := by
  induction s with
  | nil => simp [digits, h]
  | cons d s ih =>
    unfold digits at ih ⊢
    by_cases hd : d.isDigit = true <;> simp [hd, ih]

theorem isDigit_of_mem_decimal {n : ℕ} {c : Char} (h : c ∈ Nat.toDigits 10 n) :
    c.isDigit = true :=
  Nat.isDigit_of_mem_toDigits (by decide) (by decide) h

@[simp] theorem digits_decimal (n : ℕ) : digits (Nat.toDigits 10 n) = Nat.toDigits 10 n :=
  digits_eq_self_iff.mpr fun _ => isDigit_of_mem_decimal

@[simp] theorem afterDigits_decimal (n : ℕ) : afterDigits (Nat.toDigits 10 n) = [] :=
  afterDigits_eq_nil_iff.mpr fun _ => isDigit_of_mem_decimal

@[simp] theorem value_decimal (n : ℕ) : value (Nat.toDigits 10 n) = n :=
  Nat.ofDigitChars_ten_toDigits

theorem not_mem_decimal {c : Char} (h : c.isDigit = false) (n : ℕ) :
    c ∉ Nat.toDigits 10 n := by
  intro hc
  rw [isDigit_of_mem_decimal hc] at h
  cases h

theorem head_toDigits_ne_zero {base n : ℕ} (two : 2 ≤ base) (hex : base ≤ 16) (h : n ≠ 0) :
    (Nat.toDigits base n).head? ≠ some '0' := by
  induction n using Nat.strongRecOn with
  | ind n ih =>
    rw [Nat.toDigits_eq_if (by omega)]
    split_ifs with small
    · have digit : ∀ d < 16, d ≠ 0 → Nat.digitChar d ≠ '0' := by decide
      have first := digit n (by omega) h
      simpa using first
    · have shorter := ih (n / base) (Nat.div_lt_self (by omega) (by omega))
        (Nat.div_pos (by omega) (by omega)).ne'
      obtain ⟨c, rest, printed⟩ :=
        List.exists_cons_of_ne_nil (Nat.toDigits_ne_nil : Nat.toDigits base (n / base) ≠ [])
      rw [printed] at shorter ⊢
      exact shorter

theorem head_decimal_ne_zero {n : ℕ} (h : n ≠ 0) : (Nat.toDigits 10 n).head? ≠ some '0' :=
  head_toDigits_ne_zero (by decide) (by decide) h

def isHexDigit (c : Char) : Bool :=
  c.isDigit || ('a' ≤ c && c ≤ 'f') || ('A' ≤ c && c ≤ 'F')

def hexDigitValue (c : Char) : ℕ :=
  if c.isDigit then c.toNat - '0'.toNat
  else if 'a' ≤ c then c.toNat - 'a'.toNat + 10
  else c.toNat - 'A'.toNat + 10

def hexValue (ds : List Char) : ℕ :=
  ds.foldl (fun acc c => 16 * acc + hexDigitValue c) 0

theorem hexValue_append_singleton (ds : List Char) (c : Char) :
    hexValue (ds ++ [c]) = 16 * hexValue ds + hexDigitValue c := by
  simp [hexValue]

theorem isHexDigit_digitChar {n : ℕ} (h : n < 16) : isHexDigit n.digitChar = true := by
  decide +revert

theorem hexDigitValue_digitChar {n : ℕ} (h : n < 16) : hexDigitValue n.digitChar = n := by
  decide +revert

theorem hexDigitValue_lt {c : Char} (h : isHexDigit c = true) : hexDigitValue c < 16 := by
  have decimal : c.isDigit = true ↔ 48 ≤ c.val.toNat ∧ c.val.toNat ≤ 57 := by
    simp [Char.isDigit, UInt32.le_iff_toNat_le]
  simp only [isHexDigit, Bool.or_eq_true, Bool.and_eq_true, decide_eq_true_eq, Char.le_def,
    UInt32.le_iff_toNat_le, decimal] at h
  simp only [hexDigitValue, decimal, Char.toNat, Char.le_def, UInt32.le_iff_toNat_le]
  simp only [Char.reduceVal, UInt32.reduceToNat] at h ⊢
  split_ifs <;> omega

theorem hexValue_lt {s : List Char} (hex : ∀ c ∈ s, isHexDigit c = true) :
    hexValue s < 16 ^ s.length := by
  induction s using List.reverseRecOn with
  | nil => simp [hexValue]
  | append_singleton s c ih =>
    have hs := ih fun d hd => hex d (by simp [hd])
    have hc := hexDigitValue_lt (hex c (by simp))
    rw [hexValue_append_singleton, List.length_append, List.length_singleton, Nat.pow_succ]
    omega

theorem isHexDigit_of_isDigit {c : Char} (h : c.isDigit = true) : isHexDigit c = true := by
  simp [isHexDigit, h]

theorem mem_toDigits {b n : ℕ} (base : 1 < b) {c : Char} (h : c ∈ Nat.toDigits b n) :
    ∃ d < b, c = d.digitChar := by
  induction n using Nat.strongRecOn with
  | ind n ih =>
    rw [Nat.toDigits_eq_if base] at h
    split_ifs at h with small
    · exact ⟨n, small, List.mem_singleton.mp h⟩
    · rcases List.mem_append.mp h with early | last
      · exact ih (n / b) (Nat.div_lt_self (by omega) base) early
      · exact ⟨n % b, Nat.mod_lt n (by omega), List.mem_singleton.mp last⟩

theorem isHexDigit_of_mem_hexadecimal {n : ℕ} {c : Char} (h : c ∈ Nat.toDigits 16 n) :
    isHexDigit c = true := by
  obtain ⟨d, small, rfl⟩ := mem_toDigits (by decide) h
  exact isHexDigit_digitChar small

@[simp] theorem hexValue_hexadecimal (n : ℕ) : hexValue (Nat.toDigits 16 n) = n := by
  induction n using Nat.strongRecOn with
  | ind n ih =>
    rw [Nat.toDigits_eq_if (by decide)]
    split_ifs with small
    · simpa [hexValue] using hexDigitValue_digitChar small
    · have last : n % 16 < 16 := Nat.mod_lt n (by decide)
      rw [hexValue_append_singleton, ih (n / 16) (by omega), hexDigitValue_digitChar last]
      omega

/-- What is written in the shortest way: lower-case digits and no leading zero. -/
structure IsMinimalHex (s : List Char) (n : ℕ) : Prop where
  lower : ∀ c ∈ s, c.isDigit = true ∨ 'a' ≤ c ∧ c ≤ 'f'
  value : hexValue s = n
  minimal : s = ['0'] ∨ s ≠ [] ∧ s.head? ≠ some '0'

theorem lower_of_mem_hexadecimal {n : ℕ} {c : Char} (h : c ∈ Nat.toDigits 16 n) :
    c.isDigit = true ∨ 'a' ≤ c ∧ c ≤ 'f' := by
  have lower : ∀ d < 16, (Nat.digitChar d).isDigit = true ∨
      'a' ≤ Nat.digitChar d ∧ Nat.digitChar d ≤ 'f' := by decide
  obtain ⟨d, small, rfl⟩ := mem_toDigits (by decide) h
  exact lower d small

theorem isMinimalHex_hexadecimal (n : ℕ) : IsMinimalHex (Nat.toDigits 16 n) n where
  lower := fun _ => lower_of_mem_hexadecimal
  value := hexValue_hexadecimal n
  minimal := by
    by_cases zero : n = 0
    · rw [zero]
      exact .inl rfl
    · exact .inr ⟨Nat.toDigits_ne_nil, head_toDigits_ne_zero (by decide) (by decide) zero⟩

theorem length_hexadecimal_le {n : ℕ} (h : n < 65536) :
    (Nat.toDigits 16 n).length ≤ 4 :=
  (Nat.length_toDigits_le_iff (by decide) (by decide)).mpr h

/-- An `int` in decimal. -/
def signed (n : ℤ) : List Char :=
  if n < 0 then '-' :: Nat.toDigits 10 n.natAbs else Nat.toDigits 10 n.natAbs

theorem mem_signed {n : ℤ} {c : Char} (h : c ∈ signed n) : c = '-' ∨ c.isDigit = true := by
  unfold signed at h
  split_ifs at h with negative
  · rcases List.mem_cons.mp h with sign | digit
    · exact .inl sign
    · exact .inr (isDigit_of_mem_decimal digit)
  · exact .inr (isDigit_of_mem_decimal h)

theorem decimal_injective : Function.Injective (Nat.toDigits 10) := by
  intro n m same
  rw [← value_decimal n, ← value_decimal m, same]

theorem signed_injective : Function.Injective signed := by
  have apart (n m : ℕ) : '-' :: Nat.toDigits 10 n ≠ Nat.toDigits 10 m := by
    intro same
    exact not_mem_decimal rfl m (same ▸ List.mem_cons_self)
  intro n m same
  unfold signed at same
  split_ifs at same with negative negative'
  · have abs := decimal_injective (List.cons.inj same).2
    omega
  · exact absurd same (apart _ _)
  · exact absurd same.symm (apart _ _)
  · have abs := decimal_injective same
    omega

end Qsox.Numeral
