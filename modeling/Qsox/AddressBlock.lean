import Mathlib.Algebra.Order.Ring.Nat
import Mathlib.Tactic.Common

/-! Blocks of numbers of some width that have their first bits in common. -/

namespace Qsox

/-- The numbers that begin with the first `len` bits of `first`, the lowest of them. -/
structure Block (width : ℕ) where
  first : ℕ
  len : ℕ
  len_le : len ≤ width
  aligned : 2 ^ (width - len) ∣ first

namespace Block

variable {width : ℕ}

def size (block : Block width) : ℕ := 2 ^ (width - block.len)

def Contains (block : Block width) (n : ℕ) : Prop := n / block.size = block.first / block.size

instance (block : Block width) (n : ℕ) : Decidable (block.Contains n) :=
  inferInstanceAs (Decidable (_ = _))

theorem size_pos (block : Block width) : 0 < block.size := Nat.two_pow_pos _

theorem contains_iff {block : Block width} {n : ℕ} :
    block.Contains n ↔ block.first ≤ n ∧ n < block.first + block.size := by
  obtain ⟨quotient, multiple⟩ := block.aligned
  have multiple : block.first = block.size * quotient := multiple
  rw [Contains, multiple, Nat.mul_div_cancel_left _ block.size_pos,
    Nat.div_eq_iff block.size_pos, Nat.mul_comm block.size quotient]
  have := block.size_pos
  omega

theorem contains_iff_eq {block : Block width} (whole : block.len = width) {n : ℕ} :
    block.Contains n ↔ n = block.first := by
  have one : block.size = 1 := by rw [size, whole, Nat.sub_self, pow_zero]
  rw [Contains, one, Nat.div_one, Nat.div_one]

theorem contains_first (block : Block width) : block.Contains block.first := rfl

theorem within_or_apart {short long : Block width} (shorter : short.len ≤ long.len) :
    (∀ n, long.Contains n → short.Contains n) ∨ ∀ n, long.Contains n → ¬ short.Contains n := by
  have divides : long.size ∣ short.size :=
    pow_dvd_pow 2 (Nat.sub_le_sub_left shorter width)
  obtain ⟨factor, multiple⟩ := divides
  -- the first bits that the longer block has in common decide about those of the shorter
  have coarse (n : ℕ) : n / short.size = n / long.size / factor := by
    rw [multiple, Nat.div_div_eq_div_mul]
  by_cases inside : short.Contains long.first
  · refine .inl fun n there => ?_
    rw [Contains, coarse] at inside ⊢
    rw [there, inside]
  · refine .inr fun n there both => inside ?_
    rw [Contains, coarse] at both ⊢
    rw [← there, both]

theorem apart {short long : Block width} (shorter : short.len ≤ long.len)
    (outside : ¬ short.Contains long.first) {n : ℕ} (there : long.Contains n) :
    ¬ short.Contains n := by
  rcases within_or_apart shorter with within | apart
  · exact absurd (within _ long.contains_first) outside
  · exact apart n there

def Apart (a b : Block width) : Prop :=
  if a.len ≤ b.len then ¬ a.Contains b.first else ¬ b.Contains a.first

instance (a b : Block width) : Decidable (a.Apart b) := inferInstanceAs (Decidable (ite _ _ _))

theorem Apart.not_both {a b : Block width} (h : a.Apart b) {n : ℕ} (left : a.Contains n)
    (right : b.Contains n) : False := by
  unfold Apart at h
  split_ifs at h with shorter
  · exact Block.apart shorter h right left
  · exact Block.apart (Nat.le_of_not_le shorter) h left right

end Block
end Qsox
