import Mathlib.Data.List.Lex
import Mathlib.Data.Nat.Digits.Defs
import Mathlib.Tactic.Ring

/-! Numbers written with the first digit the highest. Digits of one length are ordered
like their numbers. -/

namespace Qsox.BigEndian

variable {b : ℕ} {xs ys : List ℕ}

def number (b : ℕ) (xs : List ℕ) : ℕ := Nat.ofDigits b xs.reverse

@[simp] theorem number_nil (b : ℕ) : number b [] = 0 := rfl

theorem number_append (b : ℕ) (xs ys : List ℕ) :
    number b (xs ++ ys) = number b xs * b ^ ys.length + number b ys := by
  rw [number, List.reverse_append, Nat.ofDigits_append, List.length_reverse, Nat.add_comm,
    Nat.mul_comm]
  rfl

@[simp] theorem number_singleton (b x : ℕ) : number b [x] = x := Nat.ofDigits_singleton

theorem number_cons (b x : ℕ) (xs : List ℕ) :
    number b (x :: xs) = x * b ^ xs.length + number b xs := by
  rw [← List.singleton_append, number_append, number_singleton]

theorem number_lt (base : 1 < b) (digits : ∀ x ∈ xs, x < b) : number b xs < b ^ xs.length := by
  rw [← List.length_reverse]
  exact Nat.ofDigits_lt_base_pow_length base fun x there => digits x (List.mem_reverse.mp there)

theorem number_lt_iff (base : 1 < b) (len : xs.length = ys.length) (left : ∀ x ∈ xs, x < b)
    (right : ∀ y ∈ ys, y < b) : number b xs < number b ys ↔ xs < ys := by
  induction xs generalizing ys with
  | nil =>
    rw [List.length_eq_zero_iff.mp len.symm]
    simp
  | cons x xs ih =>
    cases ys with
    | nil => cases len
    | cons y ys =>
      have len : xs.length = ys.length := Nat.succ.inj len
      have below := number_lt base fun x' there => left x' (List.mem_cons_of_mem x there)
      have below' := number_lt base fun y' there => right y' (List.mem_cons_of_mem y there)
      have same := ih len (fun x' there => left x' (List.mem_cons_of_mem x there))
        fun y' there => right y' (List.mem_cons_of_mem y there)
      rw [List.cons_lt_cons_iff, ← same, number_cons, number_cons, len]
      rw [len] at below
      rcases Nat.lt_trichotomy x y with less | rfl | more
      · have apart : (x + 1) * b ^ ys.length ≤ y * b ^ ys.length :=
          Nat.mul_le_mul_right _ less
        rw [add_mul, one_mul] at apart
        exact iff_of_true (by omega) (.inl less)
      · simp
      · have apart : (y + 1) * b ^ ys.length ≤ x * b ^ ys.length :=
          Nat.mul_le_mul_right _ more
        rw [add_mul, one_mul] at apart
        refine iff_of_false (by omega) ?_
        rintro (less | ⟨rfl, -⟩)
        · exact Nat.lt_asymm less more
        · exact Nat.lt_irrefl _ more

theorem number_inj (base : 1 < b) (len : xs.length = ys.length) (left : ∀ x ∈ xs, x < b)
    (right : ∀ y ∈ ys, y < b) : number b xs = number b ys ↔ xs = ys := by
  refine ⟨fun same => ?_, congrArg _⟩
  rcases lt_trichotomy xs ys with less | equal | more
  · exact absurd same (Nat.ne_of_lt ((number_lt_iff base len left right).mpr less))
  · exact equal
  · exact absurd same.symm (Nat.ne_of_lt ((number_lt_iff base len.symm right left).mpr more))

theorem number_pairs (b : ℕ) (pairs : List (ℕ × ℕ)) :
    number (b * b) (pairs.map fun pair => pair.1 * b + pair.2) =
      number b (pairs.flatMap fun pair => [pair.1, pair.2]) := by
  induction pairs with
  | nil => rfl
  | cons pair pairs ih =>
    have len : (pairs.flatMap fun pair => [pair.1, pair.2]).length =
        pairs.length + pairs.length := by
      rw [List.length_flatMap]
      simp
      omega
    rw [List.map_cons, List.flatMap_cons, number_cons, ih, number_append, len, List.length_map,
      mul_pow, number_cons, number_singleton, List.length_singleton, pow_add]
    ring

def ofBytes (bytes : List UInt8) : ℕ := number 256 (bytes.map UInt8.toNat)

theorem digits_toNat (bytes : List UInt8) : ∀ x ∈ bytes.map UInt8.toNat, x < 256 := by
  intro x there
  obtain ⟨byte, -, rfl⟩ := List.mem_map.mp there
  exact byte.toNat_lt

theorem ofBytes_lt (bytes : List UInt8) : ofBytes bytes < 256 ^ bytes.length := by
  have below := number_lt (by decide) (digits_toNat bytes)
  rwa [List.length_map] at below

theorem ofBytes_append (front back : List UInt8) :
    ofBytes (front ++ back) = ofBytes front * 256 ^ back.length + ofBytes back := by
  rw [ofBytes, List.map_append, number_append, List.length_map]
  rfl

theorem ofBytes_cons (byte : UInt8) (bytes : List UInt8) :
    ofBytes (byte :: bytes) = byte.toNat * 256 ^ bytes.length + ofBytes bytes := by
  rw [ofBytes, List.map_cons, number_cons, List.length_map]
  rfl

variable {left right : List UInt8}

theorem ofBytes_inj (len : left.length = right.length) :
    ofBytes left = ofBytes right ↔ left = right := by
  rw [ofBytes, ofBytes,
    number_inj (by decide) (by simpa using len) (digits_toNat left) (digits_toNat right)]
  exact (List.map_injective_iff.mpr fun _ _ => UInt8.toNat_inj.mp).eq_iff

theorem map_toNat_lt_iff (left right : List UInt8) :
    left.map UInt8.toNat < right.map UInt8.toNat ↔ left < right := by
  induction left generalizing right with
  | nil => cases right <;> simp
  | cons x left ih =>
    cases right with
    | nil => simp
    | cons y right =>
      rw [List.map_cons, List.map_cons, List.cons_lt_cons_iff, List.cons_lt_cons_iff, ih,
        UInt8.toNat_inj, ← UInt8.lt_iff_toNat_lt]

theorem ofBytes_lt_iff (len : left.length = right.length) :
    ofBytes left < ofBytes right ↔ left < right := by
  rw [ofBytes, ofBytes,
    number_lt_iff (by decide) (by simpa using len) (digits_toNat left) (digits_toNat right),
    map_toNat_lt_iff]

/-- `std::array`s compared for `==` and then for `<`. -/
def order (left right : List UInt8) : Ordering :=
  if left = right then .eq else if left < right then .lt else .gt

theorem order_eq_compare (len : left.length = right.length) :
    order left right = compare (ofBytes left) (ofBytes right) := by
  rw [order]
  split_ifs with same less
  · rw [same, compare_eq_iff_eq.mpr rfl]
  · exact (compare_lt_iff_lt.mpr ((ofBytes_lt_iff len).mpr less)).symm
  · have above : ofBytes right < ofBytes left := by
      rcases Nat.lt_trichotomy (ofBytes left) (ofBytes right) with below | equal | above
      · exact absurd ((ofBytes_lt_iff len).mp below) less
      · exact absurd ((ofBytes_inj len).mp equal) same
      · exact above
    exact (compare_gt_iff_gt.mpr above).symm

end Qsox.BigEndian
