import Mathlib.Tactic.Common

/-! Byte order, for a little-endian host: integers loaded from memory, and the
`byteswap` that turns them into the value of their big-endian bytes. -/

namespace Qsox.Util

def byteswap16 (value : UInt16) : UInt16 := (value >>> 8) ||| (value <<< 8)

def load16 (b₀ b₁ : UInt8) : UInt16 := b₀.toUInt16 ||| (b₁.toUInt16 <<< 8)

def byteswap32 (value : UInt32) : UInt32 :=
  (value >>> 24) ||| ((value >>> 8) &&& (0xff00 : UInt32)) |||
    ((value <<< 8) &&& (0xff0000 : UInt32)) ||| (value <<< 24)

def load32 (b₀ b₁ b₂ b₃ : UInt8) : UInt32 :=
  b₀.toUInt32 ||| (b₁.toUInt32 <<< 8) ||| (b₂.toUInt32 <<< 16) ||| (b₃.toUInt32 <<< 24)

@[simp] theorem toNat_load16 (b₀ b₁ : UInt8) : (load16 b₀ b₁).toNat = 256 * b₁.toNat + b₀.toNat := by
  have h₀ := b₀.toNat_lt
  have h₁ := b₁.toNat_lt
  have shifted : (b₁.toUInt16 <<< 8).toNat = b₁.toNat <<< 8 := by
    simp [UInt16.toNat_shiftLeft, Nat.shiftLeft_eq]
    omega
  rw [load16, UInt16.toNat_or, shifted, UInt8.toNat_toUInt16, Nat.or_comm,
    ← Nat.shiftLeft_add_eq_or_of_lt h₀, Nat.shiftLeft_eq]
  omega

theorem toNat_byteswap16 (x : UInt16) :
    (byteswap16 x).toNat = 256 * (x.toNat % 256) + x.toNat / 256 := by
  have hx := x.toNat_lt
  have high : (x <<< 8).toNat = (x.toNat % 256) <<< 8 := by
    simp [UInt16.toNat_shiftLeft, Nat.shiftLeft_eq]
    omega
  have low : (x >>> 8).toNat = x.toNat / 256 := by
    simp [UInt16.toNat_shiftRight, Nat.shiftRight_eq_div_pow]
  have small : x.toNat / 256 < 2 ^ 8 := by omega
  rw [byteswap16, UInt16.toNat_or, high, low, Nat.or_comm,
    ← Nat.shiftLeft_add_eq_or_of_lt small, Nat.shiftLeft_eq]
  omega

@[simp] theorem toNat_byteswap16_load16 (b₀ b₁ : UInt8) :
    (byteswap16 (load16 b₀ b₁)).toNat = 256 * b₀.toNat + b₁.toNat := by
  have h₀ := b₀.toNat_lt
  rw [toNat_byteswap16, toNat_load16]
  omega

@[simp] theorem byteswap16_toUInt8 (x : UInt16) : (byteswap16 x).toUInt8 = (x >>> 8).toUInt8 := by
  apply UInt8.toNat_inj.mp
  rw [UInt16.toNat_toUInt8, UInt16.toNat_toUInt8, toNat_byteswap16, UInt16.toNat_shiftRight,
    Nat.shiftRight_eq_div_pow]
  simp

@[simp] theorem byteswap16_shiftRight (x : UInt16) : (byteswap16 x >>> 8).toUInt8 = x.toUInt8 := by
  apply UInt8.toNat_inj.mp
  have small : x.toNat / 256 < 256 := by
    have hx := x.toNat_lt
    omega
  rw [UInt16.toNat_toUInt8, UInt16.toNat_toUInt8, UInt16.toNat_shiftRight, toNat_byteswap16,
    Nat.shiftRight_eq_div_pow]
  simp [Nat.mul_add_div, Nat.div_eq_of_lt small]

@[simp] theorem byteswap16_byteswap16 (x : UInt16) : byteswap16 (byteswap16 x) = x := by
  apply UInt16.toNat_inj.mp
  have hx := x.toNat_lt
  have small : x.toNat / 256 < 256 := by omega
  rw [toNat_byteswap16, toNat_byteswap16]
  simp only [Nat.mul_add_div (show 256 > 0 by decide), Nat.div_eq_of_lt small, Nat.mul_add_mod,
    Nat.mod_eq_of_lt small]
  omega

@[simp] theorem load16_toUInt8 (x : UInt16) : load16 x.toUInt8 (x >>> 8).toUInt8 = x := by
  apply UInt16.toNat_inj.mp
  have hx := x.toNat_lt
  rw [toNat_load16, UInt16.toNat_toUInt8, UInt16.toNat_toUInt8, UInt16.toNat_shiftRight,
    Nat.shiftRight_eq_div_pow]
  simp
  omega

@[simp] theorem load16_low (b₀ b₁ : UInt8) : (load16 b₀ b₁).toUInt8 = b₀ := by
  apply UInt8.toNat_inj.mp
  have h₀ := b₀.toNat_lt
  rw [UInt16.toNat_toUInt8, toNat_load16]
  omega

@[simp] theorem load16_high (b₀ b₁ : UInt8) : (load16 b₀ b₁ >>> 8).toUInt8 = b₁ := by
  apply UInt8.toNat_inj.mp
  have h₀ := b₀.toNat_lt
  have h₁ := b₁.toNat_lt
  rw [UInt16.toNat_toUInt8, UInt16.toNat_shiftRight, toNat_load16, Nat.shiftRight_eq_div_pow]
  simp
  omega

end Qsox.Util
