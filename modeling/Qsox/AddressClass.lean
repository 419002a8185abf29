import Qsox.AddressBlock
import Qsox.AddressOrder

/-! What kind of address it is. Each predicate looks at octets, and stands for blocks of
addresses. -/

namespace Qsox

namespace Ipv6Address

def localhost : Ipv6Address := ofSegments #v[0, 0, 0, 0, 0, 0, 0, 1]

def isUnspecified (a : Ipv6Address) : Bool := a.octets == unspecified.octets

def isLocalhost (a : Ipv6Address) : Bool := a.octets == localhost.octets

def isUniqueLocal (a : Ipv6Address) : Bool := a.octets.get 0 &&& 0xFE == 0xFC

end Ipv6Address

namespace IpAddress

def isLocalhost : IpAddress → Bool
  | v4 address => address.isLocalhost
  | v6 address => address.isLocalhost

def isUnspecified : IpAddress → Bool
  | v4 address => address.isUnspecified
  | v6 address => address.isUnspecified

end IpAddress

inductive Ipv4Class
  | unspecified
  | localhost
  | privateUse
  | broadcast
  deriving DecidableEq, Repr

inductive Ipv6Class
  | unspecified
  | localhost
  | uniqueLocal
  deriving DecidableEq, Repr

namespace Ipv4Class

def holds : Ipv4Class → Ipv4Address → Bool
  | unspecified => Ipv4Address.isUnspecified
  | localhost => Ipv4Address.isLocalhost
  | privateUse => Ipv4Address.isPrivate
  | broadcast => Ipv4Address.isBroadcast

def block (a b c d : ℕ) (len : ℕ) (len_le : len ≤ 32)
    (aligned : 2 ^ (32 - len) ∣ a * 2 ^ 24 + b * 2 ^ 16 + c * 2 ^ 8 + d) : Block 32 :=
  ⟨_, len, len_le, aligned⟩

/-- `0.0.0.0/32`; `127.0.0.0/8`; `10.0.0.0/8`, `172.16.0.0/12` and `192.168.0.0/16`;
`255.255.255.255/32`. -/
def blocks : Ipv4Class → List (Block 32)
  | unspecified => [block 0 0 0 0 32 (by decide) (by decide)]
  | localhost => [block 127 0 0 0 8 (by decide) (by decide)]
  | privateUse => [block 10 0 0 0 8 (by decide) (by decide),
      block 172 16 0 0 12 (by decide) (by decide), block 192 168 0 0 16 (by decide) (by decide)]
  | broadcast => [block 255 255 255 255 32 (by decide) (by decide)]

theorem octets_eq_iff {a b : Ipv4Address} :
    (a.octets == b.octets) = true ↔ a.number = b.number := by
  rw [beq_iff_eq, Ipv4Address.number, Ipv4Address.number, BigEndian.ofBytes_inj (by simp),
    Vector.toList_inj]

theorem holds_iff (kind : Ipv4Class) (a : Ipv4Address) :
    kind.holds a = true ↔ ∃ block ∈ kind.blocks, block.Contains a.number := by
  have h₀ := (a.octets.get 0).toNat_lt
  have h₁ := (a.octets.get 1).toNat_lt
  have h₂ := (a.octets.get 2).toNat_lt
  have h₃ := (a.octets.get 3).toNat_lt
  have number : a.number = (a.octets.get 0).toNat * 16777216 +
      (a.octets.get 1).toNat * 65536 +
      (a.octets.get 2).toNat * 256 + (a.octets.get 3).toNat := a.number_eq
  cases kind with
  | unspecified =>
    simp only [blocks, List.mem_singleton, exists_eq_left]
    rw [Block.contains_iff_eq rfl]
    exact octets_eq_iff (b := .unspecified)
  | localhost =>
    simp only [blocks, List.mem_singleton, exists_eq_left]
    rw [Block.contains_iff]
    change (a.octets.get 0 == 127) = true ↔
      127 * 2 ^ 24 ≤ a.number ∧ a.number < 127 * 2 ^ 24 + 2 ^ 24
    simp only [beq_iff_eq, ← UInt8.toNat_inj, UInt8.reduceToNat]
    omega
  | privateUse =>
    simp only [blocks, List.mem_cons, List.not_mem_nil, or_false, exists_eq_or_imp, exists_eq_left,
      Block.contains_iff]
    simp only [holds, Ipv4Address.isPrivate, Bool.or_eq_true, Bool.and_eq_true, beq_iff_eq,
      decide_eq_true_eq, ge_iff_le, UInt8.le_iff_toNat_le, ← UInt8.toNat_inj, UInt8.reduceToNat]
    have sizes : (2 : ℕ) ^ (32 - 8) = 16777216 ∧ (2 : ℕ) ^ (32 - 12) = 1048576 ∧
        (2 : ℕ) ^ (32 - 16) = 65536 := by decide
    simp only [block, Block.size, sizes]
    omega
  | broadcast =>
    simp only [blocks, List.mem_singleton, exists_eq_left]
    rw [Block.contains_iff_eq rfl]
    exact octets_eq_iff (b := .broadcast)

theorem unique {kind kind' : Ipv4Class} {a : Ipv4Address} (h : kind.holds a = true)
    (h' : kind'.holds a = true) : kind = kind' := by
  have apart : kind ≠ kind' → ∀ b ∈ kind.blocks, ∀ b' ∈ kind'.blocks, b.Apart b' := by
    cases kind <;> cases kind' <;> decide
  obtain ⟨b, listed, there⟩ := (holds_iff kind a).mp h
  obtain ⟨b', listed', there'⟩ := (holds_iff kind' a).mp h'
  by_contra different
  exact (apart different b listed b' listed').not_both there there'

end Ipv4Class

namespace Ipv6Address

def mappedBlock : Block 128 := ⟨0xffff * 2 ^ 32, 96, by decide, by decide⟩

theorem mappedBlock_contains {n : ℕ} :
    mappedBlock.Contains n ↔ 0xffff * 2 ^ 32 ≤ n ∧ n < 0xffff * 2 ^ 32 + 2 ^ 32 :=
  Block.contains_iff

theorem mappedBlock_contains_fromIpv4Mapped (a : Ipv4Address) :
    mappedBlock.Contains (fromIpv4Mapped a).number := by
  have below := a.toBits.toNat_lt
  rw [a.toNat_toBits] at below
  rw [number_fromIpv4Mapped, mappedBlock_contains]
  omega

theorem eq_fromIpv4Mapped {a : Ipv6Address} {v4 : Ipv4Address} (mapped : a.toIpv4Mapped = some v4) :
    a = fromIpv4Mapped v4 := by
  have octets : a.octets.toList = (fromIpv4Mapped v4).octets.toList :=
    (toIpv4Mapped_eq_some_iff.mp mapped).trans
      (toIpv4Mapped_eq_some_iff.mp (toIpv4Mapped_fromIpv4Mapped v4)).symm
  exact number_inj.mp (congrArg BigEndian.ofBytes octets)

theorem toIpv4Mapped_isSome_iff {a : Ipv6Address} :
    (∃ v4, a.toIpv4Mapped = some v4) ↔ mappedBlock.Contains a.number := by
  constructor
  · rintro ⟨v4, mapped⟩
    rw [eq_fromIpv4Mapped mapped]
    exact mappedBlock_contains_fromIpv4Mapped v4
  · intro there
    obtain ⟨low, high⟩ := mappedBlock_contains.mp there
    let bits := UInt32.ofNat (a.number - 0xffff * 2 ^ 32)
    have value : bits.toNat = a.number - 0xffff * 2 ^ 32 := by
      rw [UInt32.toNat_ofNat', Nat.mod_eq_of_lt (by omega)]
    have same : a = fromIpv4Mapped (.fromBits bits) := by
      rw [← number_inj, number_fromIpv4Mapped, Ipv4Address.number_fromBits, value]
      omega
    exact ⟨.fromBits bits, by rw [same, toIpv4Mapped_fromIpv4Mapped]⟩

end Ipv6Address

namespace Ipv6Class

def holds : Ipv6Class → Ipv6Address → Bool
  | unspecified => Ipv6Address.isUnspecified
  | localhost => Ipv6Address.isLocalhost
  | uniqueLocal => Ipv6Address.isUniqueLocal

/-- `::/128`; `::1/128`; `fc00::/7`. -/
def blocks : Ipv6Class → List (Block 128)
  | unspecified => [⟨0, 128, by decide, by decide⟩]
  | localhost => [⟨1, 128, by decide, by decide⟩]
  | uniqueLocal => [⟨0xfc * 2 ^ 120, 7, by decide, by decide⟩]

theorem octets_eq_iff {a b : Ipv6Address} :
    (a.octets == b.octets) = true ↔ a.number = b.number := by
  rw [beq_iff_eq, Ipv6Address.number, Ipv6Address.number, BigEndian.ofBytes_inj (by simp),
    Vector.toList_inj]

theorem masked_iff (octet : UInt8) : (octet &&& 0xFE == 0xFC) = true ↔ octet.toNat / 2 = 126 := by
  have all : ∀ i : Fin 256, (UInt8.ofNat i &&& 0xFE == 0xFC) = decide (i.val / 2 = 126) := by
    decide +kernel
  have masked := all ⟨octet.toNat, octet.toNat_lt⟩
  rw [UInt8.ofNat_toNat] at masked
  rw [masked, decide_eq_true_eq]

theorem holds_iff (kind : Ipv6Class) (a : Ipv6Address) :
    kind.holds a = true ↔ ∃ block ∈ kind.blocks, block.Contains a.number := by
  simp only [blocks]
  cases kind with
  | unspecified =>
    simp only [List.mem_singleton, exists_eq_left]
    rw [Block.contains_iff_eq rfl]
    exact octets_eq_iff (b := .unspecified)
  | localhost =>
    simp only [List.mem_singleton, exists_eq_left]
    rw [Block.contains_iff_eq rfl]
    exact octets_eq_iff (b := .localhost)
  | uniqueLocal =>
    obtain ⟨rest, len, split⟩ : ∃ rest : List UInt8, rest.length = 15 ∧
        a.octets.toList = a.octets.get 0 :: rest :=
      ⟨_, rfl, Ipv6Address.octets_toList a⟩
    have below := BigEndian.ofBytes_lt rest
    have number : a.number = (a.octets.get 0).toNat * 256 ^ 15 + BigEndian.ofBytes rest := by
      rw [Ipv6Address.number, split, BigEndian.ofBytes_cons, len]
    rw [len] at below
    simp only [List.mem_singleton, exists_eq_left]
    rw [Block.contains_iff]
    change _ ↔ 0xfc * 2 ^ 120 ≤ a.number ∧ a.number < 0xfc * 2 ^ 120 + 2 ^ 121
    rw [holds, Ipv6Address.isUniqueLocal, masked_iff]
    omega

theorem unique {kind kind' : Ipv6Class} {a : Ipv6Address} (h : kind.holds a = true)
    (h' : kind'.holds a = true) : kind = kind' := by
  have apart : kind ≠ kind' → ∀ b ∈ kind.blocks, ∀ b' ∈ kind'.blocks, b.Apart b' := by
    cases kind <;> cases kind' <;> decide
  obtain ⟨b, listed, there⟩ := (holds_iff kind a).mp h
  obtain ⟨b', listed', there'⟩ := (holds_iff kind' a).mp h'
  by_contra different
  exact (apart different b listed b' listed').not_both there there'

theorem not_mapped (kind : Ipv6Class) (a : Ipv4Address) :
    kind.holds (.fromIpv4Mapped a) = false := by
  have apart : ∀ b ∈ kind.blocks, b.Apart Ipv6Address.mappedBlock := by
    cases kind <;> decide
  rw [← Bool.not_eq_true, holds_iff]
  rintro ⟨b, listed, there⟩
  exact (apart b listed).not_both there (Ipv6Address.mappedBlock_contains_fromIpv4Mapped a)

end Ipv6Class

/-- In one of the blocks for its version; the IPv4 address in a mapped one is not looked at. -/
def IpAddress.LiesIn (four : List (Block 32)) (six : List (Block 128)) : IpAddress → Prop
  | v4 a => ∃ block ∈ four, block.Contains a.toBits.toNat
  | v6 a => ∃ block ∈ six, block.Contains a.number

theorem IpAddress.liesIn_iff (four : Ipv4Class) (six : Ipv6Class) (a : IpAddress) :
    a.LiesIn four.blocks six.blocks ↔
      (match a with
        | v4 a => four.holds a
        | v6 a => six.holds a) = true := by
  cases a with
  | v4 a =>
    rw [Ipv4Class.holds_iff, ← a.toNat_toBits]
    rfl
  | v6 a => exact (Ipv6Class.holds_iff six a).symm

/-- The predicates stand for blocks of addresses, which have nothing in common with those of
other classes or, for IPv6 addresses, with the mapped ones. -/
theorem addresses_classified :
    (∀ (kind : Ipv4Class) (a : Ipv4Address),
        kind.holds a = true ↔ ∃ block ∈ kind.blocks, block.Contains a.toBits.toNat) ∧
      (∀ (kind : Ipv6Class) (a : Ipv6Address),
        kind.holds a = true ↔ ∃ block ∈ kind.blocks, block.Contains a.number) ∧
      (∀ (kind kind' : Ipv4Class) (a : Ipv4Address),
        kind.holds a = true → kind'.holds a = true → kind = kind') ∧
      (∀ (kind kind' : Ipv6Class) (a : Ipv6Address),
        kind.holds a = true → kind'.holds a = true → kind = kind') ∧
      (∀ a : Ipv6Address,
        (∃ v4, a.toIpv4Mapped = some v4) ↔ Ipv6Address.mappedBlock.Contains a.number) ∧
      (∀ (a : Ipv6Address) (v4 : Ipv4Address), a.toIpv4Mapped = some v4 →
        ∀ kind : Ipv6Class, kind.holds a = false) ∧
      ∀ a : IpAddress,
        (a.isLocalhost = true ↔ a.LiesIn Ipv4Class.localhost.blocks Ipv6Class.localhost.blocks) ∧
        (a.isUnspecified = true ↔
          a.LiesIn Ipv4Class.unspecified.blocks Ipv6Class.unspecified.blocks) := by
  refine ⟨fun kind a => ?_, Ipv6Class.holds_iff, fun _ _ _ => Ipv4Class.unique,
    fun _ _ _ => Ipv6Class.unique, fun _ => Ipv6Address.toIpv4Mapped_isSome_iff, ?_, ?_⟩
  · rw [a.toNat_toBits]
    exact Ipv4Class.holds_iff kind a
  · intro a v4 mapped kind
    rw [Ipv6Address.eq_fromIpv4Mapped mapped]
    exact Ipv6Class.not_mapped kind v4
  · intro a
    rw [IpAddress.liesIn_iff, IpAddress.liesIn_iff]
    cases a <;> exact ⟨Iff.rfl, Iff.rfl⟩

end Qsox
