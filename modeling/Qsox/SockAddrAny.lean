import Mathlib.Tactic.IntervalCases
import Qsox.Kernel
import Qsox.Resolver

/-! `SockAddrAny`: the union of `sockaddr_in` and `sockaddr_in6` as 28 bytes of
memory on a little-endian host. The family is in the bytes 0 and 1, the port in 2
and 3; then `sin_addr` and `sin_zero`, or `sin6_flowinfo`, `sin6_addr` and
`sin6_scope_id`. An assignment rewrites all bytes that count for its family. -/

namespace Qsox

open Resolver (SockAddr)

/-- The headers of a system. Those of Darwin, like all of BSD descent, put the
length of the structure into byte 0 and the family into byte 1. -/
inductive Abi
  | linux
  | darwin
  | windows
  deriving DecidableEq, Repr

namespace Abi

def afInet : Abi → UInt16
  | linux | darwin | windows => 2

def afInet6 : Abi → UInt16
  | linux => 10
  | darwin => 30
  | windows => 23

def code (abi : Abi) : Family → UInt16
  | .inet => abi.afInet
  | .inet6 => abi.afInet6

end Abi

namespace SockAddrAny

def store16 (value : UInt16) : List UInt8 := [value.toUInt8, (value >>> 8).toUInt8]

def store32 (value : UInt32) : List UInt8 :=
  [value.toUInt8, (value >>> 8).toUInt8, (value >>> 16).toUInt8, (value >>> 24).toUInt8]

/-- The memory after the bytes were written from `start` on. -/
def write (start : ℕ) (bytes : List UInt8) (m : SockAddr) : SockAddr :=
  Vector.ofFn fun i =>
    if start ≤ i.val then (bytes[i.val - start]?).getD (m.get i) else m.get i

def zero : SockAddr := Vector.replicate 28 0

section
variable (abi : Abi)

def writeFamily (family : UInt16) (m : SockAddr) : SockAddr :=
  match abi with
  | .linux | .windows => write 0 (store16 family) m
  | .darwin => write 1 [family.toUInt8] m

def assignV4 (a : SocketAddressV4) (m : SockAddr) : SockAddr :=
  write 8 (List.replicate 8 0) <| write 2 (store16 (Util.byteswap16 a.port)) <|
    write 4 (store32 (Util.byteswap32 a.address.toBits)) <| writeFamily abi abi.afInet m

def assignV6 (a : SocketAddressV6) (m : SockAddr) : SockAddr :=
  write 24 (store32 0) <| write 4 (store32 0) <| write 2 (store16 (Util.byteswap16 a.port)) <|
    write 8 a.address.octets.toList <| writeFamily abi abi.afInet6 m

def assign (a : SocketAddress) (m : SockAddr) : SockAddr :=
  match a.address with
  | .v4 address => assignV4 abi ⟨address, a.port⟩ m
  | .v6 address => assignV6 abi ⟨address, a.port⟩ m

/-- A new union; the bytes that the assignment leaves alone are zero here. -/
def ofSocketAddress (a : SocketAddress) : SockAddr := assign abi a zero

def family (m : SockAddr) : UInt16 :=
  match abi with
  | .linux | .windows => Util.load16 m[0] m[1]
  | .darwin => m[1].toUInt16

def size (m : SockAddr) : ℕ := if family abi m = abi.afInet then 16 else 28

def port (m : SockAddr) : UInt16 := Util.byteswap16 (Util.load16 m[2] m[3])

def toSocketAddressV4 (m : SockAddr) : SocketAddressV4 := ⟨Resolver.ipv4OfSockAddr m, port m⟩

def toSocketAddressV6 (m : SockAddr) : SocketAddressV6 := ⟨Resolver.ipv6OfSockAddr m, port m⟩

/-- `none` is `unreachable()`. -/
def toSocketAddress (m : SockAddr) : Option SocketAddress :=
  if family abi m = abi.afInet then some (.ofV4 (toSocketAddressV4 m))
  else if family abi m = abi.afInet6 then some (.ofV6 (toSocketAddressV6 m))
  else none

def fromSockAddr (m : SockAddr) : SocketAddress :=
  if family abi m = abi.afInet then .ofV4 (toSocketAddressV4 m) else .ofV6 (toSocketAddressV6 m)

end

def field (start size : ℕ) (m : SockAddr) : List UInt8 := (m.toList.drop start).take size

theorem getElem_write (start : ℕ) (bytes : List UInt8) (m : SockAddr) {i : ℕ} (hi : i < 28) :
    (write start bytes m)[i] =
      if start ≤ i then (bytes[i - start]?).getD m[i] else m[i] := by
  simp [write, Vector.get]

theorem getElem?_field {start size i : ℕ} (m : SockAddr) (fits : start + size ≤ 28)
    (inside : i < size) : (field start size m)[i]? = m[start + i]? := by
  have bound : start + i < 28 := by omega
  rw [field, List.getElem?_take_of_lt inside, List.getElem?_drop]
  simp [bound]

theorem length_field {start size : ℕ} (m : SockAddr) (fits : start + size ≤ 28) :
    (field start size m).length = size := by
  simp [field]
  omega

theorem field_ext {start size : ℕ} {m : SockAddr} {bytes : List UInt8} (fits : start + size ≤ 28)
    (length : bytes.length = size)
    (same : ∀ i, i < size → bytes[i]? = m[start + i]?) :
    field start size m = bytes := by
  apply List.ext_getElem?
  intro i
  by_cases inside : i < size
  · rw [getElem?_field m fits inside, same i inside]
  · have short := length_field m fits
    rw [List.getElem?_eq_none (by omega), List.getElem?_eq_none (by omega)]

theorem field_write_self {start size : ℕ} {bytes : List UInt8} (m : SockAddr)
    (fits : start + size ≤ 28) (length : bytes.length = size) :
    field start size (write start bytes m) = bytes := by
  refine field_ext fits length fun i inside => ?_
  have bound : start + i < 28 := by omega
  rw [Vector.getElem?_eq_getElem bound, getElem_write, if_pos (by omega), Nat.add_sub_cancel_left]
  simp [length, inside]

theorem field_write_other {start size other : ℕ} {bytes : List UInt8} (m : SockAddr)
    (fits : start + size ≤ 28) (apart : start + size ≤ other ∨ other + bytes.length ≤ start) :
    field start size (write other bytes m) = field start size m := by
  refine field_ext fits (length_field m fits) fun i inside => ?_
  have bound : start + i < 28 := by omega
  rw [getElem?_field m fits inside, Vector.getElem?_eq_getElem bound,
    Vector.getElem?_eq_getElem bound, getElem_write]
  split_ifs with behind
  · rw [List.getElem?_eq_none (by omega)]
    rfl
  · rfl

theorem field_append {start size more : ℕ} (m : SockAddr) :
    field start (size + more) m = field start size m ++ field (start + size) more m := by
  rw [field, List.take_add, field, field, List.drop_drop]

def bigEndian16 (value : UInt16) : List UInt8 := [(value >>> 8).toUInt8, value.toUInt8]

@[simp] theorem store16_byteswap16 (value : UInt16) :
    store16 (Util.byteswap16 value) = bigEndian16 value := by
  rw [store16, Util.byteswap16_toUInt8, Util.byteswap16_shiftRight, bigEndian16]

@[simp] theorem store16_load16 (b₀ b₁ : UInt8) : store16 (Util.load16 b₀ b₁) = [b₀, b₁] := by
  rw [store16, Util.load16_low, Util.load16_high]

@[simp] theorem store32_byteswap32_toBits (a : Ipv4Address) :
    store32 (Util.byteswap32 a.toBits) = a.octets.toList := by
  have bits {i : ℕ} (hi : i < 8) :
      i = 0 ∨ i = 1 ∨ i = 2 ∨ i = 3 ∨ i = 4 ∨ i = 5 ∨ i = 6 ∨ i = 7 := by omega
  have octets : a.octets.toList =
      [a.octets.get 0, a.octets.get 1, a.octets.get 2, a.octets.get 3] := by
    rw [Ipv4Address.eq_ofOctets a]
    rfl
  rw [octets, store32, Ipv4Address.toBits]
  simp only [List.cons.injEq, and_true]
  refine ⟨?_, ?_, ?_, ?_⟩
  all_goals
    apply UInt8.eq_of_toBitVec_eq
    simp only [Util.byteswap32]
    simp
    ext i hi
    rcases bits hi with rfl | rfl | rfl | rfl | rfl | rfl | rfl | rfl <;> simp

theorem port_eq_iff {m : SockAddr} {value : UInt16} :
    port m = value ↔ field 2 2 m = bigEndian16 value := by
  have bytes : field 2 2 m = [m[2], m[3]] :=
    field_ext (by omega) rfl fun i inside => by interval_cases i <;> rfl
  rw [bytes, ← store16_byteswap16, port]
  constructor
  · rintro rfl
    rw [Util.byteswap16_byteswap16, store16_load16]
  · intro same
    obtain ⟨low, high⟩ : m[2] = _ ∧ m[3] = _ := by
      simpa only [store16, List.cons.injEq, and_true] using same
    rw [low, high, Util.load16_toUInt8, Util.byteswap16_byteswap16]

theorem ipv4OfSockAddr_eq_iff {m : SockAddr} {a : Ipv4Address} :
    Resolver.ipv4OfSockAddr m = a ↔ field 4 4 m = a.octets.toList := by
  have bytes : field 4 4 m = (Resolver.ipv4OfSockAddr m).octets.toList := by
    rw [Resolver.ipv4OfSockAddr_eq]
    exact field_ext (by omega) rfl fun i inside => by interval_cases i <;> rfl
  rw [bytes, Vector.toList_inj]
  exact ⟨congrArg _, fun same => by cases a; exact congrArg Ipv4Address.mk same⟩

theorem ipv6OfSockAddr_eq_iff {m : SockAddr} {a : Ipv6Address} :
    Resolver.ipv6OfSockAddr m = a ↔ field 8 16 m = a.octets.toList := by
  have bytes : field 8 16 m = (Resolver.ipv6OfSockAddr m).octets.toList :=
    field_ext (by omega) (by simp) fun i inside => by simp [Resolver.ipv6OfSockAddr, inside]
  rw [bytes, Vector.toList_inj]
  exact ⟨congrArg _, fun same => by cases a; exact congrArg Ipv6Address.mk same⟩

section
variable (abi : Abi)

theorem family_write {start : ℕ} (behind : 2 ≤ start) (bytes : List UInt8) (m : SockAddr) :
    family abi (write start bytes m) = family abi m := by
  have kept {i : ℕ} (before : i < 2) (bound : i < 28) : (write start bytes m)[i] = m[i] := by
    rw [getElem_write, if_neg (by omega)]
  cases abi <;> simp only [family, kept Nat.zero_lt_two, kept Nat.one_lt_two]

theorem family_writeFamily {number : UInt16} (small : number.toNat < 256) (m : SockAddr) :
    family abi (writeFamily abi number m) = number := by
  cases abi with
  | linux | windows =>
    simp only [family, writeFamily, getElem_write, store16]
    exact Util.load16_toUInt8 number
  | darwin =>
    simp only [family, writeFamily, getElem_write]
    exact UInt16.toNat_inj.mp (by simpa using small)

theorem code_small (f : Family) : (abi.code f).toNat < 256 := by
  cases abi <;> cases f <;> decide

theorem code_inet_ne : abi.code .inet6 ≠ abi.afInet := by
  cases abi <;> decide

def addressField (a : IpAddress) (m : SockAddr) : List UInt8 :=
  match a with
  | .v4 _ => field 4 4 m
  | .v6 _ => field 8 16 m

def octets : IpAddress → List UInt8
  | .v4 a => a.octets.toList
  | .v6 a => a.octets.toList

/-- The memory holds the address, field by field. -/
structure Holds (m : SockAddr) (a : SocketAddress) : Prop where
  family : family abi m = abi.code a.family
  port : field 2 2 m = bigEndian16 a.port
  address : addressField a.address m = octets a.address

theorem assignV4_holds (a : SocketAddressV4) (m : SockAddr) :
    Holds abi (assignV4 abi a m) (.ofV4 a) where
  family := by
    rw [assignV4, family_write abi (by omega), family_write abi (by omega),
      family_write abi (by omega)]
    exact family_writeFamily abi (code_small abi .inet) m
  port := by
    rw [assignV4, field_write_other _ (by omega) (by simp), ← store16_byteswap16]
    exact field_write_self _ (by omega) rfl
  address := by
    change field 4 4 _ = a.address.octets.toList
    rw [assignV4, field_write_other _ (by omega) (by simp),
      field_write_other _ (by omega) (by simp [store16]), ← store32_byteswap32_toBits]
    exact field_write_self _ (by omega) rfl

theorem assignV6_holds (a : SocketAddressV6) (m : SockAddr) :
    Holds abi (assignV6 abi a m) (.ofV6 a) where
  family := by
    rw [assignV6, family_write abi (by omega), family_write abi (by omega),
      family_write abi (by omega), family_write abi (by omega)]
    exact family_writeFamily abi (code_small abi .inet6) m
  port := by
    rw [assignV6, field_write_other _ (by omega) (by simp),
      field_write_other _ (by omega) (by simp), ← store16_byteswap16]
    exact field_write_self _ (by omega) rfl
  address := by
    change field 8 16 _ = a.address.octets.toList
    rw [assignV6, field_write_other _ (by omega) (by simp),
      field_write_other _ (by omega) (by simp [store32]),
      field_write_other _ (by omega) (by simp [store16])]
    exact field_write_self _ (by omega) (by simp)

theorem assign_holds (a : SocketAddress) (m : SockAddr) : Holds abi (assign abi a m) a := by
  obtain ⟨address, port⟩ := a
  cases address with
  | v4 address => exact assignV4_holds abi ⟨address, port⟩ m
  | v6 address => exact assignV6_holds abi ⟨address, port⟩ m

theorem ofSocketAddress_holds (a : SocketAddress) : Holds abi (ofSocketAddress abi a) a :=
  assign_holds abi a zero

end

def structSize : Family → ℕ
  | .inet => 16
  | .inet6 => 28

section
variable {abi : Abi} {m : SockAddr} {a : SocketAddress} (h : Holds abi m a)
include h

theorem Holds.size : size abi m = structSize a.family := by
  rw [SockAddrAny.size, h.family]
  cases a.family with
  | inet => exact if_pos rfl
  | inet6 => exact if_neg (code_inet_ne abi)

end

theorem toSocketAddress_eq_some_iff {abi : Abi} {m : SockAddr} {a : SocketAddress} :
    toSocketAddress abi m = some a ↔ Holds abi m a := by
  constructor
  · intro decoded
    unfold toSocketAddress at decoded
    split_ifs at decoded with inet inet6
    · obtain rfl := Option.some.inj decoded
      exact ⟨inet, port_eq_iff.mp rfl, ipv4OfSockAddr_eq_iff.mp rfl⟩
    · obtain rfl := Option.some.inj decoded
      exact ⟨inet6, port_eq_iff.mp rfl, ipv6OfSockAddr_eq_iff.mp rfl⟩
  · rintro ⟨family, port, address⟩
    obtain ⟨⟨v4⟩ | ⟨v6⟩, value⟩ := a
    · have inet : SockAddrAny.family abi m = abi.afInet := family
      rw [toSocketAddress, if_pos inet, toSocketAddressV4, port_eq_iff.mpr port,
        ipv4OfSockAddr_eq_iff.mpr address]
      rfl
    · have inet6 : SockAddrAny.family abi m = abi.afInet6 := family
      have other : abi.afInet6 ≠ abi.afInet := code_inet_ne abi
      rw [toSocketAddress, if_neg (inet6 ▸ other), if_pos inet6, toSocketAddressV6,
        port_eq_iff.mpr port, ipv6OfSockAddr_eq_iff.mpr address]
      rfl

theorem scope_ofSocketAddress (abi : Abi) (a : SocketAddressV6) :
    field 24 4 (ofSocketAddress abi (.ofV6 a)) = List.replicate 4 0 :=
  field_write_self _ (by omega) rfl

theorem fromSockAddr_of_decoded {abi : Abi} {m : SockAddr} {a : SocketAddress}
    (decoded : toSocketAddress abi m = some a) : fromSockAddr abi m = a := by
  unfold toSocketAddress at decoded
  unfold fromSockAddr
  split_ifs at decoded ⊢ with inet inet6
  · exact Option.some.inj decoded
  · exact Option.some.inj decoded

def image (a : SocketAddress) : List UInt8 :=
  match a.address with
  | .v4 address =>
    store16 Abi.linux.afInet ++ bigEndian16 a.port ++ address.octets.toList ++ List.replicate 8 0
  | .v6 address =>
    store16 Abi.linux.afInet6 ++ bigEndian16 a.port ++ List.replicate 4 0 ++
      address.octets.toList ++ List.replicate 4 0

theorem visible_assign (a : SocketAddress) (m : SockAddr) :
    field 0 (structSize a.family) (assign .linux a m) = image a := by
  have holds := assign_holds .linux a m
  have port := holds.port
  have address := holds.address
  obtain ⟨⟨v4⟩ | ⟨v6⟩, value⟩ := a
  · have family : field 0 2 (assignV4 .linux ⟨v4, value⟩ m) = store16 Abi.linux.afInet := by
      rw [assignV4, field_write_other _ (by omega) (by simp),
        field_write_other _ (by omega) (by simp), field_write_other _ (by omega) (by simp)]
      exact field_write_self m (by omega) rfl
    have zeros : field 8 8 (assignV4 .linux ⟨v4, value⟩ m) = List.replicate 8 0 :=
      field_write_self _ (by omega) rfl
    change field 0 (2 + 2 + 4 + 8) (assignV4 .linux ⟨v4, value⟩ m) = _
    change field 2 2 (assignV4 .linux ⟨v4, value⟩ m) = _ at port
    change field 4 4 (assignV4 .linux ⟨v4, value⟩ m) = _ at address
    rw [field_append, field_append, field_append, family, port, address, zeros]
    rfl
  · have family : field 0 2 (assignV6 .linux ⟨v6, value⟩ m) = store16 Abi.linux.afInet6 := by
      rw [assignV6, field_write_other _ (by omega) (by simp),
        field_write_other _ (by omega) (by simp), field_write_other _ (by omega) (by simp),
        field_write_other _ (by omega) (by simp)]
      exact field_write_self m (by omega) rfl
    have flowinfo : field 4 4 (assignV6 .linux ⟨v6, value⟩ m) = List.replicate 4 0 := by
      rw [assignV6, field_write_other _ (by omega) (by simp)]
      exact field_write_self _ (by omega) rfl
    have scope : field 24 4 (assignV6 .linux ⟨v6, value⟩ m) = List.replicate 4 0 :=
      field_write_self _ (by omega) rfl
    change field 0 (2 + 2 + 4 + 16 + 4) (assignV6 .linux ⟨v6, value⟩ m) = _
    change field 2 2 (assignV6 .linux ⟨v6, value⟩ m) = _ at port
    change field 8 16 (assignV6 .linux ⟨v6, value⟩ m) = _ at address
    rw [field_append, field_append, field_append, field_append, family, port, flowinfo, address,
      scope]
    rfl

def assignAll (abi : Abi) (as : List SocketAddress) (m : SockAddr) : SockAddr :=
  as.foldl (fun m a => assign abi a m) m

/-- Whatever was there before, the union holds the address assigned last, and of the
bytes that count none is older. -/
theorem holds_last (earlier : List SocketAddress) (a : SocketAddress) (m : SockAddr) :
    family .linux (assignAll .linux (earlier ++ [a]) m) = Abi.linux.code a.family ∧
      size .linux (assignAll .linux (earlier ++ [a]) m) = structSize a.family ∧
      toSocketAddress .linux (assignAll .linux (earlier ++ [a]) m) = some a ∧
      fromSockAddr .linux (assignAll .linux (earlier ++ [a]) m) = a ∧
      field 2 2 (assignAll .linux (earlier ++ [a]) m) = bigEndian16 a.port ∧
      addressField a.address (assignAll .linux (earlier ++ [a]) m) = octets a.address ∧
      ∀ m', field 0 (structSize a.family) (assignAll .linux (earlier ++ [a]) m) =
        field 0 (structSize a.family) (assign .linux a m') := by
  have last : assignAll .linux (earlier ++ [a]) m =
      assign .linux a (assignAll .linux earlier m) := by
    rw [assignAll, List.foldl_append]
    rfl
  rw [last]
  have holds := assign_holds .linux a (assignAll .linux earlier m)
  have decoded := toSocketAddress_eq_some_iff.mpr holds
  refine ⟨holds.family, holds.size, decoded, fromSockAddr_of_decoded decoded, holds.port,
    holds.address, fun m' => ?_⟩
  rw [visible_assign, visible_assign]

end SockAddrAny
end Qsox
