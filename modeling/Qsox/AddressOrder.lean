import Qsox.BigEndian
import Qsox.Rfc5952
import Qsox.SockAddrAny

/-! Addresses as numbers, and the comparison operators, which compare octets from the
first. -/

namespace Qsox

namespace Ipv4Address

/-- `operator<=>`. -/
def compare (a rhs : Ipv4Address) : Ordering :=
  BigEndian.order a.octets.toList rhs.octets.toList

def number (a : Ipv4Address) : ℕ := BigEndian.ofBytes a.octets.toList

theorem number_eq (a : Ipv4Address) :
    a.number = (a.octets.get 0).toNat * 16777216 + (a.octets.get 1).toNat * 65536 +
      (a.octets.get 2).toNat * 256 + (a.octets.get 3).toNat := by
  rw [number, congrArg (fun a => BigEndian.ofBytes a.octets.toList) (eq_ofOctets a)]
  change BigEndian.ofBytes [a.octets.get 0, a.octets.get 1, a.octets.get 2, a.octets.get 3] = _
  simp only [BigEndian.ofBytes_cons, List.length_cons, List.length_nil]
  change _ + (_ + (_ + (_ + 0))) = _
  omega

theorem or_eq_add {high low i : ℕ} (small : low < 2 ^ i) :
    high * 2 ^ i ||| low = high * 2 ^ i + low := by
  rw [← Nat.shiftLeft_eq, Nat.shiftLeft_add_eq_or_of_lt small]

@[simp] theorem toNat_toBits (a : Ipv4Address) : a.toBits.toNat = a.number := by
  have h₀ := (a.octets.get 0).toNat_lt
  have h₁ := (a.octets.get 1).toNat_lt
  have h₂ := (a.octets.get 2).toNat_lt
  have h₃ := (a.octets.get 3).toNat_lt
  have first : ((a.octets.get 0).toUInt32 <<< 24).toNat = (a.octets.get 0).toNat * 2 ^ 24 := by
    rw [UInt32.toNat_shiftLeft, UInt8.toNat_toUInt32, Nat.shiftLeft_eq]
    exact Nat.mod_eq_of_lt (by change _ * 2 ^ 24 < _; omega)
  have second : ((a.octets.get 1).toUInt32 <<< 16).toNat = (a.octets.get 1).toNat * 2 ^ 16 := by
    rw [UInt32.toNat_shiftLeft, UInt8.toNat_toUInt32, Nat.shiftLeft_eq]
    exact Nat.mod_eq_of_lt (by change _ * 2 ^ 16 < _; omega)
  have third : ((a.octets.get 2).toUInt32 <<< 8).toNat = (a.octets.get 2).toNat * 2 ^ 8 := by
    rw [UInt32.toNat_shiftLeft, UInt8.toNat_toUInt32, Nat.shiftLeft_eq]
    exact Nat.mod_eq_of_lt (by change _ * 2 ^ 8 < _; omega)
  have low : (a.octets.get 2).toNat * 2 ^ 8 ||| (a.octets.get 3).toNat = _ := or_eq_add h₃
  have middle : (a.octets.get 1).toNat * 2 ^ 16 |||
      ((a.octets.get 2).toNat * 2 ^ 8 + (a.octets.get 3).toNat) = _ := or_eq_add (by omega)
  rw [toBits, UInt32.toNat_or, UInt32.toNat_or, UInt32.toNat_or, first, second, third,
    UInt8.toNat_toUInt32, Nat.or_assoc, Nat.or_assoc, low, middle, or_eq_add (by omega), number_eq]
  omega

@[simp] theorem number_fromBits (bits : UInt32) : (fromBits bits).number = bits.toNat := by
  have octet (i : UInt32) : ((bits >>> i) &&& 0xff).toUInt8.toNat =
      bits.toNat / 2 ^ (i.toNat % 32) % 256 := by
    rw [UInt32.toNat_toUInt8, UInt32.toNat_and, UInt32.toNat_shiftRight, Nat.shiftRight_eq_div_pow]
    change (_ &&& (2 ^ 8 - 1)) % 2 ^ 8 = _
    rw [Nat.and_two_pow_sub_one_eq_mod, Nat.mod_mod]
  have last : (bits &&& 0xff).toUInt8.toNat = bits.toNat % 256 := by
    rw [UInt32.toNat_toUInt8, UInt32.toNat_and]
    change (_ &&& (2 ^ 8 - 1)) % 2 ^ 8 = _
    rw [Nat.and_two_pow_sub_one_eq_mod, Nat.mod_mod]
  have below := bits.toNat_lt
  rw [number_eq]
  change ((bits >>> 24) &&& 0xff).toUInt8.toNat * 16777216 +
    ((bits >>> 16) &&& 0xff).toUInt8.toNat * 65536 + ((bits >>> 8) &&& 0xff).toUInt8.toNat * 256 +
    (bits &&& 0xff).toUInt8.toNat = _
  rw [octet 24, octet 16, octet 8, last]
  change bits.toNat / 2 ^ 24 % 256 * 16777216 + bits.toNat / 2 ^ 16 % 256 * 65536 +
    bits.toNat / 2 ^ 8 % 256 * 256 + bits.toNat % 256 = _
  omega

@[simp] theorem number_inj {a b : Ipv4Address} : a.number = b.number ↔ a = b := by
  rw [number, number, BigEndian.ofBytes_inj (by rw [Vector.length_toList, Vector.length_toList]),
    Vector.toList_inj]
  exact ⟨fun same => by cases a; cases b; exact congrArg mk same, congrArg octets⟩

@[simp] theorem fromBits_toBits (a : Ipv4Address) : fromBits a.toBits = a :=
  number_inj.mp ((number_fromBits a.toBits).trans a.toNat_toBits)

@[simp] theorem toBits_fromBits (bits : UInt32) : (fromBits bits).toBits = bits :=
  UInt32.toNat_inj.mp ((toNat_toBits (fromBits bits)).trans (number_fromBits bits))

end Ipv4Address

namespace Ipv6Address

/-- `operator<=>`. -/
def compare (a rhs : Ipv6Address) : Ordering :=
  BigEndian.order a.octets.toList rhs.octets.toList

def number (a : Ipv6Address) : ℕ := BigEndian.ofBytes a.octets.toList

theorem number_lt (a : Ipv6Address) : a.number < 2 ^ 128 := by
  have below := BigEndian.ofBytes_lt a.octets.toList
  rwa [Vector.length_toList] at below

@[simp] theorem number_inj {a b : Ipv6Address} : a.number = b.number ↔ a = b := by
  rw [number, number, BigEndian.ofBytes_inj (by rw [Vector.length_toList, Vector.length_toList]),
    Vector.toList_inj]
  exact ⟨congrArg mk, congrArg octets⟩

/-- The constructor from eight groups: each is swapped, and all are copied as they are in
memory. -/
def ofSegments (groups : Vector UInt16 8) : Ipv6Address :=
  ⟨Vector.ofFn fun i : Fin 16 =>
    let group := Util.byteswap16 (groups.get ⟨i / 2, by omega⟩)
    if i.val % 2 = 0 then group.toUInt8 else (group >>> 8).toUInt8⟩

@[simp] theorem segments_ofSegments (groups : Vector UInt16 8) :
    (ofSegments groups).segments = groups := by
  ext i hi
  have even : (ofSegments groups).octets[2 * i] = (Util.byteswap16 groups[i]).toUInt8 := by
    simp [ofSegments]
    rfl
  have odd : (ofSegments groups).octets[2 * i + 1] = (Util.byteswap16 groups[i] >>> 8).toUInt8 := by
    have half : (2 * i + 1) / 2 = i := by omega
    simp [ofSegments, half]
    rfl
  have loaded : (ofSegments groups).segments[i] = Util.byteswap16 (Util.load16
      (ofSegments groups).octets[2 * i] (ofSegments groups).octets[2 * i + 1]) := by
    simp only [segments, Vector.getElem_ofFn]
    rfl
  rw [loaded, even, odd, Util.load16_toUInt8, Util.byteswap16_byteswap16]

@[simp] theorem ofSegments_segments (a : Ipv6Address) : ofSegments a.segments = a := by
  obtain ⟨octets⟩ := a
  refine congrArg mk ?_
  ext i hi
  have group (j : ℕ) (hj : j < 8) : Util.byteswap16 ((segments ⟨octets⟩).get ⟨j, hj⟩) =
      Util.load16 octets[2 * j] octets[2 * j + 1] := by
    have built : (segments ⟨octets⟩)[j] = Util.byteswap16 (Util.load16 octets[2 * j]
        octets[2 * j + 1]) := by
      simp only [segments, Vector.getElem_ofFn]
      rfl
    exact (congrArg Util.byteswap16 built).trans (Util.byteswap16_byteswap16 _)
  simp only [Vector.getElem_ofFn, group]
  split_ifs with parity
  · have same : 2 * (i / 2) = i := by omega
    simp only [same, Util.load16_low]
  · have same : 2 * (i / 2) + 1 = i := by omega
    simp only [same, Util.load16_high]

theorem number_segments (a : Ipv6Address) :
    BigEndian.number 65536 (a.segments.toList.map UInt16.toNat) = a.number := by
  let pairs : List (ℕ × ℕ) := a.segments.toList.map fun s => (s.toNat / 256, s.toNat % 256)
  have groups : a.segments.toList.map UInt16.toNat =
      pairs.map fun pair => pair.1 * 256 + pair.2 := by
    rw [List.map_map]
    refine List.map_congr_left fun s _ => ?_
    change s.toNat = s.toNat / 256 * 256 + s.toNat % 256
    omega
  have bytes : a.octets.toList.map UInt8.toNat = pairs.flatMap fun pair => [pair.1, pair.2] := by
    rw [← flatMap_segments, List.map_flatMap, List.flatMap_map]
    refine List.flatMap_congr fun s _ => ?_
    have high : s.toNat / 256 < 256 := by
      have below := s.toNat_lt
      omega
    simp only [segmentOctets, List.map_cons, List.map_nil, UInt8.toNat_ofNat']
    rw [Nat.mod_eq_of_lt high, Nat.mod_eq_of_lt (Nat.mod_lt _ (by decide))]
  rw [number, BigEndian.ofBytes, groups, bytes]
  exact BigEndian.number_pairs 256 pairs

theorem number_fromIpv4Mapped (a : Ipv4Address) :
    (fromIpv4Mapped a).number = 0xffff * 2 ^ 32 + a.number := by
  have octets := toIpv4Mapped_eq_some_iff.mp (toIpv4Mapped_fromIpv4Mapped a)
  rw [number, octets, BigEndian.ofBytes_append, BigEndian.ofBytes_append]
  rw [List.length_append, Vector.length_toList]
  change 0 * _ + (0xffff * 256 ^ 4 + a.number) = _
  omega

end Ipv6Address

/-- Addresses are compared as the numbers that they are, which their bits and their groups
give too; the two constructors undo what reads these; and IPv4 addresses keep their order when
they are mapped. -/
theorem addresses_ordered :
    (∀ a b : Ipv4Address, a.compare b = compare a.toBits.toNat b.toBits.toNat) ∧
      (∀ a : Ipv4Address, .fromBits a.toBits = a) ∧
      (∀ bits, (Ipv4Address.fromBits bits).toBits = bits) ∧
      (∀ a b : Ipv6Address, a.compare b =
        compare (BigEndian.number 65536 (a.segments.toList.map UInt16.toNat))
          (BigEndian.number 65536 (b.segments.toList.map UInt16.toNat))) ∧
      (∀ a : Ipv6Address, .ofSegments a.segments = a) ∧
      (∀ groups, (Ipv6Address.ofSegments groups).segments = groups) ∧
      (∀ a b : Ipv4Address,
        (Ipv6Address.fromIpv4Mapped a).compare (.fromIpv4Mapped b) = a.compare b) := by
  have four (a b : Ipv4Address) : a.compare b = compare a.number b.number :=
    BigEndian.order_eq_compare (by rw [Vector.length_toList, Vector.length_toList])
  have six (a b : Ipv6Address) : a.compare b = compare a.number b.number :=
    BigEndian.order_eq_compare (by rw [Vector.length_toList, Vector.length_toList])
  refine ⟨fun a b => ?_, Ipv4Address.fromBits_toBits, Ipv4Address.toBits_fromBits, fun a b => ?_,
    Ipv6Address.ofSegments_segments, Ipv6Address.segments_ofSegments, fun a b => ?_⟩
  · rw [four, ← Ipv4Address.toNat_toBits, ← Ipv4Address.toNat_toBits]
  · rw [six, Ipv6Address.number_segments, Ipv6Address.number_segments]
  · rw [four, six, Ipv6Address.number_fromIpv4Mapped, Ipv6Address.number_fromIpv4Mapped,
      Nat.compare_eq_ite_lt, Nat.compare_eq_ite_lt]
    simp only [Nat.add_lt_add_iff_left]

end Qsox
