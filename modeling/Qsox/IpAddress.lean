import Qsox.Ipv6Address

/-! `IpAddress`: either family, with the parser that tries IPv4 first unless the
length rules it out. The second part compares the two literal languages: IPv6
text that ends in a dotted quad may also pass the IPv4 parser. -/

namespace Qsox

open StringView

inductive IpAddress
  | v4 (address : Ipv4Address)
  | v6 (address : Ipv6Address)
  deriving DecidableEq, Repr

namespace IpAddress

def toString : IpAddress → Text
  | v4 address => address.toString
  | v6 address => address.toString

def parse (pton : InetPton) (str : Text) : Except Unit IpAddress :=
  if str.length < 7 ∨ str.length > 15 then
    match Ipv6Address.parse pton str with
    | .ok address => .ok (v6 address)
    | .error _ => .error ()
  else
    match Ipv4Address.parse str with
    | .ok address => .ok (v4 address)
    | .error _ =>
      match Ipv6Address.parse pton str with
      | .ok address => .ok (v6 address)
      | .error _ => .error ()

theorem length_ipv4_toString (a : Ipv4Address) :
    7 ≤ a.toString.length ∧ a.toString.length ≤ 15 := by
  have bound (n : UInt8) : 0 < (Nat.toDigits 10 n.toNat).length ∧
      (Nat.toDigits 10 n.toNat).length ≤ 3 :=
    ⟨Nat.length_toDigits_pos, (Ipv6Address.isOctet_decimal true n).short⟩
  have h₀ := bound a.octets[0]
  have h₁ := bound a.octets[1]
  have h₂ := bound a.octets[2]
  have h₃ := bound a.octets[3]
  rw [Ipv4Address.toString_eq, Ipv4Address.dotted]
  simp only [List.length_append, List.length_cons]
  omega

theorem parse_ipv4_toString (pton : InetPton) (a : Ipv4Address) :
    parse pton a.toString = .ok (v4 a) := by
  have window := length_ipv4_toString a
  rw [parse, if_neg (by omega), Ipv4Address.parse_toString]

theorem parse_of_ipv4_error {pton : InetPton} {s : Text} {a : Ipv6Address}
    (refused : ∀ v4, Ipv4Address.parse s ≠ .ok v4) (h : Ipv6Address.parse pton s = .ok a) :
    parse pton s = .ok (v6 a) := by
  unfold parse
  split_ifs
  · rw [h]
  · cases hv4 : Ipv4Address.parse s with
    | ok v4 => exact absurd hv4 (refused v4)
    | error e => simp only [h]

section
variable {z : Bool} {pton : InetPton} (reads : ReadsRfc4291 z pton)
include reads

theorem parse_ipv6_toString (a : Ipv6Address) : parse pton a.toString = .ok (v6 a) :=
  parse_of_ipv4_error (Ipv6Address.ipv4_parse_toString_ne_ok a)
    (Ipv6Address.parse_toString reads a)

@[simp] theorem parse_toString (a : IpAddress) : parse pton (toString a) = .ok a := by
  cases a with
  | v4 a => exact parse_ipv4_toString pton a
  | v6 a => exact parse_ipv6_toString reads a

/-- Printed addresses of either family are read back, and printed IPv6 text goes
through `inet_pton` only. -/
theorem printed_text_reads_back :
    (∀ a : IpAddress, parse pton (toString a) = .ok a) ∧
      ∀ a : Ipv6Address, (∃ e, Ipv4Address.parse a.toString = .error e) ∧
        pton a.toString = some a.octets :=
  ⟨parse_toString reads, fun a =>
    ⟨Ipv6Address.ipv4_parse_toString_eq_error a, Ipv6Address.pton_toString reads a⟩⟩

end

theorem mapped_text_reads_back :
    parse (inetPton false)
        (toString (v6 ⟨#v[0, 0, 0, 0, 0, 0, 0, 0, 0, 0, 0xff, 0xff, 1, 2, 3, 4]⟩)) =
      .ok (v6 ⟨#v[0, 0, 0, 0, 0, 0, 0, 0, 0, 0, 0xff, 0xff, 1, 2, 3, 4]⟩) :=
  (printed_text_reads_back (inetPton_reads false)).1
    (v6 ⟨#v[0, 0, 0, 0, 0, 0, 0, 0, 0, 0, 0xff, 0xff, 1, 2, 3, 4]⟩)

theorem beginsWithOctet_append_cons {c : Char} (h : c.isDigit = false) (s t : Text) :
    Ipv4Address.BeginsWithOctet (s ++ c :: t) ↔ Ipv4Address.BeginsWithOctet s := by
  simp only [Ipv4Address.BeginsWithOctet, Numeral.digits_append_cons h]

theorem beginsWithOctet_of_isOctet {z : Bool} {s : Text} {n : UInt8}
    (h : Rfc4291.IsOctet z s n) : Ipv4Address.BeginsWithOctet s := by
  have small := n.toNat_lt
  have val := h.value
  rw [Ipv4Address.BeginsWithOctet, Numeral.digits_eq_self_iff.mpr h.decimal]
  exact ⟨h.ne_nil, by omega⟩

theorem isQuadLike_iff_of_isText {z : Bool} {s : Text} {o : List UInt8}
    (h : Rfc4291.IsText z s o) :
    Ipv4Address.IsQuadLike s ↔ '.' ∈ s ∧ Ipv4Address.BeginsWithOctet s := by
  constructor
  · rintro ⟨f₀, f₁, f₂, f₃, rfl, fields⟩
    refine ⟨by simp [Ipv4Address.dotted], ?_⟩
    rw [Ipv4Address.dotted, beginsWithOctet_append_cons (by decide)]
    exact (fields f₀ (by simp)).2
  · rintro ⟨dot, begins⟩
    obtain ⟨p, t, v, rfl, clean, ⟨h₀, h₁, h₂, h₃⟩⟩ := h.quad_of_dot dot
    rename_i s₀ s₁ s₂ s₃ a b c d
    rw [← List.append_assoc, beginsWithOctet_append_cons (by decide)] at begins
    refine ⟨p ++ s₀, s₁, s₂, s₃, by simp [Ipv4Address.dotted], ?_⟩
    simp [clean, begins, h₀.dot_not_mem, h₁.dot_not_mem, h₂.dot_not_mem, h₃.dot_not_mem,
      beginsWithOctet_of_isOctet h₁, beginsWithOctet_of_isOctet h₂, beginsWithOctet_of_isOctet h₃]

theorem ipv4_parse_error_iff {s : Text} :
    (∃ e, Ipv4Address.parse s = .error e) ↔ ¬ Ipv4Address.IsQuadLike s := by
  rw [← Ipv4Address.exists_parse_eq_ok_iff]
  cases Ipv4Address.parse s with
  | ok a => simp
  | error e => simp

/-- Both parsers in order, without a look at the length. -/
def parseInOrder (pton : InetPton) (str : Text) : Except Unit IpAddress :=
  match Ipv4Address.parse str with
  | .ok address => .ok (v4 address)
  | .error _ =>
    match Ipv6Address.parse pton str with
    | .ok address => .ok (v6 address)
    | .error _ => .error ()

theorem parseInOrder_of_ipv4 (pton : InetPton) {s : Text} {a : Ipv4Address}
    (h : Ipv4Address.parse s = .ok a) : parseInOrder pton s = .ok (v4 a) := by
  rw [parseInOrder, h]

theorem parse_of_window (pton : InetPton) {s : Text} (h : ¬ (s.length < 7 ∨ s.length > 15)) :
    parse pton s = parseInOrder pton s := by
  rw [parse, if_neg h]
  rfl

theorem parse_of_not_isQuadLike (pton : InetPton) {s : Text} (h : ¬ Ipv4Address.IsQuadLike s) :
    parse pton s = parseInOrder pton s := by
  obtain ⟨e, refused⟩ := ipv4_parse_error_iff.mpr h
  unfold parse parseInOrder
  rw [refused]
  split_ifs <;> rfl

theorem length_pos_of_beginsWithOctet {f : Text} (h : Ipv4Address.BeginsWithOctet f) :
    0 < f.length := by
  obtain ⟨c, rest, rfl, -⟩ := Numeral.digits_ne_nil_iff.mp h.1
  exact Nat.succ_pos _

theorem length_of_isQuadLike {s : Text} (h : Ipv4Address.IsQuadLike s) : 7 ≤ s.length := by
  obtain ⟨f₀, f₁, f₂, f₃, rfl, fields⟩ := h
  have h₀ := length_pos_of_beginsWithOctet (fields f₀ (by simp)).2
  have h₁ := length_pos_of_beginsWithOctet (fields f₁ (by simp)).2
  have h₂ := length_pos_of_beginsWithOctet (fields f₂ (by simp)).2
  have h₃ := length_pos_of_beginsWithOctet (fields f₃ (by simp)).2
  simp only [Ipv4Address.dotted, List.length_append, List.length_cons]
  omega

/-- The shortcut is right on the short texts, and on the long ones without four
fields that begin with octets. -/
theorem parse_eq_parseInOrder_iff (pton : InetPton) (s : Text) :
    (parse pton s = parseInOrder pton s ∧
        (s.length < 7 ∨ 15 < s.length → ∀ a, Ipv4Address.parse s ≠ .ok a)) ↔
      ¬ (15 < s.length ∧ Ipv4Address.IsQuadLike s) := by
  constructor
  · intro agree long
    obtain ⟨a, accepted⟩ := Ipv4Address.exists_parse_eq_ok_iff.mpr long.2
    exact agree.2 (.inr long.1) a accepted
  · intro harmless
    by_cases quad : Ipv4Address.IsQuadLike s
    · have long : ¬ 15 < s.length := fun h => harmless ⟨h, quad⟩
      have short := length_of_isQuadLike quad
      have window : ¬ (s.length < 7 ∨ s.length > 15) := by omega
      exact ⟨parse_of_window pton window, fun outside => absurd outside window⟩
    · refine ⟨parse_of_not_isQuadLike pton quad, fun _ a accepted => quad ?_⟩
      exact Ipv4Address.exists_parse_eq_ok_iff.mp ⟨a, accepted⟩

theorem padded_quad_refused :
    Ipv4Address.parse "001.002.003.0004".toList = .ok (.ofOctets 1 2 3 4) ∧
      parse (inetPton true) "001.002.003.0004".toList = .error () ∧
      parseInOrder (inetPton true) "001.002.003.0004".toList = .ok (v4 (.ofOctets 1 2 3 4)) := by
  have accepted : Ipv4Address.parse "001.002.003.0004".toList = .ok (.ofOctets 1 2 3 4) := by decide
  exact ⟨accepted, by decide, parseInOrder_of_ipv4 _ accepted⟩

end IpAddress
end Qsox
