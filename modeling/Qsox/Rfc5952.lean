import Mathlib.Data.List.Chain
import Qsox.IpAddress

/-! The text that RFC 5952 recommends, for eight groups: each in minimal lower-case
hexadecimal, and `::` for the leftmost of the longest runs of zeros. It is what the
printer writes. -/

namespace Qsox

open StringView LongestRun

namespace Rfc5952

def IsHexList (text : Text) (groups : List ℕ) : Prop :=
  ∃ parts, text = [':'].intercalate parts ∧ List.Forall₂ Numeral.IsMinimalHex parts groups

def IsZero (groups : List ℕ) (i : ℕ) : Prop := groups[i]? = some 0

inductive IsText (groups : List ℕ) : Text → Prop
  | compressed {r : Span} {left right : Text} (chosen : Chosen (IsZero groups) 8 r)
      (long : 2 ≤ r.length) (before : IsHexList left (groups.take r.start))
      (behind : IsHexList right (groups.drop (r.start + r.length)))
      (once : ∀ u v, left ++ ':' :: ':' :: right = u ++ ':' :: ':' :: v → u = left ∧ v = right) :
      IsText groups (left ++ ':' :: ':' :: right)
  | plain {text : Text} (short : ∀ r, Maximal (IsZero groups) 8 r → r.length < 2)
      (all : IsHexList text groups) (never : ¬ [':', ':'] <:+: text) : IsText groups text

/-- No two colons in a row, and none at the ends. -/
structure Separated (text : Text) : Prop where
  chain : List.IsChain (fun c d => ¬ (c = ':' ∧ d = ':')) text
  head : text.head? ≠ some ':'
  last : text.getLast? ≠ some ':'

theorem Separated.not_infix {text : Text} (h : Separated text) : ¬ [':', ':'] <:+: text := by
  intro double
  have pair := h.chain.infix double
  simp at pair

theorem separated_of_no_colon {text : Text} (h : ':' ∉ text) : Separated text where
  chain := by
    refine List.isChain_iff_getElem.mpr fun i hi both => ?_
    exact h (both.1 ▸ List.getElem_mem _)
  head := fun first => h (List.mem_of_mem_head? first)
  last := fun last => h (List.mem_of_getLast? last)

theorem Separated.cons {part text : Text} (clean : ':' ∉ part) (part_ne : part ≠ [])
    (text_ne : text ≠ []) (h : Separated text) : Separated (part ++ ':' :: text) where
  chain := by
    have rest : List.IsChain (fun c d => ¬ (c = ':' ∧ d = ':')) (':' :: text) := by
      refine h.chain.cons fun c first both => ?_
      rw [both.2] at first
      exact h.head first
    refine (separated_of_no_colon clean).chain.append rest fun c last d _ both => ?_
    exact clean (both.1 ▸ List.mem_of_getLast? last)
  head := by
    rw [List.head?_append_of_ne_nil part part_ne]
    exact (separated_of_no_colon clean).head
  last := by
    rw [List.getLast?_append_of_ne_nil part (List.cons_ne_nil _ _),
      List.getLast?_cons_of_ne_nil text_ne]
    exact h.last

theorem intercalate_ne_nil {first : Text} (ne_nil : first ≠ []) (rest : List Text) :
    [':'].intercalate (first :: rest) ≠ [] := by
  cases rest with
  | nil => rwa [List.intercalate_singleton]
  | cons second rest =>
    rw [List.intercalate_cons_cons]
    simp [ne_nil]

theorem separated_intercalate {parts : List Text}
    (clean : ∀ part ∈ parts, ':' ∉ part ∧ part ≠ []) : Separated ([':'].intercalate parts) := by
  induction parts with
  | nil => exact separated_of_no_colon List.not_mem_nil
  | cons first rest ih =>
    obtain ⟨⟨first_clean, first_ne⟩, others⟩ := List.forall_mem_cons.mp clean
    cases rest with
    | nil =>
      rw [List.intercalate_singleton]
      exact separated_of_no_colon first_clean
    | cons second rest =>
      have second_ne := (others second List.mem_cons_self).2
      rw [List.intercalate_cons_cons, List.append_assoc]
      exact (ih others).cons first_clean first_ne (intercalate_ne_nil second_ne rest)

theorem IsHexList.separated {text : Text} {groups : List ℕ} (h : IsHexList text groups) :
    Separated text := by
  obtain ⟨parts, rfl, minimal⟩ := h
  refine separated_intercalate ?_
  induction minimal with
  | nil => exact fun _ there => absurd there List.not_mem_nil
  | cons hex _ ih =>
    refine List.forall_mem_cons.mpr ⟨⟨fun colon => ?_, ?_⟩, ih⟩
    · have digit := hex.lower ':' colon
      revert digit
      decide
    · rcases hex.minimal with rfl | ⟨ne_nil, -⟩
      · exact List.cons_ne_nil _ _
      · exact ne_nil

theorem double_once {left right u v : Text} (hl : Separated left) (hr : Separated right)
    (same : left ++ ':' :: ':' :: right = u ++ ':' :: ':' :: v) : u = left ∧ v = right := by
  rcases List.append_eq_append_iff.mp same with ⟨w, rfl, rest⟩ | ⟨w, rfl, rest⟩
  · match w with
    | [] => simpa using rest.symm
    | [c] =>
      obtain ⟨-, rfl⟩ : ':' = c ∧ right = ':' :: v := by simpa using rest
      exact absurd rfl hr.head
    | c :: d :: w =>
      obtain ⟨-, -, rfl⟩ : ':' = c ∧ ':' = d ∧ right = w ++ ':' :: ':' :: v := by simpa using rest
      exact absurd ⟨w, v, by simp⟩ hr.not_infix
  · match w with
    | [] => simpa using rest
    | [c] =>
      obtain ⟨rfl, -⟩ : ':' = c ∧ v = ':' :: right := by simpa using rest
      exact absurd List.getLast?_concat hl.last
    | c :: d :: w =>
      obtain ⟨rfl, rfl, -⟩ : ':' = c ∧ ':' = d ∧ v = w ++ ':' :: ':' :: right := by
        simpa using rest
      exact absurd ⟨u, w, by simp⟩ hl.not_infix

end Rfc5952

namespace Ipv6Address

theorem high_lt (i : Fin 8) : 2 * i.val < 16 := by omega

theorem low_lt (i : Fin 8) : 2 * i.val + 1 < 16 := by omega

def groups (a : Ipv6Address) : List ℕ :=
  List.ofFn fun i : Fin 8 => 256 * (a.octets.get ⟨2 * i, high_lt i⟩).toNat +
    (a.octets.get ⟨2 * i + 1, low_lt i⟩).toNat

theorem groups_eq (a : Ipv6Address) : groups a = a.segments.toList.map UInt16.toNat := by
  rw [groups, segments, Vector.toList_ofFn, List.map_ofFn]
  congr 1
  funext i
  exact (Util.toNat_byteswap16_load16 _ _).symm

theorem isHexList_joinHex (l : List UInt16) :
    Rfc5952.IsHexList (joinHex l) (l.map UInt16.toNat) := by
  refine ⟨l.map hex, rfl, ?_⟩
  induction l with
  | nil => exact .nil
  | cons g l ih => exact .cons (Numeral.isMinimalHex_hexadecimal g.toNat) ih

@[simp] theorem isZero_groups (a : Ipv6Address) :
    Rfc5952.IsZero (groups a) = IsZeroAt a.segments := by
  funext i
  rw [Rfc5952.IsZero, IsZeroAt, groups_eq, eq_iff_iff, List.getElem?_map]
  by_cases inside : i < 8
  · simp [inside, ← UInt16.toNat_inj]
  · simp [inside]

theorem short_of_longest {a : Ipv6Address} (short : ¬ (longestZeros a.segments).length > 1)
    (r : Span) (maximal : Maximal (Rfc5952.IsZero (groups a)) 8 r) : r.length < 2 := by
  rw [isZero_groups] at maximal
  have bound := (longestZeros_spec a.segments).longest r maximal.run
  omega

theorem toString_recommended {a : Ipv6Address} (h : a.toIpv4Mapped = none) :
    Rfc5952.IsText (groups a) (toString a) := by
  by_cases long : (longestZeros a.segments).length > 1
  · rw [toString_compressed h long]
    have before := isHexList_joinHex (a.segments.toList.take (longestZeros a.segments).start)
    have behind := isHexList_joinHex (a.segments.toList.drop
      ((longestZeros a.segments).start + (longestZeros a.segments).length))
    rw [List.map_take, ← groups_eq] at before
    rw [List.map_drop, ← groups_eq] at behind
    have chosen := (longestZeros_spec a.segments).chosen (by omega)
    rw [← isZero_groups] at chosen
    exact .compressed chosen long before behind fun u v =>
      Rfc5952.double_once before.separated behind.separated
  · rw [toString_plain h long]
    have all := isHexList_joinHex a.segments.toList
    rw [← groups_eq] at all
    exact .plain (short_of_longest long) all all.separated.not_infix

theorem length_joinHex (l : List UInt16) : (joinHex l).length ≤ 5 * l.length - 1 := by
  induction l with
  | nil => simp [joinHex]
  | cons g l ih =>
    have first : (hex g).length ≤ 4 := Numeral.length_hexadecimal_le g.toNat_lt
    cases l with
    | nil => simpa [joinHex] using first
    | cons g' l =>
      have step : joinHex (g :: g' :: l) = hex g ++ ':' :: joinHex (g' :: l) := by
        simp [joinHex, List.intercalate_cons_cons]
      rw [step, List.length_append, List.length_cons]
      simp only [List.length_cons] at ih ⊢
      omega

theorem length_toString (a : Ipv6Address) : (toString a).length ≤ 39 := by
  cases mapped : a.toIpv4Mapped with
  | some v4 =>
    have quad := (IpAddress.length_ipv4_toString v4).2
    rw [toString_mapped mapped]
    have mark : "ffff".toList.length = 4 := rfl
    simp only [List.length_cons, List.length_append, mark]
    omega
  | none =>
    by_cases long : (longestZeros a.segments).length > 1
    · have inside := (longestZeros_spec a.segments).run.1
      have before := length_joinHex (a.segments.toList.take (longestZeros a.segments).start)
      have behind := length_joinHex (a.segments.toList.drop
        ((longestZeros a.segments).start + (longestZeros a.segments).length))
      rw [toString_compressed mapped long]
      simp only [List.length_take, List.length_drop, Vector.length_toList, List.length_append,
        List.length_cons] at before behind ⊢
      omega
    · have all := length_joinHex a.segments.toList
      rw [toString_plain mapped long]
      simpa using all

theorem toIpv4Mapped_eq_some_iff {a : Ipv6Address} {v4 : Ipv4Address} :
    a.toIpv4Mapped = some v4 ↔
      a.octets.toList = List.replicate 10 0 ++ ([0xff, 0xff] ++ v4.octets.toList) := by
  constructor
  · exact octets_of_toIpv4Mapped
  · intro octets
    have same : a = fromIpv4Mapped v4 := by
      obtain ⟨o⟩ := a
      refine congrArg Ipv6Address.mk (Vector.toList_inj.mp ?_)
      rw [octets, Vector.toList_append, Vector.toList_append]
      rfl
    rw [same, toIpv4Mapped_fromIpv4Mapped]

/-- The printer is canonical, and keeps within the 39 characters that it reserves. -/
theorem toString_canonical (a : Ipv6Address) :
    (∀ v4 : Ipv4Address,
      a.octets.toList = List.replicate 10 0 ++ ([0xff, 0xff] ++ v4.octets.toList) →
        toString a = "::ffff:".toList ++ Ipv4Address.dotted
          (Nat.toDigits 10 (v4.octets.get 0).toNat) (Nat.toDigits 10 (v4.octets.get 1).toNat)
          (Nat.toDigits 10 (v4.octets.get 2).toNat) (Nat.toDigits 10 (v4.octets.get 3).toNat)) ∧
      ((∀ v4 : Ipv4Address,
        a.octets.toList ≠ List.replicate 10 0 ++ ([0xff, 0xff] ++ v4.octets.toList)) →
          Rfc5952.IsText (groups a) (toString a)) ∧
      (toString a).length ≤ 39 := by
  refine ⟨fun v4 octets => ?_, fun unmapped => ?_, length_toString a⟩
  · rw [toString_mapped (toIpv4Mapped_eq_some_iff.mpr octets), Ipv4Address.toString_eq]
    rfl
  · refine toString_recommended (Option.eq_none_iff_forall_ne_some.mpr fun v4 mapped => ?_)
    exact unmapped v4 (toIpv4Mapped_eq_some_iff.mp mapped)

theorem documentation_text_canonical :
    Rfc5952.IsText [0x2001, 0xdb8, 0, 0, 1, 0, 0, 1] "2001:db8::1:0:0:1".toList :=
  (toString_canonical ⟨#v[0x20, 1, 0xd, 0xb8, 0, 0, 0, 0, 0, 1, 0, 0, 0, 0, 0, 1]⟩).2.1
    fun _ mapped => by
      have first := congrArg List.head? mapped
      cases first

end Ipv6Address
end Qsox
