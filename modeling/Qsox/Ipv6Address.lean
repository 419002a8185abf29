import Mathlib.Data.List.FinRange
import Mathlib.Tactic.IntervalCases
import Qsox.Control
import Qsox.Ipv4Address
import Qsox.LongestRun
import Qsox.Rfc4291
import Qsox.Util

/-! `Ipv6Address`: sixteen octets, the compressing printer and the parser, which
hands the text to `inet_pton`. That function is a parameter; what is assumed of
it is `ReadsRfc4291`, and `inetPton` is a function with this behaviour. -/

namespace Qsox

open StringView

structure Ipv6Address where
  octets : Vector UInt8 16
  deriving DecidableEq, Repr

inductive Ipv6ParseError
  | unspecified
  deriving DecidableEq, Repr

/-- `inet_pton(AF_INET6, ...)` on the characters of a C string: the octets it
writes when it returns 1. -/
abbrev InetPton := Text → Option (Vector UInt8 16)

/-- It accepts exactly the texts of RFC 4291, with their value. -/
def ReadsRfc4291 (z : Bool) (pton : InetPton) : Prop :=
  ∀ s o, pton s = some o ↔ Rfc4291.IsText z s o.toList

def inetPton (z : Bool) : InetPton := fun s =>
  match Rfc4291.read z s with
  | none => none
  | some o => if h : o.length = 16 then some ⟨o.toArray, h⟩ else none

theorem inetPton_reads (z : Bool) : ReadsRfc4291 z (inetPton z) := by
  intro s o
  rw [← Rfc4291.read_eq_some_iff, inetPton]
  cases hr : Rfc4291.read z s with
  | none => simp
  | some o' =>
    have len := (Rfc4291.read_eq_some_iff.mp hr).length
    simp only [len, ↓reduceDIte, Option.some.injEq]
    constructor
    · rintro rfl
      rfl
    · rintro rfl
      rfl

namespace Ipv6Address

/-- The part of a `std::string` that `c_str()` shows to a C function. -/
def cString (str : Text) : Text := str.takeWhile (· ≠ '\x00')

def parse (pton : InetPton) (str : Text) : Except Ipv6ParseError Ipv6Address :=
  match pton (cString str) with
  | none => .error .unspecified
  | some octets => .ok ⟨octets⟩

/-- The eight 16-bit groups: the octets loaded as native integers, byteswapped. -/
def segments (a : Ipv6Address) : Vector UInt16 8 :=
  Vector.ofFn fun i : Fin 8 => Util.byteswap16
    (Util.load16 (a.octets.get ⟨2 * i, by omega⟩) (a.octets.get ⟨2 * i + 1, by omega⟩))

def toIpv4Mapped (a : Ipv6Address) : Option Ipv4Address :=
  if (List.finRange 10).all fun i => a.octets.get (i.castLE (by decide)) == 0 then
    if a.octets[10] == 0xff && a.octets[11] == 0xff then
      some (.ofOctets a.octets[12] a.octets[13] a.octets[14] a.octets[15])
    else none
  else none

def fromIpv4Mapped (a : Ipv4Address) : Ipv6Address :=
  let zeros : Vector UInt8 10 := Vector.replicate 10 0
  let mark : Vector UInt8 2 := Vector.replicate 2 0xff
  ⟨zeros ++ mark ++ a.octets⟩

def unspecified : Ipv6Address := ⟨Vector.replicate 16 0⟩

/-- One round of the search for the longest sequence of zero segments; the
state is the pair `longest`, `current`. -/
def scanSegment (segments : Vector UInt16 8) (st : LongestRun.Span × LongestRun.Span) (i : Fin 8) :
    LongestRun.Span × LongestRun.Span :=
  if segments[i] = 0 then
    let current := st.2.push i
    (if current.length > st.1.length then current else st.1, current)
  else (st.1, {})

def longestZeros (segments : Vector UInt16 8) : LongestRun.Span :=
  ((List.finRange 8).foldl (scanSegment segments) ({}, {})).1

def writeSubslice (segments : Vector UInt16 8) (out : Text) (start count : ℕ) : Text :=
  (List.range' start count).foldl (fun out i =>
    (if i > start then out ++ [':'] else out) ++ Nat.toDigits 16 segments[i]!.toNat) out

def toString (a : Ipv6Address) : Text :=
  match a.toIpv4Mapped with
  | some mappedV4 => "::ffff:".toList ++ mappedV4.toString
  | none =>
    let segments := a.segments
    let longest := longestZeros segments
    if longest.length > 1 then
      let stop := longest.start + longest.length
      writeSubslice segments (writeSubslice segments [] 0 longest.start ++ "::".toList)
        stop (8 - stop)
    else writeSubslice segments [] 0 8

example : toString ⟨#v[0x20, 1, 0xd, 0xb8, 0, 0, 0, 0, 0, 1, 0, 0, 0, 0, 0, 1]⟩ =
    "2001:db8::1:0:0:1".toList := by decide

def segmentOctets (g : UInt16) : List UInt8 :=
  [UInt8.ofNat (g.toNat / 256), UInt8.ofNat (g.toNat % 256)]

theorem segmentOctets_swapped (b₀ b₁ : UInt8) :
    segmentOctets (Util.byteswap16 (Util.load16 b₀ b₁)) = [b₀, b₁] := by
  have h₁ := b₁.toNat_lt
  rw [segmentOctets, Util.toNat_byteswap16_load16,
    show (256 * b₀.toNat + b₁.toNat) / 256 = b₀.toNat by omega,
    show (256 * b₀.toNat + b₁.toNat) % 256 = b₁.toNat by omega,
    UInt8.ofNat_toNat, UInt8.ofNat_toNat]

theorem octets_toList (a : Ipv6Address) : a.octets.toList =
    [a.octets[0], a.octets[1], a.octets[2], a.octets[3], a.octets[4], a.octets[5], a.octets[6],
      a.octets[7], a.octets[8], a.octets[9], a.octets[10], a.octets[11], a.octets[12],
      a.octets[13], a.octets[14], a.octets[15]] := by
  apply List.ext_getElem
  · simp
  · intro i h₁ h₂
    have hi : i < 16 := by simpa using h₁
    interval_cases i <;> simp

theorem flatMap_segments (a : Ipv6Address) :
    a.segments.toList.flatMap segmentOctets = a.octets.toList := by
  have unfolded : a.segments.toList =
      [Util.byteswap16 (Util.load16 a.octets[0] a.octets[1]),
        Util.byteswap16 (Util.load16 a.octets[2] a.octets[3]),
        Util.byteswap16 (Util.load16 a.octets[4] a.octets[5]),
        Util.byteswap16 (Util.load16 a.octets[6] a.octets[7]),
        Util.byteswap16 (Util.load16 a.octets[8] a.octets[9]),
        Util.byteswap16 (Util.load16 a.octets[10] a.octets[11]),
        Util.byteswap16 (Util.load16 a.octets[12] a.octets[13]),
        Util.byteswap16 (Util.load16 a.octets[14] a.octets[15])] := rfl
  rw [unfolded, octets_toList]
  simp only [List.flatMap_cons, List.flatMap_nil, segmentOctets_swapped]
  rfl

theorem length_flatMap_segmentOctets (l : List UInt16) :
    (l.flatMap segmentOctets).length = 2 * l.length := by
  induction l with
  | nil => rfl
  | cons g l ih =>
    rw [List.flatMap_cons, List.length_append, ih, List.length_cons]
    simp only [segmentOctets, List.length_cons, List.length_nil]
    omega

theorem flatMap_zeros (n : ℕ) :
    (List.replicate n (0 : UInt16)).flatMap segmentOctets = List.replicate (2 * n) 0 := by
  induction n with
  | zero => rfl
  | succ n ih =>
    rw [List.replicate_succ, List.flatMap_cons, ih, show 2 * (n + 1) = 2 * n + 1 + 1 by omega]
    rfl

def IsZeroAt (segments : Vector UInt16 8) (i : ℕ) : Prop :=
  ∃ h : i < 8, segments[i] = 0

theorem scanSegment_spec {segments : Vector UInt16 8} {st : LongestRun.Span × LongestRun.Span}
    (i : Fin 8) (longest : LongestRun.Longest (IsZeroAt segments) i st.1)
    (trailing : LongestRun.Trailing (IsZeroAt segments) i st.2) :
    LongestRun.Longest (IsZeroAt segments) (i + 1) (scanSegment segments st i).1 ∧
      LongestRun.Trailing (IsZeroAt segments) (i + 1) (scanSegment segments st i).2 := by
  unfold scanSegment
  split_ifs with zero
  · have pushed := trailing.push_pos ⟨i.isLt, zero⟩
    exact ⟨longest.push_pos pushed, pushed⟩
  · have hn : ¬ IsZeroAt segments i := fun h => zero h.2
    exact ⟨longest.push_neg hn, .push_neg hn⟩

theorem longestZeros_spec (segments : Vector UInt16 8) :
    LongestRun.Longest (IsZeroAt segments) 8 (longestZeros segments) := by
  let inv := fun n (st : LongestRun.Span × LongestRun.Span) =>
    LongestRun.Longest (IsZeroAt segments) n st.1 ∧ LongestRun.Trailing (IsZeroAt segments) n st.2
  have start : inv 0 ({}, {}) := ⟨.zero, .zero⟩
  exact (Control.foldl_finRange (scanSegment segments) inv start
    fun i st h => scanSegment_spec i h.1 h.2).1

def hex (g : UInt16) : Text := Nat.toDigits 16 g.toNat

def joinHex (l : List UInt16) : Text := [':'].intercalate (l.map hex)

theorem joinHex_concat {l : List UInt16} (ne_nil : l ≠ []) (g : UInt16) :
    joinHex (l ++ [g]) = joinHex l ++ ':' :: hex g := by
  induction l with
  | nil => exact absurd rfl ne_nil
  | cons x l ih =>
    cases l with
    | nil => simp [joinHex]
    | cons y l =>
      have rest := ih (by simp)
      simp only [joinHex, List.map_append, List.map_cons, List.map_nil, List.cons_append,
        List.intercalate_cons_cons] at rest ⊢
      rw [rest]
      simp

theorem writeSubslice_eq (segments : Vector UInt16 8) (out : Text) {start count : ℕ}
    (inside : start + count ≤ 8) :
    writeSubslice segments out start count =
      out ++ joinHex ((segments.toList.drop start).take count) := by
  induction count with
  | zero => simp [writeSubslice, joinHex]
  | succ count ih =>
    have rest := ih (by omega)
    have hi : start + count < 8 := by omega
    have next : (segments.toList.drop start).take (count + 1) =
        (segments.toList.drop start).take count ++ [segments[start + count]] := by
      rw [List.take_add_one, List.getElem?_drop]
      simp [hi]
    rw [writeSubslice] at rest ⊢
    rw [List.range'_1_concat, List.foldl_append, rest, next]
    simp only [List.foldl_cons, List.foldl_nil, getElem!_pos segments (start + count) hi]
    cases count with
    | zero => simp [joinHex, hex]
    | succ count =>
      have ne_nil : (segments.toList.drop start).take (count + 1) ≠ [] := by
        intro empty
        have len := congrArg List.length empty
        simp at len
        omega
      rw [joinHex_concat ne_nil, if_pos (by omega)]
      simp [hex]

theorem isGroup_hex (g : UInt16) :
    Rfc4291.IsGroup (hex g) (UInt8.ofNat (g.toNat / 256)) (UInt8.ofNat (g.toNat % 256)) where
  ne_nil := Nat.toDigits_ne_nil
  short := Numeral.length_hexadecimal_le g.toNat_lt
  hex := fun _ => Numeral.isHexDigit_of_mem_hexadecimal
  value := by
    have := g.toNat_lt
    rw [hex, Numeral.hexValue_hexadecimal,
      UInt8.toNat_ofNat_of_lt' (by change _ < 256; omega),
      UInt8.toNat_ofNat_of_lt' (by change _ < 256; omega)]
    omega

theorem pieces_joinHex (z q : Bool) {l : List UInt16} (ne_nil : l ≠ []) :
    Rfc4291.Pieces z q (joinHex l) (l.flatMap segmentOctets) := by
  induction l with
  | nil => exact absurd rfl ne_nil
  | cons g l ih =>
    cases l with
    | nil =>
      rw [joinHex, List.map_singleton, List.intercalate_singleton]
      exact .group (isGroup_hex g)
    | cons g' l =>
      rw [joinHex, List.map_cons, List.map_cons, List.intercalate_cons_cons, List.append_assoc]
      exact .cons (isGroup_hex g) (ih (by simp))

theorem side_joinHex (z q : Bool) (l : List UInt16) :
    Rfc4291.Side z q (joinHex l) (l.flatMap segmentOctets) := by
  cases l with
  | nil => exact .inl ⟨rfl, rfl⟩
  | cons g l => exact .inr (pieces_joinHex z q (by simp))

theorem segments_split {segments : Vector UInt16 8} {r : LongestRun.Span}
    (run : LongestRun.Run (IsZeroAt segments) 8 r) :
    segments.toList = segments.toList.take r.start ++
      (List.replicate r.length 0 ++ segments.toList.drop (r.start + r.length)) := by
  have inside := run.1
  have zeros : (segments.toList.drop r.start).take r.length = List.replicate r.length 0 := by
    refine List.eq_replicate_iff.mpr ⟨?_, fun b hb => ?_⟩
    · simp only [List.length_take, List.length_drop, Vector.length_toList]
      omega
    · obtain ⟨i, hi, rfl⟩ := List.mem_iff_getElem.mp hb
      simp only [List.length_take, List.length_drop, Vector.length_toList] at hi
      obtain ⟨_, zero⟩ := run.2 (r.start + i) (by omega) (by omega)
      simpa using zero
  rw [← zeros, ← List.drop_drop, List.take_append_drop, List.take_append_drop]

theorem isOctet_decimal (z : Bool) (n : UInt8) :
    Rfc4291.IsOctet z (Nat.toDigits 10 n.toNat) n where
  ne_nil := Nat.toDigits_ne_nil
  short := (Nat.length_toDigits_le_iff (by decide) (by decide)).mpr (by have := n.toNat_lt; omega)
  decimal := fun _ => Numeral.isDigit_of_mem_decimal
  value := Numeral.value_decimal _
  zeros := by
    by_cases hn : n.toNat = 0
    · rw [hn]
      exact .inr (.inl rfl)
    · exact .inr (.inr (Numeral.head_decimal_ne_zero hn))

theorem isQuad_toString (z : Bool) (v4 : Ipv4Address) :
    Rfc4291.IsQuad z v4.toString v4.octets.toList := by
  have octets : v4.octets.toList =
      [v4.octets[0], v4.octets[1], v4.octets[2], v4.octets[3]] := by
    rw [Ipv4Address.eq_ofOctets v4]
    rfl
  rw [octets, Ipv4Address.toString_eq]
  exact .mk (isOctet_decimal z _) (isOctet_decimal z _) (isOctet_decimal z _) (isOctet_decimal z _)

theorem octets_of_toIpv4Mapped {a : Ipv6Address} {v4 : Ipv4Address}
    (h : a.toIpv4Mapped = some v4) :
    a.octets.toList = List.replicate 10 0 ++ ([0xff, 0xff] ++ v4.octets.toList) := by
  unfold toIpv4Mapped at h
  split_ifs at h with zeros ones
  have zero (i : Fin 10) : a.octets.get (i.castLE (by decide)) = 0 :=
    eq_of_beq (List.all_eq_true.mp zeros i (List.mem_finRange i))
  obtain ⟨o₁₀, o₁₁⟩ := Bool.and_eq_true_iff.mp ones
  have head : a.octets.toList.take 12 = List.replicate 10 0 ++ [0xff, 0xff] := by
    rw [octets_toList]
    simp only [List.take_succ_cons, List.take_zero]
    rw [eq_of_beq o₁₀, eq_of_beq o₁₁]
    rw [show a.octets[0] = 0 from zero 0, show a.octets[1] = 0 from zero 1,
      show a.octets[2] = 0 from zero 2, show a.octets[3] = 0 from zero 3,
      show a.octets[4] = 0 from zero 4, show a.octets[5] = 0 from zero 5,
      show a.octets[6] = 0 from zero 6, show a.octets[7] = 0 from zero 7,
      show a.octets[8] = 0 from zero 8, show a.octets[9] = 0 from zero 9]
    rfl
  rw [← Option.some.inj h, ← List.append_assoc, ← head]
  rw [octets_toList]
  rfl

theorem toIpv4Mapped_fromIpv4Mapped (v4 : Ipv4Address) :
    (fromIpv4Mapped v4).toIpv4Mapped = some v4 := by
  rw [Ipv4Address.eq_ofOctets v4]
  rfl

theorem toString_mapped {a : Ipv6Address} {v4 : Ipv4Address} (h : a.toIpv4Mapped = some v4) :
    toString a = ':' :: ':' :: ("ffff".toList ++ ':' :: v4.toString) := by
  simp only [toString, h]
  rfl

theorem toString_compressed {a : Ipv6Address} (h : a.toIpv4Mapped = none)
    (long : (longestZeros a.segments).length > 1) :
    toString a = joinHex (a.segments.toList.take (longestZeros a.segments).start) ++
      ':' :: ':' :: joinHex (a.segments.toList.drop
        ((longestZeros a.segments).start + (longestZeros a.segments).length)) := by
  have inside := (longestZeros_spec a.segments).run.1
  have rest : ∀ stop, (a.segments.toList.drop stop).take (8 - stop) = a.segments.toList.drop stop :=
    fun stop => List.take_of_length_le (by simp)
  simp only [toString, h, if_pos long]
  rw [writeSubslice_eq _ _ (by omega), writeSubslice_eq _ _ (by omega), rest]
  simp

theorem toString_plain {a : Ipv6Address} (h : a.toIpv4Mapped = none)
    (short : ¬ (longestZeros a.segments).length > 1) :
    toString a = joinHex a.segments.toList := by
  simp only [toString, h, if_neg short]
  rw [writeSubslice_eq _ _ (by omega), List.drop_zero, List.take_of_length_le (by simp)]
  rfl

theorem toString_isText (z : Bool) (a : Ipv6Address) :
    Rfc4291.IsText z (toString a) a.octets.toList := by
  cases h : a.toIpv4Mapped with
  | some v4 =>
    rw [toString_mapped h, octets_of_toIpv4Mapped h]
    have ffff : Rfc4291.IsGroup "ffff".toList 0xff 0xff :=
      ⟨by decide, by decide, List.all_eq_true.mp rfl, by decide⟩
    have right : Rfc4291.Side z true ("ffff".toList ++ ':' :: v4.toString)
        (0xff :: 0xff :: v4.octets.toList) :=
      .inr (.cons ffff (.quad rfl (isQuad_toString z v4)))
    have text := Rfc4291.IsText.compressed (.inl ⟨rfl, rfl⟩) right (by simp)
    simpa using text
  | none =>
    by_cases long : (longestZeros a.segments).length > 1
    · have run := (longestZeros_spec a.segments).run
      have inside := run.1
      have left := side_joinHex z false (a.segments.toList.take (longestZeros a.segments).start)
      have right := side_joinHex z true (a.segments.toList.drop
        ((longestZeros a.segments).start + (longestZeros a.segments).length))
      have len : 2 * (longestZeros a.segments).start + 2 * (8 - ((longestZeros a.segments).start +
          (longestZeros a.segments).length)) ≤ 14 := by omega
      rw [toString_compressed h long, ← flatMap_segments]
      conv => arg 3; rw [segments_split run]
      rw [List.flatMap_append, List.flatMap_append, flatMap_zeros]
      have text := Rfc4291.IsText.compressed left right
      simp only [length_flatMap_segmentOctets, List.length_take, List.length_drop,
        Vector.length_toList] at text
      convert text (by omega) using 4
      omega
    · rw [toString_plain h long, ← flatMap_segments]
      have len : a.segments.toList.length = 8 := Vector.length_toList
      refine .full (pieces_joinHex z true ?_) ?_
      · exact List.ne_nil_of_length_pos (by omega)
      · rw [length_flatMap_segmentOctets, len]

theorem cString_eq_self {s : Text} (h : '\x00' ∉ s) : cString s = s := by
  refine List.takeWhile_eq_self_iff.mpr fun c hc => ?_
  have : c ≠ '\x00' := fun same => h (same ▸ hc)
  simpa using this

theorem nul_not_mem {z : Bool} {s : Text} {o : List UInt8} (h : Rfc4291.IsText z s o) :
    '\x00' ∉ s :=
  h.not_mem (by decide) (by decide) (by decide)

theorem cString_append {s : Text} (h : '\x00' ∉ s) (t : Text) :
    cString (s ++ t) = s ++ cString t := by
  refine List.takeWhile_append_of_pos fun c hc => ?_
  have : c ≠ '\x00' := fun same => h (same ▸ hc)
  simpa using this

theorem cString_append_of_mem {s : Text} (h : '\x00' ∈ s) (t : Text) :
    cString (s ++ t) = cString s := by
  obtain ⟨pre, post, rfl, clean⟩ := List.eq_append_cons_of_mem h
  have stop (rest : Text) : cString (pre ++ '\x00' :: rest) = pre := by
    rw [cString_append clean]
    simp [cString]
  rw [List.append_assoc, List.cons_append, stop, stop]

section
variable {z : Bool} {pton : InetPton} (reads : ReadsRfc4291 z pton)
include reads

theorem parse_eq_ok_iff {s : Text} {a : Ipv6Address} :
    parse pton s = .ok a ↔ Rfc4291.IsText z (cString s) a.octets.toList := by
  rw [← reads (cString s) a.octets, parse]
  cases pton (cString s) with
  | none => simp
  | some o =>
    rw [Except.ok.injEq, Option.some.injEq]
    exact ⟨fun h => h ▸ rfl, fun h => h ▸ rfl⟩

theorem pton_toString (a : Ipv6Address) : pton (toString a) = some a.octets :=
  (reads _ _).mpr (toString_isText z a)

theorem parse_toString (a : Ipv6Address) : parse pton (toString a) = .ok a := by
  have text := toString_isText z a
  rw [parse_eq_ok_iff reads, cString_eq_self (nul_not_mem text)]
  exact text

theorem isText_of_parse {s : Text} {a : Ipv6Address} (h : parse pton s = .ok a)
    (whole : '\x00' ∉ s) : Rfc4291.IsText z s a.octets.toList := by
  rw [parse_eq_ok_iff reads, cString_eq_self whole] at h
  exact h

end

theorem joinHex_chars {l : List UInt16} {c : Char} (h : c ∈ joinHex l) :
    Numeral.isHexDigit c = true ∨ c = ':' := by
  induction l with
  | nil => cases h
  | cons g l ih =>
    cases l with
    | nil =>
      rw [joinHex, List.map_singleton, List.intercalate_singleton] at h
      exact .inl (Numeral.isHexDigit_of_mem_hexadecimal h)
    | cons g' l =>
      rw [joinHex, List.map_cons, List.map_cons, List.intercalate_cons_cons, List.append_assoc,
        List.mem_append] at h
      rcases h with h | h
      · exact .inl (Numeral.isHexDigit_of_mem_hexadecimal h)
      · rcases List.mem_append.mp h with h | h
        · exact .inr (List.mem_singleton.mp h)
        · exact ih h

theorem dot_not_mem_joinHex (l : List UInt16) : '.' ∉ joinHex l := by
  intro h
  rcases joinHex_chars h with hex | colon
  · exact absurd hex (by decide)
  · cases colon

theorem toString_begins_or_no_dot (a : Ipv6Address) :
    (∃ rest, toString a = ':' :: rest) ∨ '.' ∉ toString a := by
  cases h : a.toIpv4Mapped with
  | some v4 => exact .inl ⟨_, toString_mapped h⟩
  | none =>
    by_cases long : (longestZeros a.segments).length > 1
    · rw [toString_compressed h long]
      refine .inr fun hc => ?_
      rcases List.mem_append.mp hc with hc | hc
      · exact dot_not_mem_joinHex _ hc
      · simp [dot_not_mem_joinHex] at hc
    · rw [toString_plain h long]
      exact .inr (dot_not_mem_joinHex _)

theorem ipv4_parse_toString_ne_ok (a : Ipv6Address) (v4 : Ipv4Address) :
    Ipv4Address.parse (toString a) ≠ .ok v4 := by
  intro accepted
  rcases toString_begins_or_no_dot a with ⟨rest, colon⟩ | nodot
  · obtain ⟨c, rest', head, digit⟩ := Ipv4Address.head_of_parse accepted
    rw [colon] at head
    obtain ⟨rfl, -⟩ := List.cons.inj head
    cases digit
  · exact nodot (Ipv4Address.dot_mem_of_parse accepted)

theorem ipv4_parse_toString_eq_error (a : Ipv6Address) :
    ∃ e, Ipv4Address.parse (toString a) = .error e := by
  cases h : Ipv4Address.parse (toString a) with
  | ok v4 => exact absurd h (ipv4_parse_toString_ne_ok a v4)
  | error e => exact ⟨e, rfl⟩

end Ipv6Address
end Qsox
