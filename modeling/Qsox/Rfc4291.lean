import Mathlib.Data.List.Basic
import Qsox.Numeral

/-! The textual form of IPv6 addresses, RFC 4291 section 2.2, as a grammar over
character lists with the sixteen octets a text stands for, and a reader that
accepts exactly this grammar. The RFC does not say whether an octet of a
trailing dotted quad may carry leading zeros; both readings are covered by `z`. -/

namespace Qsox.Rfc4291

open Numeral

/-- One to four hexadecimal digits and the two octets of their value. -/
structure IsGroup (s : List Char) (hi lo : UInt8) : Prop where
  ne_nil : s ≠ []
  short : s.length ≤ 4
  hex : ∀ c ∈ s, isHexDigit c = true
  value : hexValue s = 256 * hi.toNat + lo.toNat

/-- One to three decimal digits of value at most 255. -/
structure IsOctet (z : Bool) (s : List Char) (n : UInt8) : Prop where
  ne_nil : s ≠ []
  short : s.length ≤ 3
  decimal : ∀ c ∈ s, c.isDigit = true
  value : value s = n.toNat
  zeros : z = true ∨ s.length = 1 ∨ s.head? ≠ some '0'

inductive IsQuad (z : Bool) : List Char → List UInt8 → Prop
  | mk {s₀ s₁ s₂ s₃ : List Char} {a b c d : UInt8} (h₀ : IsOctet z s₀ a) (h₁ : IsOctet z s₁ b)
      (h₂ : IsOctet z s₂ c) (h₃ : IsOctet z s₃ d) :
      IsQuad z (s₀ ++ '.' :: (s₁ ++ '.' :: (s₂ ++ '.' :: s₃))) [a, b, c, d]

/-- Groups joined by single colons; with `q` the last may be a dotted quad. -/
inductive Pieces (z q : Bool) : List Char → List UInt8 → Prop
  | group {s : List Char} {hi lo : UInt8} (h : IsGroup s hi lo) : Pieces z q s [hi, lo]
  | quad {s : List Char} {o : List UInt8} (allowed : q = true) (h : IsQuad z s o) : Pieces z q s o
  | cons {s t : List Char} {hi lo : UInt8} {o : List UInt8} (h : IsGroup s hi lo)
      (tail : Pieces z q t o) : Pieces z q (s ++ ':' :: t) (hi :: lo :: o)

def Side (z q : Bool) (s : List Char) (o : List UInt8) : Prop :=
  (s = [] ∧ o = []) ∨ Pieces z q s o

/-- `::` stands for at least one group of zeros. -/
inductive IsText (z : Bool) : List Char → List UInt8 → Prop
  | full {s : List Char} {o : List UInt8} (h : Pieces z true s o) (len : o.length = 16) :
      IsText z s o
  | compressed {l r : List Char} {a b : List UInt8} (left : Side z false l a)
      (right : Side z true r b) (len : a.length + b.length ≤ 14) :
      IsText z (l ++ ':' :: ':' :: r)
        (a ++ (List.replicate (16 - (a.length + b.length)) 0 ++ b))

def readGroup (s : List Char) : Option (List UInt8) :=
  if s ≠ [] ∧ s.length ≤ 4 ∧ s.all isHexDigit then
    some [UInt8.ofNat (hexValue s / 256), UInt8.ofNat (hexValue s % 256)]
  else none

def readOctet (z : Bool) (s : List Char) : Option UInt8 :=
  if s ≠ [] ∧ s.length ≤ 3 ∧ s.all Char.isDigit ∧ value s ≤ 255 ∧
      (z = true ∨ s.length = 1 ∨ s.head? ≠ some '0') then
    some (UInt8.ofNat (value s))
  else none

def readQuad (z : Bool) (s : List Char) : Option (List UInt8) :=
  match s.splitOn '.' with
  | [s₀, s₁, s₂, s₃] =>
    match readOctet z s₀, readOctet z s₁, readOctet z s₂, readOctet z s₃ with
    | some a, some b, some c, some d => some [a, b, c, d]
    | _, _, _, _ => none
  | _ => none

def readPieces (z q : Bool) : List (List Char) → Option (List UInt8)
  | [] => none
  | [s] => readGroup s <|> if q then readQuad z s else none
  | s :: t :: rest =>
    match readGroup s, readPieces z q (t :: rest) with
    | some g, some o => some (g ++ o)
    | _, _ => none

def readSide (z q : Bool) (s : List Char) : Option (List UInt8) :=
  if s = [] then some [] else readPieces z q (s.splitOn ':')

def cutDouble : List Char → Option (List Char × List Char)
  | [] => none
  | [_] => none
  | c :: d :: s =>
    if c = ':' ∧ d = ':' then some ([], s)
    else (cutDouble (d :: s)).map fun p => (c :: p.1, p.2)

def read (z : Bool) (s : List Char) : Option (List UInt8) :=
  match cutDouble s with
  | none => (readPieces z true (s.splitOn ':')).filter fun o => o.length = 16
  | some (l, r) =>
    match readSide z false l, readSide z true r with
    | some a, some b =>
      if a.length + b.length ≤ 14 then
        some (a ++ (List.replicate (16 - (a.length + b.length)) 0 ++ b))
      else none
    | _, _ => none

example : read false "64:ff9b::192.0.2.33".toList =
    some [0, 0x64, 0xff, 0x9b, 0, 0, 0, 0, 0, 0, 0, 0, 192, 0, 2, 33] := by decide

theorem readGroup_eq_some_iff {s : List Char} {o : List UInt8} :
    readGroup s = some o ↔ ∃ hi lo, o = [hi, lo] ∧ IsGroup s hi lo := by
  unfold readGroup
  constructor
  · intro h
    split_ifs at h with hs
    obtain ⟨ne_nil, short, hex⟩ := hs
    have hex : ∀ c ∈ s, isHexDigit c = true := List.all_eq_true.mp hex
    have bound : hexValue s < 16 ^ 4 :=
      (hexValue_lt hex).trans_le (Nat.pow_le_pow_right (by decide) short)
    refine ⟨_, _, (Option.some.inj h).symm, ne_nil, short, hex, ?_⟩
    rw [UInt8.toNat_ofNat_of_lt' (by change _ < 256; omega),
      UInt8.toNat_ofNat_of_lt' (by change _ < 256; omega)]
    omega
  · rintro ⟨hi, lo, rfl, ne_nil, short, hex, val⟩
    have hlo := lo.toNat_lt
    rw [if_pos ⟨ne_nil, short, List.all_eq_true.mpr hex⟩, val,
      show (256 * hi.toNat + lo.toNat) / 256 = hi.toNat by omega,
      show (256 * hi.toNat + lo.toNat) % 256 = lo.toNat by omega,
      UInt8.ofNat_toNat, UInt8.ofNat_toNat]

theorem readOctet_eq_some_iff {z : Bool} {s : List Char} {n : UInt8} :
    readOctet z s = some n ↔ IsOctet z s n := by
  unfold readOctet
  constructor
  · intro h
    split_ifs at h with hs
    obtain ⟨ne_nil, short, decimal, small, zeros⟩ := hs
    refine ⟨ne_nil, short, List.all_eq_true.mp decimal, ?_, zeros⟩
    rw [← Option.some.inj h, UInt8.toNat_ofNat_of_lt' (Nat.lt_succ_of_le small)]
  · rintro ⟨ne_nil, short, decimal, val, zeros⟩
    have hn := n.toNat_lt
    rw [if_pos ⟨ne_nil, short, List.all_eq_true.mpr decimal, by omega, zeros⟩, val,
      UInt8.ofNat_toNat]

theorem IsOctet.dot_not_mem {z : Bool} {s : List Char} {n : UInt8} (h : IsOctet z s n) :
    '.' ∉ s :=
  fun hd => absurd (h.decimal _ hd) (by decide)

theorem splitOn_quad {s₀ s₁ s₂ s₃ : List Char} (h₀ : '.' ∉ s₀) (h₁ : '.' ∉ s₁) (h₂ : '.' ∉ s₂)
    (h₃ : '.' ∉ s₃) :
    (s₀ ++ '.' :: (s₁ ++ '.' :: (s₂ ++ '.' :: s₃))).splitOn '.' = [s₀, s₁, s₂, s₃] := by
  rw [List.splitOn_append_cons_self_of_not_mem h₀, List.splitOn_append_cons_self_of_not_mem h₁,
    List.splitOn_append_cons_self_of_not_mem h₂, List.splitOn_eq_singleton h₃]

theorem readQuad_eq_some_iff {z : Bool} {s : List Char} {o : List UInt8} :
    readQuad z s = some o ↔ IsQuad z s o := by
  constructor
  · intro h
    unfold readQuad at h
    split at h
    · rename_i s₀ s₁ s₂ s₃ fields
      split at h
      · rename_i a b c d h₀ h₁ h₂ h₃
        have joined : ['.'].intercalate (s.splitOn '.') = s := List.intercalate_splitOn '.'
        rw [fields] at joined
        rw [← joined, ← Option.some.inj h]
        simpa using IsQuad.mk (readOctet_eq_some_iff.mp h₀) (readOctet_eq_some_iff.mp h₁)
          (readOctet_eq_some_iff.mp h₂) (readOctet_eq_some_iff.mp h₃)
      · cases h
    · cases h
  · rintro ⟨h₀, h₁, h₂, h₃⟩
    simp only [readQuad, splitOn_quad h₀.dot_not_mem h₁.dot_not_mem h₂.dot_not_mem h₃.dot_not_mem,
      readOctet_eq_some_iff.mpr h₀, readOctet_eq_some_iff.mpr h₁, readOctet_eq_some_iff.mpr h₂,
      readOctet_eq_some_iff.mpr h₃]

theorem IsGroup.colon_not_mem {s : List Char} {hi lo : UInt8} (h : IsGroup s hi lo) : ':' ∉ s :=
  fun hc => absurd (h.hex _ hc) (by decide)

theorem IsOctet.colon_not_mem {z : Bool} {s : List Char} {n : UInt8} (h : IsOctet z s n) :
    ':' ∉ s :=
  fun hc => absurd (h.decimal _ hc) (by decide)

theorem IsQuad.colon_not_mem {z : Bool} {s : List Char} {o : List UInt8} (h : IsQuad z s o) :
    ':' ∉ s := by
  obtain ⟨h₀, h₁, h₂, h₃⟩ := h
  simp [h₀.colon_not_mem, h₁.colon_not_mem, h₂.colon_not_mem, h₃.colon_not_mem]

theorem IsQuad.ne_nil {z : Bool} {s : List Char} {o : List UInt8} (h : IsQuad z s o) : s ≠ [] := by
  obtain ⟨h₀, h₁, h₂, h₃⟩ := h
  simp

theorem Pieces.ne_nil {z q : Bool} {s : List Char} {o : List UInt8} (h : Pieces z q s o) :
    s ≠ [] := by
  cases h with
  | group h => exact h.ne_nil
  | quad _ h => exact h.ne_nil
  | cons h _ => simp

theorem head_ne_colon_of_not_mem {w : List Char} (ne_nil : w ≠ []) (h : ':' ∉ w) (t : List Char) :
    ∃ c rest, w ++ t = c :: rest ∧ c ≠ ':' := by
  cases w with
  | nil => exact absurd rfl ne_nil
  | cons c w => exact ⟨c, w ++ t, rfl, fun hc => h (by simp [hc])⟩

theorem Pieces.head {z q : Bool} {s : List Char} {o : List UInt8} (h : Pieces z q s o) :
    ∃ c rest, s = c :: rest ∧ c ≠ ':' := by
  cases h with
  | group h => simpa using head_ne_colon_of_not_mem h.ne_nil h.colon_not_mem []
  | quad _ h => simpa using head_ne_colon_of_not_mem h.ne_nil h.colon_not_mem []
  | cons h _ => exact head_ne_colon_of_not_mem h.ne_nil h.colon_not_mem _

theorem cutDouble_word {w : List Char} (h : ':' ∉ w) (t : List Char) :
    cutDouble (w ++ t) = (cutDouble t).map fun p => (w ++ p.1, p.2) := by
  induction w with
  | nil => simp
  | cons c w ih =>
    obtain ⟨hc, hw⟩ := List.ne_and_not_mem_of_not_mem_cons h
    have step : ∀ s, cutDouble (c :: s) = (cutDouble s).map fun p => (c :: p.1, p.2) := by
      intro s
      cases s with
      | nil => rfl
      | cons d s => rw [cutDouble, if_neg fun both => hc both.1.symm]
    rw [List.cons_append, step, ih hw, Option.map_map]
    rfl

theorem cutDouble_colon {c : Char} (hc : c ≠ ':') (t : List Char) :
    cutDouble (':' :: c :: t) = (cutDouble (c :: t)).map fun p => (':' :: p.1, p.2) := by
  rw [cutDouble, if_neg fun both => hc both.2]

theorem Pieces.cutDouble_append {z q : Bool} {s : List Char} {o : List UInt8}
    (h : Pieces z q s o) (t : List Char) :
    cutDouble (s ++ t) = (cutDouble t).map fun p => (s ++ p.1, p.2) := by
  induction h with
  | group h => exact cutDouble_word h.colon_not_mem t
  | quad _ h => exact cutDouble_word h.colon_not_mem t
  | @cons s u hi lo o h tail ih =>
    obtain ⟨c, rest, rfl, hc⟩ := tail.head
    rw [List.append_assoc, cutDouble_word h.colon_not_mem, List.cons_append, List.cons_append,
      cutDouble_colon hc, ← List.cons_append, ih, Option.map_map, Option.map_map]
    simp [Function.comp_def]

theorem Pieces.cutDouble_eq_none {z q : Bool} {s : List Char} {o : List UInt8}
    (h : Pieces z q s o) : cutDouble s = none := by
  simpa [cutDouble] using h.cutDouble_append []

theorem Side.cutDouble_append {z q : Bool} {l r : List Char} {o : List UInt8}
    (h : Side z q l o) : cutDouble (l ++ ':' :: ':' :: r) = some (l, r) := by
  rcases h with ⟨rfl, -⟩ | h
  · rfl
  · rw [h.cutDouble_append]
    simp [cutDouble]

theorem cutDouble_sound {s l r : List Char} (h : cutDouble s = some (l, r)) :
    s = l ++ ':' :: ':' :: r := by
  fun_induction cutDouble s generalizing l with
  | case1 => cases h
  | case2 => cases h
  | case3 c d s both =>
    obtain ⟨rfl, rfl⟩ := Prod.mk.inj (Option.some.inj h)
    rw [both.1, both.2]
    rfl
  | case4 c d s _ ih =>
    obtain ⟨⟨l', r'⟩, cut, same⟩ := Option.map_eq_some_iff.mp h
    obtain ⟨rfl, rfl⟩ := Prod.mk.inj same
    rw [ih cut]
    rfl

theorem readPieces_sound {z q : Bool} {fields : List (List Char)} {o : List UInt8}
    (h : readPieces z q fields = some o) : Pieces z q ([':'].intercalate fields) o := by
  fun_induction readPieces z q fields generalizing o with
  | case1 => cases h
  | case2 s =>
    rw [List.intercalate_singleton]
    cases hg : readGroup s with
    | some g =>
      rw [hg] at h
      obtain ⟨hi, lo, rfl, group⟩ := readGroup_eq_some_iff.mp hg
      cases h
      exact .group group
    | none =>
      rw [hg] at h
      cases q with
      | false => cases h
      | true => exact .quad rfl (readQuad_eq_some_iff.mp h)
  | case3 s t rest g o' ho hg ih =>
    obtain ⟨hi, lo, rfl, group⟩ := readGroup_eq_some_iff.mp hg
    cases h
    rw [List.intercalate_cons_cons, List.append_assoc]
    exact .cons group (ih ho)
  | case4 => cases h

theorem IsQuad.readGroup_eq_none {z : Bool} {s : List Char} {o : List UInt8}
    (h : IsQuad z s o) : readGroup s = none := by
  cases hg : readGroup s with
  | none => rfl
  | some g =>
    obtain ⟨hi, lo, rfl, group⟩ := readGroup_eq_some_iff.mp hg
    obtain ⟨h₀, h₁, h₂, h₃⟩ := h
    exact absurd (group.hex '.' (by simp)) (by decide)

theorem readPieces_complete {z q : Bool} {s : List Char} {o : List UInt8} (h : Pieces z q s o) :
    readPieces z q (s.splitOn ':') = some o := by
  induction h with
  | @group s hi lo h =>
    rw [List.splitOn_eq_singleton h.colon_not_mem, readPieces,
      readGroup_eq_some_iff.mpr ⟨hi, lo, rfl, h⟩]
    rfl
  | quad allowed h =>
    rw [List.splitOn_eq_singleton h.colon_not_mem, readPieces, h.readGroup_eq_none, allowed,
      if_pos rfl, readQuad_eq_some_iff.mpr h]
    rfl
  | @cons s t hi lo o h tail ih =>
    rw [List.splitOn_append_cons_self_of_not_mem h.colon_not_mem]
    obtain ⟨f, rest, fields⟩ := List.exists_cons_of_ne_nil (List.splitOn_ne_nil ':' t)
    rw [fields] at ih ⊢
    simp only [readPieces, readGroup_eq_some_iff.mpr ⟨hi, lo, rfl, h⟩, ih]
    rfl

theorem readPieces_eq_some_iff {z q : Bool} {s : List Char} {o : List UInt8} :
    readPieces z q (s.splitOn ':') = some o ↔ Pieces z q s o := by
  refine ⟨fun h => ?_, readPieces_complete⟩
  simpa using readPieces_sound h

theorem readSide_eq_some_iff {z q : Bool} {s : List Char} {o : List UInt8} :
    readSide z q s = some o ↔ Side z q s o := by
  unfold readSide Side
  split_ifs with hs
  · subst hs
    constructor
    · exact fun h => .inl ⟨rfl, (Option.some.inj h).symm⟩
    · rintro (⟨-, rfl⟩ | h)
      · rfl
      · exact absurd rfl h.ne_nil
  · simp [hs, readPieces_eq_some_iff]

theorem read_eq_some_iff {z : Bool} {s : List Char} {o : List UInt8} :
    read z s = some o ↔ IsText z s o := by
  constructor
  · intro h
    unfold read at h
    split at h
    · obtain ⟨pieces, len⟩ := Option.filter_eq_some_iff.mp h
      exact .full (readPieces_eq_some_iff.mp pieces) (by simpa using len)
    · rename_i l r cut
      split at h
      · rename_i a b left right
        split_ifs at h with len
        rw [cutDouble_sound cut, ← Option.some.inj h]
        exact .compressed (readSide_eq_some_iff.mp left) (readSide_eq_some_iff.mp right) len
      · cases h
  · rintro (⟨pieces, len⟩ | ⟨left, right, len⟩)
    · simp [read, pieces.cutDouble_eq_none, readPieces_eq_some_iff.mpr pieces, len]
    · simp only [read, left.cutDouble_append, readSide_eq_some_iff.mpr left,
        readSide_eq_some_iff.mpr right, if_pos len]

theorem IsText.unique {z : Bool} {s : List Char} {o o' : List UInt8} (h : IsText z s o)
    (h' : IsText z s o') : o = o' :=
  Option.some.inj ((read_eq_some_iff.mpr h).symm.trans (read_eq_some_iff.mpr h'))

def IsTextChar (c : Char) : Prop := isHexDigit c = true ∨ c = ':' ∨ c = '.'

theorem IsQuad.chars {z : Bool} {s : List Char} {o : List UInt8} (h : IsQuad z s o) {c : Char}
    (hc : c ∈ s) : IsTextChar c := by
  obtain ⟨h₀, h₁, h₂, h₃⟩ := h
  simp only [List.mem_append, List.mem_cons] at hc
  rcases hc with hc | rfl | hc | rfl | hc | rfl | hc
  · exact .inl (isHexDigit_of_isDigit (h₀.decimal c hc))
  · exact .inr (.inr rfl)
  · exact .inl (isHexDigit_of_isDigit (h₁.decimal c hc))
  · exact .inr (.inr rfl)
  · exact .inl (isHexDigit_of_isDigit (h₂.decimal c hc))
  · exact .inr (.inr rfl)
  · exact .inl (isHexDigit_of_isDigit (h₃.decimal c hc))

theorem Pieces.chars {z q : Bool} {s : List Char} {o : List UInt8} (h : Pieces z q s o) {c : Char}
    (hc : c ∈ s) : IsTextChar c := by
  induction h with
  | group h => exact .inl (h.hex c hc)
  | quad _ h => exact h.chars hc
  | cons h _ ih =>
    rcases List.mem_append.mp hc with hc | hc
    · exact .inl (h.hex c hc)
    · rcases List.mem_cons.mp hc with rfl | hc
      · exact .inr (.inl rfl)
      · exact ih hc

theorem Side.chars {z q : Bool} {s : List Char} {o : List UInt8} (h : Side z q s o) {c : Char}
    (hc : c ∈ s) : IsTextChar c := by
  rcases h with ⟨rfl, -⟩ | h
  · cases hc
  · exact h.chars hc

theorem IsText.chars {z : Bool} {s : List Char} {o : List UInt8} (h : IsText z s o) {c : Char}
    (hc : c ∈ s) : IsTextChar c := by
  cases h with
  | full pieces _ => exact pieces.chars hc
  | compressed left right _ =>
    simp only [List.mem_append, List.mem_cons] at hc
    rcases hc with hc | rfl | rfl | hc
    · exact left.chars hc
    · exact .inr (.inl rfl)
    · exact .inr (.inl rfl)
    · exact right.chars hc

theorem IsText.not_mem {z : Bool} {s : List Char} {o : List UInt8} (h : IsText z s o) {c : Char}
    (digit : isHexDigit c = false) (colon : c ≠ ':') (dot : c ≠ '.') : c ∉ s := by
  intro hc
  rcases h.chars hc with hex | same | same
  · rw [digit] at hex
    cases hex
  · exact colon same
  · exact dot same

theorem IsText.ne_nil {z : Bool} {s : List Char} {o : List UInt8} (h : IsText z s o) : s ≠ [] := by
  cases h with
  | full pieces _ => exact pieces.ne_nil
  | compressed _ _ _ => simp

theorem IsGroup.dot_not_mem {s : List Char} {hi lo : UInt8} (h : IsGroup s hi lo) : '.' ∉ s :=
  fun hc => absurd (h.hex _ hc) (by decide)

theorem Pieces.quad_of_dot {z q : Bool} {s : List Char} {o : List UInt8} (h : Pieces z q s o)
    (dot : '.' ∈ s) : q = true ∧ ∃ p t v, s = p ++ t ∧ '.' ∉ p ∧ IsQuad z t v := by
  induction h with
  | group h => exact absurd dot h.dot_not_mem
  | quad allowed h => exact ⟨allowed, [], _, _, rfl, by simp, h⟩
  | @cons s t hi lo o h tail ih =>
    rcases List.mem_append.mp dot with dot | dot
    · exact absurd dot h.dot_not_mem
    · rcases List.mem_cons.mp dot with same | dot
      · cases same
      · obtain ⟨allowed, p, u, v, rfl, clean, quad⟩ := ih dot
        refine ⟨allowed, s ++ ':' :: p, u, v, by simp, ?_, quad⟩
        simp [h.dot_not_mem, clean]

theorem Side.quad_of_dot {z q : Bool} {s : List Char} {o : List UInt8} (h : Side z q s o)
    (dot : '.' ∈ s) : q = true ∧ ∃ p t v, s = p ++ t ∧ '.' ∉ p ∧ IsQuad z t v := by
  rcases h with ⟨rfl, -⟩ | h
  · cases dot
  · exact h.quad_of_dot dot

theorem IsText.quad_of_dot {z : Bool} {s : List Char} {o : List UInt8} (h : IsText z s o)
    (dot : '.' ∈ s) : ∃ p t v, s = p ++ t ∧ '.' ∉ p ∧ IsQuad z t v := by
  cases h with
  | full pieces _ => exact (pieces.quad_of_dot dot).2
  | @compressed l r a b left right _ =>
    have noleft : '.' ∉ l := fun hl => absurd (left.quad_of_dot hl).1 (by decide)
    have inright : '.' ∈ r := by simpa [noleft] using dot
    obtain ⟨-, p, t, v, rfl, clean, quad⟩ := right.quad_of_dot inright
    refine ⟨l ++ ':' :: ':' :: p, t, v, by simp, ?_, quad⟩
    simp [noleft, clean]

theorem IsText.length {z : Bool} {s : List Char} {o : List UInt8} (h : IsText z s o) :
    o.length = 16 := by
  cases h with
  | full _ len => exact len
  | compressed _ _ len =>
    simp only [List.length_append, List.length_replicate]
    omega

end Qsox.Rfc4291
