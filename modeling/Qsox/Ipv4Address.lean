import Mathlib.Data.List.FinRange
import Qsox.Control
import Qsox.StringView

/-! `Ipv4Address`: four octets, their dotted-quad printer and the four-round
parser. `parse` reads each field as a digit prefix and does not look at what
follows the digits, so the exact language it accepts is stated next to the
dotted-quad language. -/

namespace Qsox

open StringView

structure Ipv4Address where
  octets : Vector UInt8 4
  deriving DecidableEq, Repr

inductive Ipv4ParseError
  | missingOctets
  | trailingData
  | invalidOctet
  deriving DecidableEq, Repr

namespace Ipv4Address

def ofOctets (a b c d : UInt8) : Ipv4Address := ⟨#v[a, b, c, d]⟩

def unspecified : Ipv4Address := ofOctets 0 0 0 0

def localhost : Ipv4Address := ofOctets 127 0 0 1

def broadcast : Ipv4Address := ofOctets 255 255 255 255

def toBits (a : Ipv4Address) : UInt32 :=
  ((a.octets.get 0).toUInt32 <<< 24) ||| ((a.octets.get 1).toUInt32 <<< 16) |||
    ((a.octets.get 2).toUInt32 <<< 8) ||| (a.octets.get 3).toUInt32

def isUnspecified (a : Ipv4Address) : Bool := a.octets == #v[0, 0, 0, 0]

def isLocalhost (a : Ipv4Address) : Bool := a.octets.get 0 == 127

def isPrivate (a : Ipv4Address) : Bool :=
  let first := a.octets.get 0
  let second := a.octets.get 1
  first == 10 || (first == 172 && second ≥ 16 && second ≤ 31) || (first == 192 && second == 168)

def isBroadcast (a : Ipv4Address) : Bool := a.octets == broadcast.octets

theorem eq_ofOctets (a : Ipv4Address) :
    a = ofOctets a.octets[0] a.octets[1] a.octets[2] a.octets[3] := by
  cases a with
  | mk octets =>
    rw [ofOctets, mk.injEq]
    ext i hi
    match i, hi with
    | 0, _ | 1, _ | 2, _ | 3, _ => rfl

/-- Where the octet of round `i` ends: at the next dot, or at the end of the
text, which only the last round allows. -/
def octetEnd (str : Text) (i : Fin 4) : Except Ipv4ParseError ℕ :=
  match find '.' str with
  | some nextDot => .ok nextDot
  | none => if i.val < 3 then .error .missingOctets else .ok str.length

/-- One round of the loop in `parse`; the state is the address under
construction and the view that is left. -/
def parseOctet (st : Ipv4Address × Text) (i : Fin 4) :
    Except Ipv4ParseError (Ipv4Address × Text) :=
  octetEnd st.2 i >>= fun nextDot =>
    match fromChars 8 (st.2.take nextDot) with
    | .error _ => .error .invalidOctet
    | .ok result =>
      -- `result.ptr` is not compared with the end of the field
      .ok (⟨st.1.octets.set i (UInt8.ofNat result.value) i.isLt⟩,
        st.2.drop (if i.val < 3 then nextDot + 1 else nextDot))

def parse (str : Text) : Except Ipv4ParseError Ipv4Address :=
  (List.finRange 4).foldlM parseOctet (unspecified, str) >>= fun st =>
    if st.2.isEmpty then .ok st.1 else .error .trailingData

def toString (a : Ipv4Address) : Text :=
  (List.finRange 4).foldl (fun str i =>
    str ++ Nat.toDigits 10 (a.octets.get i).toNat ++ if i.val < 3 then ['.'] else []) []

def dotted (f₀ f₁ f₂ f₃ : Text) : Text := f₀ ++ '.' :: (f₁ ++ '.' :: (f₂ ++ '.' :: f₃))

/-- The octet a field begins with: its leading run of digits, if that is a
number of at most 255. -/
def leadingOctet (f : Text) : Option UInt8 :=
  match fromChars 8 f with
  | .error _ => none
  | .ok result => some (UInt8.ofNat result.value)

theorem leadingOctet_eq_some_iff {f : Text} {n : UInt8} :
    leadingOctet f = some n ↔
      Numeral.digits f ≠ [] ∧ Numeral.value (Numeral.digits f) = n.toNat := by
  have small := n.toNat_lt
  unfold leadingOctet
  split
  · rename_i e he
    refine ⟨nofun, fun ⟨hne, hval⟩ => ?_⟩
    have read : fromChars 8 f = .ok _ := fromChars_eq_ok_iff.mpr ⟨hne, by omega, rfl⟩
    rw [he] at read
    cases read
  · rename_i r hr
    obtain ⟨hne, hlt, rfl⟩ := fromChars_eq_ok_iff.mp hr
    rw [Option.some.injEq, ← UInt8.toNat_inj, UInt8.toNat_ofNat_of_lt' hlt]
    exact ⟨fun h => ⟨hne, h⟩, fun h => h.2⟩

@[simp] theorem leadingOctet_decimal (n : UInt8) :
    leadingOctet (Nat.toDigits 10 n.toNat) = some n := by
  rw [leadingOctet_eq_some_iff, Numeral.digits_decimal, Numeral.value_decimal]
  exact ⟨Nat.toDigits_ne_nil, rfl⟩

theorem dot_not_mem_decimal (n : ℕ) : '.' ∉ Nat.toDigits 10 n :=
  Numeral.not_mem_decimal (by decide) n

theorem parseOctet_dot {f t : Text} (hf : '.' ∉ f) (a : Ipv4Address) (i : Fin 4) :
    parseOctet (a, f ++ '.' :: t) i =
      match leadingOctet f with
      | none => .error .invalidOctet
      | some n => .ok (⟨a.octets.set i n i.isLt⟩, if i.val < 3 then t else '.' :: t) := by
  have drop : (f ++ '.' :: t).drop (if i.val < 3 then f.length + 1 else f.length) =
      if i.val < 3 then t else '.' :: t := by
    split_ifs <;> simp
  simp only [parseOctet, octetEnd, find_append_cons hf, Control.ok_bind, List.take_left,
    leadingOctet, drop]
  cases fromChars 8 f <;> rfl

theorem parseOctet_last {f : Text} (hf : '.' ∉ f) (a : Ipv4Address) (i : Fin 4) :
    parseOctet (a, f) i =
      if i.val < 3 then .error .missingOctets else
      match leadingOctet f with
      | none => .error .invalidOctet
      | some n => .ok (⟨a.octets.set i n i.isLt⟩, []) := by
  simp only [parseOctet, octetEnd, find_eq_none_iff.mpr hf, leadingOctet]
  split_ifs with h
  · rfl
  · simp only [Control.ok_bind, List.take_length, List.drop_length]
    cases fromChars 8 f <;> rfl

theorem parseOctet_eq_ok_iff {a b : Ipv4Address} {str t : Text} {i : Fin 4} (hi : i.val < 3) :
    parseOctet (a, str) i = .ok (b, t) ↔
      ∃ f n, str = f ++ '.' :: t ∧ '.' ∉ f ∧ leadingOctet f = some n ∧
        b = ⟨a.octets.set i n i.isLt⟩ := by
  constructor
  · intro h
    rcases first_cut '.' str with hno | ⟨f, t', rfl, hf⟩
    · rw [parseOctet_last hno, if_pos hi] at h
      cases h
    · rw [parseOctet_dot hf] at h
      split at h
      · cases h
      · rename_i n hn
        rw [if_pos hi] at h
        obtain ⟨rfl, rfl⟩ := Prod.mk.inj (Except.ok.inj h)
        exact ⟨f, n, rfl, hf, hn, rfl⟩
  · rintro ⟨f, n, rfl, hf, hn, rfl⟩
    simp only [parseOctet_dot hf, hn, if_pos hi]

theorem parseOctet_three_eq_ok_nil_iff {a b : Ipv4Address} {str : Text} :
    parseOctet (a, str) 3 = .ok (b, []) ↔
      '.' ∉ str ∧ ∃ n, leadingOctet str = some n ∧ b = ⟨a.octets.set 3 n⟩ := by
  constructor
  · intro h
    rcases first_cut '.' str with hno | ⟨f, t, rfl, hf⟩
    · rw [parseOctet_last hno, if_neg (by decide)] at h
      split at h
      · cases h
      · rename_i n hn
        obtain ⟨rfl, -⟩ := Prod.mk.inj (Except.ok.inj h)
        exact ⟨hno, n, hn, rfl⟩
    · rw [parseOctet_dot hf] at h
      split at h
      · cases h
      · exact absurd (Prod.mk.inj (Except.ok.inj h)).2 (by simp)
  · rintro ⟨hno, n, hn, rfl⟩
    rw [parseOctet_last hno, if_neg (by decide), hn]
    rfl

theorem parse_eq_ok_iff_rounds {str : Text} {a : Ipv4Address} :
    parse str = .ok a ↔
      ∃ st₀, parseOctet (unspecified, str) 0 = .ok st₀ ∧
      ∃ st₁, parseOctet st₀ 1 = .ok st₁ ∧
      ∃ st₂, parseOctet st₁ 2 = .ok st₂ ∧ parseOctet st₂ 3 = .ok (a, []) := by
  have four : List.finRange 4 = [0, 1, 2, 3] := by decide
  have last (st : Ipv4Address × Text) :
      (if st.2.isEmpty then Except.ok st.1 else Except.error Ipv4ParseError.trailingData) =
        Except.ok a ↔ st = (a, []) := by
    obtain ⟨out, rest⟩ := st
    cases rest <;> simp
  simp only [parse, four, List.foldlM_cons, List.foldlM_nil, Control.bind_eq_ok_iff, last,
    Control.pure_eq_ok_iff, exists_eq_right]

theorem parse_eq_ok_iff {str : Text} {a : Ipv4Address} :
    parse str = .ok a ↔ ∃ f₀ f₁ f₂ f₃, str = dotted f₀ f₁ f₂ f₃ ∧
      (∀ f ∈ [f₀, f₁, f₂, f₃], '.' ∉ f) ∧
      leadingOctet f₀ = some a.octets[0] ∧ leadingOctet f₁ = some a.octets[1] ∧
      leadingOctet f₂ = some a.octets[2] ∧ leadingOctet f₃ = some a.octets[3] := by
  rw [parse_eq_ok_iff_rounds]
  constructor
  · rintro ⟨⟨b₀, t₀⟩, h₀, ⟨b₁, t₁⟩, h₁, ⟨b₂, t₂⟩, h₂, h₃⟩
    obtain ⟨f₀, n₀, rfl, d₀, o₀, rfl⟩ := (parseOctet_eq_ok_iff (by decide)).mp h₀
    obtain ⟨f₁, n₁, rfl, d₁, o₁, rfl⟩ := (parseOctet_eq_ok_iff (by decide)).mp h₁
    obtain ⟨f₂, n₂, rfl, d₂, o₂, rfl⟩ := (parseOctet_eq_ok_iff (by decide)).mp h₂
    obtain ⟨d₃, n₃, o₃, rfl⟩ := parseOctet_three_eq_ok_nil_iff.mp h₃
    refine ⟨f₀, f₁, f₂, t₂, rfl, ?_, ?_⟩
    · simp [d₀, d₁, d₂, d₃]
    · simp [o₀, o₁, o₂, o₃]
  · rintro ⟨f₀, f₁, f₂, f₃, rfl, nodot, o₀, o₁, o₂, o₃⟩
    simp only [List.forall_mem_cons, List.not_mem_nil, false_imp_iff, implies_true,
      and_true] at nodot
    obtain ⟨d₀, d₁, d₂, d₃⟩ := nodot
    refine ⟨_, (parseOctet_eq_ok_iff (by decide)).mpr ⟨f₀, _, rfl, d₀, o₀, rfl⟩,
      _, (parseOctet_eq_ok_iff (by decide)).mpr ⟨f₁, _, rfl, d₁, o₁, rfl⟩,
      _, (parseOctet_eq_ok_iff (by decide)).mpr ⟨f₂, _, rfl, d₂, o₂, rfl⟩,
      parseOctet_three_eq_ok_nil_iff.mpr ⟨d₃, _, o₃, ?_⟩⟩
    conv_lhs => rw [eq_ofOctets a]
    rfl

theorem toString_eq (a : Ipv4Address) :
    toString a = dotted (Nat.toDigits 10 a.octets[0].toNat) (Nat.toDigits 10 a.octets[1].toNat)
      (Nat.toDigits 10 a.octets[2].toNat) (Nat.toDigits 10 a.octets[3].toNat) := by
  have four : List.finRange 4 = [0, 1, 2, 3] := by decide
  have octet (i : Fin 4) : a.octets.get i = a.octets[i] := rfl
  simp [toString, four, dotted, octet]

@[simp] theorem parse_toString (a : Ipv4Address) : parse (toString a) = .ok a := by
  rw [parse_eq_ok_iff]
  refine ⟨_, _, _, _, toString_eq a, ?_, leadingOctet_decimal _, leadingOctet_decimal _,
    leadingOctet_decimal _, leadingOctet_decimal _⟩
  simp [dot_not_mem_decimal]

theorem dot_mem_of_parse {str : Text} {a : Ipv4Address} (h : parse str = .ok a) : '.' ∈ str := by
  obtain ⟨f₀, f₁, f₂, f₃, rfl, -⟩ := parse_eq_ok_iff.mp h
  simp [dotted]

theorem head_of_parse {str : Text} {a : Ipv4Address} (h : parse str = .ok a) :
    ∃ c rest, str = c :: rest ∧ c.isDigit = true := by
  obtain ⟨f₀, f₁, f₂, f₃, rfl, -, o₀, -⟩ := parse_eq_ok_iff.mp h
  obtain ⟨c, rest, rfl, hc⟩ := Numeral.digits_ne_nil_iff.mp (leadingOctet_eq_some_iff.mp o₀).1
  exact ⟨c, _, rfl, hc⟩

def IsOctetText (d : Text) (n : UInt8) : Prop :=
  d ≠ [] ∧ (∀ c ∈ d, c.isDigit = true) ∧ Numeral.value d = n.toNat

def IsDottedQuad (s : Text) (a : Ipv4Address) : Prop :=
  ∃ d₀ d₁ d₂ d₃, s = dotted d₀ d₁ d₂ d₃ ∧
    IsOctetText d₀ a.octets[0] ∧ IsOctetText d₁ a.octets[1] ∧
    IsOctetText d₂ a.octets[2] ∧ IsOctetText d₃ a.octets[3]

def BeginsWithOctet (f : Text) : Prop :=
  Numeral.digits f ≠ [] ∧ Numeral.value (Numeral.digits f) ≤ 255

/-- Exactly four fields between dots, each beginning with an octet. -/
def HasFourOctetFields (s f₀ f₁ f₂ f₃ : Text) : Prop :=
  s = dotted f₀ f₁ f₂ f₃ ∧ ∀ f ∈ [f₀, f₁, f₂, f₃], '.' ∉ f ∧ BeginsWithOctet f

def IsQuadLike (s : Text) : Prop := ∃ f₀ f₁ f₂ f₃, HasFourOctetFields s f₀ f₁ f₂ f₃

/-- Four such fields, one of which goes on with something that is no digit. -/
def HasJunkField (s : Text) : Prop :=
  ∃ f₀ f₁ f₂ f₃, HasFourOctetFields s f₀ f₁ f₂ f₃ ∧
    ∃ f ∈ [f₀, f₁, f₂, f₃], ∃ c ∈ f, c.isDigit = false

theorem isOctetText_iff {d : Text} {n : UInt8} :
    IsOctetText d n ↔ leadingOctet d = some n ∧ ∀ c ∈ d, c.isDigit = true := by
  rw [leadingOctet_eq_some_iff]
  constructor
  · rintro ⟨hne, hall, hval⟩
    rw [Numeral.digits_eq_self_iff.mpr hall]
    exact ⟨⟨hne, hval⟩, hall⟩
  · rintro ⟨⟨hne, hval⟩, hall⟩
    rw [Numeral.digits_eq_self_iff.mpr hall] at hne hval
    exact ⟨hne, hall, hval⟩

theorem beginsWithOctet_iff {f : Text} : BeginsWithOctet f ↔ ∃ n, leadingOctet f = some n := by
  simp only [leadingOctet_eq_some_iff, BeginsWithOctet]
  constructor
  · rintro ⟨hne, hle⟩
    exact ⟨UInt8.ofNat _, hne, (UInt8.toNat_ofNat_of_lt' (Nat.lt_succ_of_le hle)).symm⟩
  · rintro ⟨n, hne, hval⟩
    have := n.toNat_lt
    exact ⟨hne, by omega⟩

theorem dot_not_mem_of_digits {d : Text} (h : ∀ c ∈ d, c.isDigit = true) : '.' ∉ d :=
  fun hd => absurd (h _ hd) (by decide)

theorem fields_of_parse {s : Text} {a : Ipv4Address} (h : parse s = .ok a) :
    ∃ f₀ f₁ f₂ f₃, HasFourOctetFields s f₀ f₁ f₂ f₃ ∧
      leadingOctet f₀ = some a.octets[0] ∧ leadingOctet f₁ = some a.octets[1] ∧
      leadingOctet f₂ = some a.octets[2] ∧ leadingOctet f₃ = some a.octets[3] := by
  obtain ⟨f₀, f₁, f₂, f₃, rfl, nodot, o₀, o₁, o₂, o₃⟩ := parse_eq_ok_iff.mp h
  refine ⟨f₀, f₁, f₂, f₃, ⟨rfl, fun f hf => ⟨nodot f hf, beginsWithOctet_iff.mpr ?_⟩⟩,
    o₀, o₁, o₂, o₃⟩
  simp only [List.mem_cons, List.not_mem_nil, or_false] at hf
  rcases hf with rfl | rfl | rfl | rfl
  exacts [⟨_, o₀⟩, ⟨_, o₁⟩, ⟨_, o₂⟩, ⟨_, o₃⟩]

theorem exists_parse_eq_ok_iff {s : Text} :
    (∃ a, parse s = .ok a) ↔ IsQuadLike s := by
  constructor
  · rintro ⟨a, h⟩
    obtain ⟨f₀, f₁, f₂, f₃, fields, -⟩ := fields_of_parse h
    exact ⟨f₀, f₁, f₂, f₃, fields⟩
  · rintro ⟨f₀, f₁, f₂, f₃, rfl, fields⟩
    obtain ⟨n₀, o₀⟩ := beginsWithOctet_iff.mp (fields f₀ (by simp)).2
    obtain ⟨n₁, o₁⟩ := beginsWithOctet_iff.mp (fields f₁ (by simp)).2
    obtain ⟨n₂, o₂⟩ := beginsWithOctet_iff.mp (fields f₂ (by simp)).2
    obtain ⟨n₃, o₃⟩ := beginsWithOctet_iff.mp (fields f₃ (by simp)).2
    exact ⟨ofOctets n₀ n₁ n₂ n₃, parse_eq_ok_iff.mpr
      ⟨f₀, f₁, f₂, f₃, rfl, fun f hf => (fields f hf).1, o₀, o₁, o₂, o₃⟩⟩

theorem parse_of_isDottedQuad {s : Text} {a : Ipv4Address} (h : IsDottedQuad s a) :
    parse s = .ok a := by
  obtain ⟨d₀, d₁, d₂, d₃, rfl, q₀, q₁, q₂, q₃⟩ := h
  refine parse_eq_ok_iff.mpr ⟨d₀, d₁, d₂, d₃, rfl, ?_, (isOctetText_iff.mp q₀).1,
    (isOctetText_iff.mp q₁).1, (isOctetText_iff.mp q₂).1, (isOctetText_iff.mp q₃).1⟩
  simp [dot_not_mem_of_digits q₀.2.1, dot_not_mem_of_digits q₁.2.1,
    dot_not_mem_of_digits q₂.2.1, dot_not_mem_of_digits q₃.2.1]

theorem chars_of_isDottedQuad {s : Text} {a : Ipv4Address} (h : IsDottedQuad s a) {c : Char}
    (hc : c ∈ s) : c = '.' ∨ c.isDigit = true := by
  obtain ⟨d₀, d₁, d₂, d₃, rfl, q₀, q₁, q₂, q₃⟩ := h
  simp only [dotted, List.mem_append, List.mem_cons] at hc
  rcases hc with hc | rfl | hc | rfl | hc | rfl | hc
  exacts [.inr (q₀.2.1 _ hc), .inl rfl, .inr (q₁.2.1 _ hc), .inl rfl, .inr (q₂.2.1 _ hc),
    .inl rfl, .inr (q₃.2.1 _ hc)]

theorem mem_dotted_of_mem {f₀ f₁ f₂ f₃ f : Text} {c : Char} (hf : f ∈ [f₀, f₁, f₂, f₃])
    (hc : c ∈ f) : c ∈ dotted f₀ f₁ f₂ f₃ := by
  simp only [List.mem_cons, List.not_mem_nil, or_false] at hf
  rcases hf with rfl | rfl | rfl | rfl <;> simp [dotted, hc]

theorem not_isDottedQuad_of_junk {s : Text} (junk : HasJunkField s) (a : Ipv4Address) :
    ¬ IsDottedQuad s a := by
  intro quad
  obtain ⟨f₀, f₁, f₂, f₃, ⟨rfl, fields⟩, f, hf, c, hc, hno⟩ := junk
  rcases chars_of_isDottedQuad quad (mem_dotted_of_mem hf hc) with rfl | hdigit
  · exact (fields f hf).1 hc
  · rw [hno] at hdigit
    cases hdigit

/-- Apart from texts with such a field, acceptance is the dotted-quad language. -/
theorem parse_iff_isDottedQuad_iff (s : Text) :
    (∀ a, parse s = .ok a ↔ IsDottedQuad s a) ↔ ¬ HasJunkField s := by
  constructor
  · intro agree junk
    obtain ⟨f₀, f₁, f₂, f₃, fields, -⟩ := id junk
    obtain ⟨a, accepted⟩ := exists_parse_eq_ok_iff.mpr ⟨f₀, f₁, f₂, f₃, fields⟩
    exact not_isDottedQuad_of_junk junk a ((agree a).mp accepted)
  · intro clean a
    refine ⟨fun accepted => ?_, parse_of_isDottedQuad⟩
    obtain ⟨f₀, f₁, f₂, f₃, fields, o₀, o₁, o₂, o₃⟩ := fields_of_parse accepted
    have pure : ∀ f ∈ [f₀, f₁, f₂, f₃], ∀ c ∈ f, c.isDigit = true := by
      intro f hf c hc
      by_contra hno
      exact clean ⟨f₀, f₁, f₂, f₃, fields, f, hf, c, hc, by simpa using hno⟩
    exact ⟨f₀, f₁, f₂, f₃, fields.1, isOctetText_iff.mpr ⟨o₀, pure f₀ (by simp)⟩,
      isOctetText_iff.mpr ⟨o₁, pure f₁ (by simp)⟩, isOctetText_iff.mpr ⟨o₂, pure f₂ (by simp)⟩,
      isOctetText_iff.mpr ⟨o₃, pure f₃ (by simp)⟩⟩

theorem parse_trailing_letter : ¬ ∀ (s : Text) (a : Ipv4Address),
    parse s = .ok a ↔ IsDottedQuad s a := by
  intro agree
  have accepted : parse "1.2.3.4x".toList = .ok (ofOctets 1 2 3 4) := by decide
  have chars := chars_of_isDottedQuad ((agree _ _).mp accepted) (by decide : 'x' ∈ "1.2.3.4x".toList)
  revert chars
  decide

end Ipv4Address
end Qsox
