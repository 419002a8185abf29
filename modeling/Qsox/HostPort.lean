import Qsox.StringView

/-! The part the endpoint parsers have in common: the split at the last colon,
the port and the square brackets. Each of the four `parse` functions of the
source spells it out. -/

namespace Qsox.HostPort

open StringView

/-- `rfind(':')` and the two `substr`; `none` where the source returns
`MissingPort`: no colon, or a last colon that begins or ends the text. -/
def splitPort (str : Text) : Option (Text × Text) :=
  match rfind ':' str with
  | none => none
  | some colonPos =>
    if colonPos = 0 ∨ colonPos = str.length - 1 then none
    else some (str.take colonPos, str.drop (colonPos + 1))

/-- `from_chars` into a `uint16_t` that must stop at the end of the part. -/
def readPort (portPart : Text) : Option UInt16 :=
  match fromChars 16 portPart with
  | .error _ => none
  | .ok res => if res.rest.isEmpty then some (UInt16.ofNat res.value) else none

def stripBrackets (addressPart : Text) : Option Text :=
  if 2 ≤ addressPart.length ∧ addressPart.head? = some '[' ∧ addressPart.getLast? = some ']' then
    some (addressPart.drop 1).dropLast
  else none

theorem splitPort_append {host port : Text} (hh : host ≠ []) (hp : port ≠ []) (clean : ':' ∉ port) :
    splitPort (host ++ ':' :: port) = some (host, port) := by
  have host_pos := List.length_pos_of_ne_nil hh
  have port_pos := List.length_pos_of_ne_nil hp
  simp only [splitPort, rfind_append_cons clean]
  rw [if_neg (by simp only [List.length_append, List.length_cons]; omega), List.take_left]
  simp

theorem splitPort_eq_some_iff {str host port : Text} :
    splitPort str = some (host, port) ↔
      str = host ++ ':' :: port ∧ host ≠ [] ∧ port ≠ [] ∧ ':' ∉ port := by
  constructor
  · intro h
    rcases last_cut ':' str with none | ⟨pre, post, rfl, clean⟩
    · rw [splitPort, rfind_eq_none_iff.mpr none] at h
      cases h
    · simp only [splitPort, rfind_append_cons clean] at h
      split_ifs at h with ends
      simp only [List.length_append, List.length_cons] at ends
      have hpre : pre ≠ [] := List.ne_nil_of_length_pos (by omega)
      have hpost : post ≠ [] := List.ne_nil_of_length_pos (by omega)
      rw [List.take_left] at h
      obtain ⟨rfl, hport⟩ := Prod.mk.inj (Option.some.inj h)
      have same : post = port := by simpa using hport
      exact ⟨by rw [same], hpre, same ▸ hpost, same ▸ clean⟩
  · rintro ⟨rfl, hh, hp, clean⟩
    exact splitPort_append hh hp clean

def LacksPart (str : Text) : Prop :=
  ':' ∉ str ∨ ∃ host port, str = host ++ ':' :: port ∧ ':' ∉ port ∧ (host = [] ∨ port = [])

theorem splitPort_eq_none_iff {str : Text} : splitPort str = none ↔ LacksPart str := by
  constructor
  · intro missing
    rcases last_cut ':' str with without | ⟨host, port, rfl, clean⟩
    · exact .inl without
    · by_cases empty : host = [] ∨ port = []
      · exact .inr ⟨host, port, rfl, clean, empty⟩
      · rw [not_or] at empty
        rw [splitPort_append empty.1 empty.2 clean] at missing
        cases missing
  · rintro (without | ⟨host, port, rfl, clean, empty⟩)
    · rw [splitPort, rfind_eq_none_iff.mpr without]
    · have ends : host.length = 0 ∨ host.length = (host ++ ':' :: port).length - 1 := by
        rcases empty with rfl | rfl
        · exact .inl rfl
        · exact .inr (by simp)
      simp only [splitPort, rfind_append_cons clean]
      exact if_pos ends

theorem readPort_eq_some_iff {portPart : Text} {port : UInt16} :
    readPort portPart = some port ↔
      portPart ≠ [] ∧ (∀ c ∈ portPart, c.isDigit = true) ∧
        Numeral.value portPart = port.toNat := by
  constructor
  · intro h
    unfold readPort at h
    cases read : fromChars 16 portPart with
    | error e =>
      rw [read] at h
      cases h
    | ok res =>
      obtain ⟨value, rest⟩ := res
      rw [read] at h
      obtain ⟨ended, is⟩ : rest = [] ∧ UInt16.ofNat value = port := by simpa using h
      rw [ended] at read
      obtain ⟨ne_nil, digits, valued, small⟩ := fromChars_eq_ok_nil_iff.mp read
      rw [← is, UInt16.toNat_ofNat', Nat.mod_eq_of_lt small]
      exact ⟨ne_nil, digits, valued⟩
  · rintro ⟨ne_nil, digits, valued⟩
    have read : fromChars 16 portPart = .ok ⟨port.toNat, []⟩ :=
      fromChars_eq_ok_nil_iff.mpr ⟨ne_nil, digits, valued, port.toNat_lt⟩
    simp [readPort, read]

theorem colon_not_mem_decimal (n : ℕ) : ':' ∉ Nat.toDigits 10 n :=
  Numeral.not_mem_decimal (by decide) n

theorem splitPort_decimal {host : Text} (hh : host ≠ []) (n : ℕ) :
    splitPort (host ++ ':' :: Nat.toDigits 10 n) = some (host, Nat.toDigits 10 n) :=
  splitPort_append hh Nat.toDigits_ne_nil (colon_not_mem_decimal n)

@[simp] theorem readPort_decimal (port : UInt16) :
    readPort (Nat.toDigits 10 port.toNat) = some port := by
  have small : port.toNat < 2 ^ 16 := port.toNat_lt
  simp [readPort, fromChars_decimal small]

@[simp] theorem stripBrackets_brackets (s : Text) :
    stripBrackets ('[' :: (s ++ [']'])) = some s := by
  have closed : (('[' :: s) ++ [']']).getLast? = some ']' := List.getLast?_concat
  rw [List.cons_append] at closed
  simp [stripBrackets, closed]

theorem stripBrackets_of_head {s : Text} (h : s.head? ≠ some '[') : stripBrackets s = none :=
  if_neg fun all => h all.2.1

theorem stripBrackets_eq_some_iff {s inner : Text} :
    stripBrackets s = some inner ↔ s = '[' :: (inner ++ [']']) := by
  constructor
  · intro h
    unfold stripBrackets at h
    split_ifs at h with brackets
    obtain ⟨two, opened, closed⟩ := brackets
    obtain rfl := Option.some.inj h
    cases s with
    | nil => cases opened
    | cons c rest =>
      obtain rfl := Option.some.inj opened
      have rest_ne : rest ≠ [] := by
        rintro rfl
        simp at two
      rw [List.getLast?_cons_of_ne_nil rest_ne] at closed
      rw [List.drop_one, List.tail_cons, List.dropLast_append_getLast? _ closed]
  · intro h
    rw [h, stripBrackets_brackets]

end Qsox.HostPort
