import Mathlib.Data.List.Basic
import Qsox.Numeral

/-! The string operations the parsers are written with: `find`, `rfind` and
`from_chars`. A text is a list of characters; a `char` of the source is the
`Char` with its code, so texts of arbitrary bytes, NUL included, are covered. -/

namespace Qsox.StringView

abbrev Text := List Char

/-- Position of the first occurrence; `none` is `npos`. -/
def find (c : Char) (s : Text) : Option ℕ := s.idxOf? c

/-- Position of the last occurrence; `none` is `npos`. -/
def rfind (c : Char) (s : Text) : Option ℕ :=
  (s.reverse.idxOf? c).map fun i => s.length - 1 - i

@[simp] theorem find_eq_none_iff {c : Char} {s : Text} : find c s = none ↔ c ∉ s :=
  List.idxOf?_eq_none_iff

theorem find_append_cons {c : Char} {pre : Text} (h : c ∉ pre) (post : Text) :
    find c (pre ++ c :: post) = some pre.length := by
  unfold find
  induction pre with
  | nil => simp [List.idxOf?_cons]
  | cons d pre ih =>
    obtain ⟨hd, hpre⟩ := List.ne_and_not_mem_of_not_mem_cons h
    simp [List.idxOf?_cons, Ne.symm hd, ih hpre]

@[simp] theorem rfind_eq_none_iff {c : Char} {s : Text} : rfind c s = none ↔ c ∉ s := by
  simp [rfind]

theorem rfind_append_cons {c : Char} {post : Text} (h : c ∉ post) (pre : Text) :
    rfind c (pre ++ c :: post) = some pre.length := by
  have hr : c ∉ post.reverse := by simpa using h
  have first := find_append_cons hr pre.reverse
  rw [find] at first
  simp only [rfind, List.reverse_append, List.reverse_cons, List.append_assoc,
    List.singleton_append, first, Option.map_some, List.length_append,
    List.length_cons, List.length_reverse]
  congr 1
  omega

theorem first_cut (c : Char) (s : Text) :
    c ∉ s ∨ ∃ pre post, s = pre ++ c :: post ∧ c ∉ pre := by
  by_cases h : c ∈ s
  · obtain ⟨pre, post, same, hpre⟩ := List.eq_append_cons_of_mem h
    exact .inr ⟨pre, post, same, hpre⟩
  · exact .inl h

theorem last_cut (c : Char) (s : Text) :
    c ∉ s ∨ ∃ pre post, s = pre ++ c :: post ∧ c ∉ post := by
  rcases first_cut c s.reverse with h | ⟨pre, post, same, hpre⟩
  · exact .inl (by simpa using h)
  · refine .inr ⟨post.reverse, pre.reverse, ?_, by simpa using hpre⟩
    rw [← List.reverse_reverse s, same]
    simp

inductive Errc
  | invalidArgument
  | resultOutOfRange
  deriving DecidableEq, Repr

structure FromChars where
  value : ℕ
  rest : Text
  deriving DecidableEq, Repr

/-- `std::from_chars` into an unsigned type of the given width: the longest
digit prefix, an error if that is empty or does not fit. -/
def fromChars (width : ℕ) (s : Text) : Except Errc FromChars :=
  if Numeral.digits s = [] then .error .invalidArgument
  else if 2 ^ width ≤ Numeral.value (Numeral.digits s) then .error .resultOutOfRange
  else .ok ⟨Numeral.value (Numeral.digits s), Numeral.afterDigits s⟩

theorem fromChars_eq_ok_iff {width : ℕ} {s : Text} {r : FromChars} :
    fromChars width s = .ok r ↔
      Numeral.digits s ≠ [] ∧ Numeral.value (Numeral.digits s) < 2 ^ width ∧
      r = ⟨Numeral.value (Numeral.digits s), Numeral.afterDigits s⟩ := by
  unfold fromChars
  split_ifs with none large
  · simp [none]
  · simp [none, Nat.not_lt.mpr large]
  · simp only [Except.ok.injEq, ne_eq, none, not_false_eq_true, Nat.not_le.mp large, true_and]
    exact eq_comm

theorem fromChars_decimal {width n : ℕ} (h : n < 2 ^ width) :
    fromChars width (Nat.toDigits 10 n) = .ok ⟨n, []⟩ := by
  rw [fromChars_eq_ok_iff, Numeral.digits_decimal, Numeral.afterDigits_decimal,
    Numeral.value_decimal]
  exact ⟨Nat.toDigits_ne_nil, h, rfl⟩

theorem fromChars_eq_ok_nil_iff {width n : ℕ} {s : Text} :
    fromChars width s = .ok ⟨n, []⟩ ↔
      s ≠ [] ∧ (∀ c ∈ s, c.isDigit = true) ∧ Numeral.value s = n ∧ n < 2 ^ width := by
  rw [fromChars_eq_ok_iff, FromChars.mk.injEq]
  constructor
  · rintro ⟨hne, hlt, rfl, hrest⟩
    have hall := Numeral.afterDigits_eq_nil_iff.mp hrest.symm
    have hdig := Numeral.digits_eq_self_iff.mpr hall
    rw [hdig] at hne hlt ⊢
    exact ⟨hne, hall, rfl, hlt⟩
  · rintro ⟨hne, hall, rfl, hlt⟩
    have hdig := Numeral.digits_eq_self_iff.mpr hall
    rw [hdig]
    exact ⟨hne, hlt, rfl, (Numeral.afterDigits_eq_nil_iff.mpr hall).symm⟩

end Qsox.StringView
