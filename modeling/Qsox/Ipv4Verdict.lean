import Mathlib.Order.Bounds.Defs
import Qsox.Ipv4Address

/-! What `Ipv4Address::parse` answers, told over the text split at every dot: the
first field that is the last one too early, or has no octet, decides the error. -/

namespace Qsox.Ipv4Address

open StringView

def fields (s : Text) : List Text := s.splitOn '.'

instance (f : Text) : Decidable (BeginsWithOctet f) := inferInstanceAs (Decidable (_ ∧ _))

/-- Field `i` is the last although there should be fields up to `last`. -/
def EndsEarly (last : ℕ) (fs : List Text) (i : ℕ) : Prop := i + 1 = fs.length ∧ i < last

instance (last : ℕ) (fs : List Text) (i : ℕ) : Decidable (EndsEarly last fs i) :=
  inferInstanceAs (Decidable (_ ∧ _))

/-- Field `i` is reached and cannot be passed. -/
structure StopsAt (last : ℕ) (fs : List Text) (i : ℕ) : Prop where
  inside : i ≤ last
  earlier : ∀ j < i, ∃ f, fs[j]? = some f ∧ BeginsWithOctet f
  stopped : ∃ f, fs[i]? = some f ∧ (EndsEarly last fs i ∨ ¬ BeginsWithOctet f)

/-- The loop over the fields, `last` of them to come after the first. -/
def checkFields : ℕ → List Text → Except Ipv4ParseError Unit
  | _, [] => .error .missingOctets
  | last, f :: rest =>
    if rest = [] ∧ 0 < last then .error .missingOctets
    else if ¬ BeginsWithOctet f then .error .invalidOctet
    else
      match last with
      | 0 => if rest = [] then .ok () else .error .trailingData
      | last + 1 => checkFields last rest

theorem checkFields_early {last : ℕ} {f : Text} {rest : List Text} (early : rest = [] ∧ 0 < last) :
    checkFields last (f :: rest) = .error .missingOctets := by
  cases last with
  | zero => exact absurd early.2 (Nat.lt_irrefl 0)
  | succ last => rw [checkFields, if_pos early]

theorem checkFields_invalid {last : ℕ} {f : Text} {rest : List Text}
    (in_time : ¬ (rest = [] ∧ 0 < last)) (no_octet : ¬ BeginsWithOctet f) :
    checkFields last (f :: rest) = .error .invalidOctet := by
  cases last with
  | zero => rw [checkFields, if_neg in_time, if_pos no_octet]
  | succ last => rw [checkFields, if_neg in_time, if_pos no_octet]

theorem checkFields_succ {last : ℕ} {f : Text} {rest : List Text} (more : rest ≠ [])
    (octet : BeginsWithOctet f) : checkFields (last + 1) (f :: rest) = checkFields last rest := by
  rw [checkFields, if_neg fun none => more none.1, if_neg (not_not.mpr octet)]

theorem checkFields_zero {f : Text} {rest : List Text} (octet : BeginsWithOctet f) :
    checkFields 0 (f :: rest) = if rest = [] then .ok () else .error .trailingData := by
  rw [checkFields, if_neg fun none => absurd none.2 (Nat.lt_irrefl 0), if_neg (not_not.mpr octet)]

theorem leadingOctet_eq_none_iff {f : Text} : leadingOctet f = none ↔ ¬ BeginsWithOctet f := by
  rw [beginsWithOctet_iff, Option.eq_none_iff_forall_ne_some]
  exact not_exists.symm

theorem fields_of_not_mem {f : Text} (clean : '.' ∉ f) : fields f = [f] :=
  List.splitOn_eq_singleton clean

@[simp] theorem fields_append {f : Text} (clean : '.' ∉ f) (t : Text) :
    fields (f ++ '.' :: t) = f :: fields t :=
  List.splitOn_append_cons_self_of_not_mem clean t

theorem fields_ne_nil (s : Text) : fields s ≠ [] := List.splitOn_ne_nil '.' s

theorem fields_dotted {f₀ f₁ f₂ f₃ : Text} (clean : ∀ f ∈ [f₀, f₁, f₂, f₃], '.' ∉ f) :
    fields (dotted f₀ f₁ f₂ f₃) = [f₀, f₁, f₂, f₃] := by
  rw [dotted, fields_append (clean f₀ (by simp)), fields_append (clean f₁ (by simp)),
    fields_append (clean f₂ (by simp)), fields_of_not_mem (clean f₃ (by simp))]

theorem round_checks {next : Ipv4Address × Text → Except Ipv4ParseError Ipv4Address} {last : ℕ}
    (checked : ∀ st, (next st).map (fun _ => ()) = checkFields last (fields st.2)) {i : Fin 4}
    (early : i.val < 3) (st : Ipv4Address × Text) :
    (parseOctet st i >>= next).map (fun _ => ()) = checkFields (last + 1) (fields st.2) := by
  obtain ⟨a, str⟩ := st
  rcases first_cut '.' str with clean | ⟨f, t, rfl, clean⟩
  · rw [parseOctet_last clean, if_pos early, fields_of_not_mem clean,
      checkFields_early ⟨rfl, Nat.succ_pos last⟩]
    rfl
  · have more : fields t ≠ [] := fields_ne_nil t
    rw [parseOctet_dot clean, fields_append clean]
    cases read : leadingOctet f with
    | none =>
      rw [checkFields_invalid (fun none => more none.1) (leadingOctet_eq_none_iff.mp read)]
      rfl
    | some n =>
      rw [checkFields_succ more (beginsWithOctet_iff.mpr ⟨n, read⟩)]
      simp only [Control.ok_bind, if_pos early]
      exact checked _

theorem last_round_checks (st : Ipv4Address × Text) :
    (parseOctet st 3 >>= fun st =>
      if st.2.isEmpty then Except.ok st.1 else Except.error Ipv4ParseError.trailingData).map
        (fun _ => ()) = checkFields 0 (fields st.2) := by
  obtain ⟨a, str⟩ := st
  rcases first_cut '.' str with clean | ⟨f, t, rfl, clean⟩
  · rw [parseOctet_last clean, if_neg (by decide), fields_of_not_mem clean]
    cases read : leadingOctet str with
    | none =>
      rw [checkFields_invalid (fun none => absurd none.2 (Nat.lt_irrefl 0))
        (leadingOctet_eq_none_iff.mp read)]
      rfl
    | some n =>
      rw [checkFields_zero (beginsWithOctet_iff.mpr ⟨n, read⟩)]
      rfl
  · rw [parseOctet_dot clean, fields_append clean]
    cases read : leadingOctet f with
    | none =>
      rw [checkFields_invalid (fun none => absurd none.2 (Nat.lt_irrefl 0))
        (leadingOctet_eq_none_iff.mp read)]
      rfl
    | some n =>
      rw [checkFields_zero (beginsWithOctet_iff.mpr ⟨n, read⟩), if_neg (fields_ne_nil t)]
      rfl

theorem parse_checks (s : Text) : (parse s).map (fun _ => ()) = checkFields 3 (fields s) := by
  have four : List.finRange 4 = [0, 1, 2, 3] := by decide
  simp only [parse, four, List.foldlM_cons, List.foldlM_nil, bind_pure, bind_assoc]
  exact round_checks (round_checks (round_checks last_round_checks (by decide)) (by decide))
    (by decide) (unspecified, s)

@[simp] theorem endsEarly_zero {last : ℕ} {f : Text} {rest : List Text} :
    EndsEarly last (f :: rest) 0 ↔ rest = [] ∧ 0 < last := by
  simp [EndsEarly]

@[simp] theorem endsEarly_succ {last : ℕ} {f : Text} {rest : List Text} {i : ℕ} :
    EndsEarly (last + 1) (f :: rest) (i + 1) ↔ EndsEarly last rest i := by
  simp [EndsEarly]

theorem stopsAt_zero_iff {last : ℕ} {f : Text} {rest : List Text} :
    StopsAt last (f :: rest) 0 ↔ rest = [] ∧ 0 < last ∨ ¬ BeginsWithOctet f := by
  constructor
  · intro ⟨_, _, g, found, stopped⟩
    obtain rfl : f = g := by simpa using found
    exact stopped.imp_left endsEarly_zero.mp
  · intro stopped
    refine ⟨Nat.zero_le _, fun j below => absurd below (Nat.not_lt_zero j), f, rfl, ?_⟩
    exact stopped.imp_left endsEarly_zero.mpr

theorem stopsAt_succ_iff {last : ℕ} {f : Text} {rest : List Text} {i : ℕ} :
    StopsAt (last + 1) (f :: rest) (i + 1) ↔ BeginsWithOctet f ∧ StopsAt last rest i := by
  constructor
  · intro ⟨inside, earlier, g, found, stopped⟩
    obtain ⟨f', first, begins⟩ := earlier 0 (Nat.succ_pos i)
    obtain rfl : f = f' := by simpa using first
    refine ⟨begins, Nat.le_of_succ_le_succ inside, fun j below => ?_, g, by simpa using found, ?_⟩
    · simpa using earlier (j + 1) (Nat.succ_lt_succ below)
    · rwa [endsEarly_succ] at stopped
  · intro ⟨begins, inside, earlier, g, found, stopped⟩
    refine ⟨Nat.succ_le_succ inside, fun j below => ?_, g, by simpa using found, ?_⟩
    · cases j with
      | zero => exact ⟨f, rfl, begins⟩
      | succ j => simpa using earlier j (Nat.lt_of_succ_lt_succ below)
    · rwa [endsEarly_succ]

theorem checkFields_of_stopsAt {last : ℕ} {fs : List Text} {i : ℕ} (stops : StopsAt last fs i) :
    checkFields last fs =
      .error (if EndsEarly last fs i then .missingOctets else .invalidOctet) := by
  induction fs generalizing last i with
  | nil =>
    obtain ⟨g, found, -⟩ := stops.stopped
    cases found
  | cons f rest ih =>
    cases i with
    | zero =>
      have first := stopsAt_zero_iff.mp stops
      by_cases early : rest = [] ∧ 0 < last
      · rw [checkFields_early early, if_pos (endsEarly_zero.mpr early)]
      · rw [checkFields_invalid early (first.resolve_left early),
          if_neg (mt endsEarly_zero.mp early)]
    | succ i =>
      cases last with
      | zero => exact absurd stops.inside (Nat.not_succ_le_zero i)
      | succ last =>
        obtain ⟨begins, later⟩ := stopsAt_succ_iff.mp stops
        have more : rest ≠ [] := by
          rintro rfl
          obtain ⟨g, found, -⟩ := later.stopped
          cases found
        rw [checkFields_succ more begins]
        simp only [endsEarly_succ]
        exact ih later

theorem checkFields_of_passes {last : ℕ} {fs : List Text} (some_field : fs ≠ [])
    (passes : ∀ i, ¬ StopsAt last fs i) :
    last < fs.length ∧
      checkFields last fs = if last + 1 < fs.length then .error .trailingData else .ok () := by
  induction fs generalizing last with
  | nil => exact absurd rfl some_field
  | cons f rest ih =>
    have first := passes 0
    rw [stopsAt_zero_iff, not_or, not_not] at first
    cases last with
    | zero =>
      refine ⟨Nat.succ_pos _, ?_⟩
      rw [checkFields_zero first.2]
      cases rest with
      | nil => rfl
      | cons g rest => simp
    | succ last =>
      have more : rest ≠ [] := fun none => first.1 ⟨none, Nat.succ_pos last⟩
      obtain ⟨long, checked⟩ := ih more fun i stops =>
        passes (i + 1) (stopsAt_succ_iff.mpr ⟨first.2, stops⟩)
      refine ⟨Nat.succ_lt_succ long, ?_⟩
      simp only [checkFields_succ more first.2, checked, List.length_cons, Nat.add_lt_add_iff_right]

theorem parse_eq_error {s : Text} {e : Ipv4ParseError} (h : checkFields 3 (fields s) = .error e) :
    parse s = .error e := by
  rw [← parse_checks] at h
  cases answer : parse s with
  | ok a =>
    rw [answer] at h
    cases h
  | error e' =>
    rw [answer] at h
    cases h
    rfl

theorem numbers_of_parse {s : Text} {a : Ipv4Address} (h : parse s = .ok a) :
    (fields s).length = 4 ∧ ∀ i : Fin 4, ∃ f, (fields s)[i.val]? = some f ∧
      Numeral.value (Numeral.digits f) = (a.octets.get i).toNat := by
  obtain ⟨f₀, f₁, f₂, f₃, rfl, clean, o₀, o₁, o₂, o₃⟩ := parse_eq_ok_iff.mp h
  rw [fields_dotted clean]
  refine ⟨rfl, fun i => ?_⟩
  match i with
  | 0 => exact ⟨f₀, rfl, (leadingOctet_eq_some_iff.mp o₀).2⟩
  | 1 => exact ⟨f₁, rfl, (leadingOctet_eq_some_iff.mp o₁).2⟩
  | 2 => exact ⟨f₂, rfl, (leadingOctet_eq_some_iff.mp o₂).2⟩
  | 3 => exact ⟨f₃, rfl, (leadingOctet_eq_some_iff.mp o₃).2⟩

/-- The first of the fields up to the fourth that cannot be passed tells the error;
if there is none, only the number of fields matters. -/
theorem parse_verdict (s : Text) :
    (∀ i, IsLeast { i | StopsAt 3 (fields s) i } i →
      (EndsEarly 3 (fields s) i → parse s = .error .missingOctets) ∧
      (¬ EndsEarly 3 (fields s) i → parse s = .error .invalidOctet)) ∧
    ((∀ i, ¬ StopsAt 3 (fields s) i) →
      (4 < (fields s).length → parse s = .error .trailingData) ∧
      (¬ 4 < (fields s).length → ∃ a, parse s = .ok a ∧ (fields s).length = 4 ∧
        ∀ i : Fin 4, ∃ f, (fields s)[i.val]? = some f ∧
          Numeral.value (Numeral.digits f) = (a.octets.get i).toNat)) := by
  constructor
  · intro i least
    have checked := checkFields_of_stopsAt least.1
    constructor
    · intro early
      rw [if_pos early] at checked
      exact parse_eq_error checked
    · intro in_time
      rw [if_neg in_time] at checked
      exact parse_eq_error checked
  · intro passes
    obtain ⟨-, checked⟩ := checkFields_of_passes (fields_ne_nil s) passes
    constructor
    · intro more
      rw [if_pos more] at checked
      exact parse_eq_error checked
    · intro exact_count
      rw [if_neg exact_count, ← parse_checks] at checked
      cases answer : parse s with
      | error e =>
        rw [answer] at checked
        cases checked
      | ok a => exact ⟨a, rfl, numbers_of_parse answer⟩

/-- The last field is not looked at when it comes too early. -/
example : parse "1.x".toList = .error .missingOctets := by decide

end Qsox.Ipv4Address
