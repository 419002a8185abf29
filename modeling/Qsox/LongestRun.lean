import Mathlib.Tactic.Common

/-! Runs of indices with a property, as a scan from the left meets them: the run
that ends at the current index and the leftmost among the longest runs so far.
Each is stated for the first `n` indices and carried over to `n + 1`. -/

namespace Qsox.LongestRun

structure Span where
  start : ℕ := 0
  length : ℕ := 0
  deriving DecidableEq, Repr

/-- Every index of the span is below `n` and has the property. -/
def Run (p : ℕ → Prop) (n : ℕ) (r : Span) : Prop :=
  r.start + r.length ≤ n ∧ ∀ i, r.start ≤ i → i < r.start + r.length → p i

/-- The longest run that ends in front of index `n`, empty if there is none. -/
structure Trailing (p : ℕ → Prop) (n : ℕ) (r : Span) : Prop where
  run : Run p n r
  ends : 0 < r.length → r.start + r.length = n
  longest : ∀ s, Run p n s → s.start + s.length = n → s.length ≤ r.length

/-- The leftmost among the longest runs below `n`. -/
structure Longest (p : ℕ → Prop) (n : ℕ) (r : Span) : Prop where
  run : Run p n r
  longest : ∀ s, Run p n s → s.length ≤ r.length
  leftmost : ∀ s, Run p n s → 0 < s.length → s.length = r.length → r.start ≤ s.start

def Span.push (r : Span) (n : ℕ) : Span :=
  ⟨if r.length = 0 then n else r.start, r.length + 1⟩

section
variable {p : ℕ → Prop} {n : ℕ} {r s : Span}

theorem Run.mono (h : Run p n r) : Run p (n + 1) r :=
  ⟨Nat.le_succ_of_le h.1, h.2⟩

theorem Run.of_succ (h : Run p (n + 1) r) :
    r.start + r.length = n + 1 ∨ Run p n r := by
  rcases Nat.lt_or_ge n (r.start + r.length) with hn | hn
  · exact .inl (Nat.le_antisymm h.1 hn)
  · exact .inr ⟨hn, h.2⟩

theorem Run.pop (h : Run p (n + 1) r) (ends : r.start + r.length = n + 1)
    (pos : 0 < r.length) : p n ∧ Run p n ⟨r.start, r.length - 1⟩ := by
  refine ⟨h.2 n (by omega) (by omega), ?_, fun i hi hlt => h.2 i hi ?_⟩
  · show r.start + (r.length - 1) ≤ n
    omega
  · change i < r.start + (r.length - 1) at hlt
    omega

theorem Trailing.zero : Trailing p 0 {} where
  run := ⟨by simp, fun i _ hi => absurd hi (by simp)⟩
  ends := by simp
  longest := fun s hs _ => by have := hs.1; omega

theorem Longest.zero : Longest p 0 {} where
  run := ⟨by simp, fun i _ hi => absurd hi (by simp)⟩
  longest := fun s hs => by have := hs.1; omega
  leftmost := fun s _ pos same => by rw [same] at pos; exact absurd pos (by simp)

theorem Trailing.push_neg (hn : ¬ p n) : Trailing p (n + 1) {} where
  run := ⟨by simp, fun i _ hi => absurd hi (by simp)⟩
  ends := by simp
  longest := fun s hs ends => by
    by_contra long
    exact hn (hs.pop ends (Nat.lt_of_not_le long)).1

theorem Trailing.push_pos (h : Trailing p n r) (hn : p n) : Trailing p (n + 1) (r.push n) := by
  have ends : (r.push n).start + (r.push n).length = n + 1 := by
    have := h.ends
    simp only [Span.push]
    split_ifs <;> omega
  refine ⟨⟨Nat.le_of_eq ends, fun i hi hlt => ?_⟩, fun _ => ends, fun s hs send => ?_⟩
  · rcases Nat.lt_or_ge i n with below | above
    · by_cases hr : r.length = 0
      · simp only [Span.push, if_pos hr] at hi
        omega
      · simp only [Span.push, if_neg hr] at hi hlt
        have := h.ends
        exact h.run.2 i hi (by omega)
    · rwa [show i = n by omega]
  · show s.length ≤ r.length + 1
    by_cases pos : 0 < s.length
    · have shorter := h.longest ⟨s.start, s.length - 1⟩ (hs.pop send pos).2
      simp only at shorter
      omega
    · omega

theorem Longest.push_neg (h : Longest p n r) (hn : ¬ p n) : Longest p (n + 1) r := by
  have old : ∀ s, Run p (n + 1) s → 0 < s.length → Run p n s := by
    intro s hs pos
    rcases hs.of_succ with ends | hs'
    · exact absurd (hs.pop ends pos).1 hn
    · exact hs'
  refine ⟨h.run.mono, fun s hs => ?_, fun s hs pos same => h.leftmost s (old s hs pos) pos same⟩
  by_cases pos : 0 < s.length
  · exact h.longest s (old s hs pos)
  · omega

theorem Longest.push_pos (h : Longest p n r) (trailing : Trailing p (n + 1) s) :
    Longest p (n + 1) (if s.length > r.length then s else r) := by
  split_ifs with longer
  · have ends := trailing.ends (by omega)
    refine ⟨trailing.run, fun t ht => ?_, fun t ht pos same => ?_⟩
    · rcases ht.of_succ with tends | ht'
      · exact trailing.longest t ht tends
      · have := h.longest t ht'
        omega
    · rcases ht.of_succ with tends | ht'
      · omega
      · have := h.longest t ht'
        omega
  · refine ⟨h.run.mono, fun t ht => ?_, fun t ht pos same => ?_⟩
    · rcases ht.of_succ with tends | ht'
      · have := trailing.longest t ht tends
        omega
      · exact h.longest t ht'
    · rcases ht.of_succ with tends | ht'
      · have := h.run.1
        omega
      · exact h.leftmost t ht' pos same

structure Maximal (p : ℕ → Prop) (n : ℕ) (r : Span) : Prop where
  run : Run p n r
  pos : 0 < r.length
  only : ∀ s, Run p n s → s.start ≤ r.start → r.start + r.length ≤ s.start + s.length → s = r

/-- The leftmost among the longest maximal runs. -/
structure Chosen (p : ℕ → Prop) (n : ℕ) (r : Span) : Prop where
  maximal : Maximal p n r
  longest : ∀ s, Maximal p n s → s.length ≤ r.length
  leftmost : ∀ s, Maximal p n s → s.length = r.length → r.start ≤ s.start

theorem Longest.chosen (h : Longest p n r) (pos : 0 < r.length) : Chosen p n r where
  maximal := by
    refine ⟨h.run, pos, fun s hs before behind => ?_⟩
    obtain ⟨start, length⟩ := s
    obtain ⟨start', length'⟩ := r
    have shorter := h.longest ⟨start, length⟩ hs
    simp only at before behind shorter
    obtain ⟨rfl, rfl⟩ : start = start' ∧ length = length' := by omega
    rfl
  longest := fun s hs => h.longest s hs.run
  leftmost := fun s hs same => h.leftmost s hs.run hs.pos same

end

end Qsox.LongestRun
