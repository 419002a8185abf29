import Mathlib.Data.List.FinRange
import Mathlib.Data.List.Induction

/-! Control flow of the source. `geode::Result<T, E>` is `Except E T`, an early
`return Err(...)` and `GEODE_UNWRAP` are its bind, and a counted `for` loop is a
fold over `List.finRange`. A run of steps that may be refused is a fold in
`Option`. -/

namespace Qsox.Control

section
variable {ε α β : Type}

theorem bind_eq_ok_iff {x : Except ε α} {f : α → Except ε β} {b : β} :
    (x >>= f) = .ok b ↔ ∃ a, x = .ok a ∧ f a = .ok b := by
  cases x with
  | error e => exact ⟨nofun, fun ⟨_, h, _⟩ => by cases h⟩
  | ok a => exact ⟨fun h => ⟨a, rfl, h⟩, fun ⟨_, h, hf⟩ => by cases h; exact hf⟩

@[simp] theorem pure_eq_ok_iff {a b : α} : (pure a : Except ε α) = .ok b ↔ a = b :=
  ⟨Except.ok.inj, congrArg Except.ok⟩

@[simp] theorem ok_bind (a : α) (f : α → Except ε β) :
    (Except.ok a >>= f) = f a := rfl

end

/-- The invariant rule of a counted loop: what holds before round `i` is indexed
by `i`. -/
theorem foldl_finRange {σ : Type} {n : ℕ} (f : σ → Fin n → σ) (P : ℕ → σ → Prop) {s : σ}
    (start : P 0 s) (round : ∀ (i : Fin n) st, P i st → P (i + 1) (f st i)) :
    P n ((List.finRange n).foldl f s) := by
  induction n generalizing s P with
  | zero => simpa using start
  | succ n ih =>
    rw [List.finRange_succ, List.foldl_cons, List.foldl_map]
    exact ih (fun st i => f st i.succ) (fun k => P (k + 1)) (round 0 s start)
      fun i st h => round i.succ st h

/-- The invariant rule of a run: what holds of a state may speak of the actions
that led to it. -/
theorem foldlM_invariant {S A : Type} {step : S → A → Option S} {P : List A → S → Prop}
    {start last : S} {actions : List A} (holds : P [] start)
    (keeps : ∀ past s action s', P past s → step s action = some s' → P (past ++ [action]) s')
    (run : actions.foldlM step start = some last) : P actions last := by
  induction actions using List.reverseRecOn generalizing last with
  | nil =>
    obtain rfl : start = last := Option.some.inj run
    exact holds
  | append_singleton past action ih =>
    rw [List.foldlM_append] at run
    obtain ⟨s, before, rest⟩ := Option.bind_eq_some_iff.mp run
    have move : step s action = some last := by simpa using rest
    exact keeps past s action last (ih before) move

end Qsox.Control
