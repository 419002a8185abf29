import Mathlib.Data.List.Infix
import Mathlib.Data.List.TakeDrop
import Qsox.Hoare

/-! Transfers by portions. All that is left of a size is asked for, the other side moves
some of it or fails, and one asks again for the rest, until everything is moved or an
answer is not one to go on after. -/

namespace Qsox.Portions

structure Call (ε α : Type) where
  offset : ℕ
  size : ℕ
  answer : Except ε (List α)
  deriving Repr

section
variable {ε α : Type}

def Call.moved (c : Call ε α) : List α :=
  match c.answer with
  | .ok part => part
  | .error _ => []

@[simp] theorem Call.moved_ok {offset size : ℕ} {part : List α} :
    (Call.mk offset size (.ok part : Except ε (List α))).moved = part := rfl

@[simp] theorem Call.moved_error {offset size : ℕ} {code : ε} :
    (Call.mk offset size (.error code : Except ε (List α))).moved = [] := rfl

def Call.Passes (again : ε → Prop) (c : Call ε α) : Prop :=
  match c.answer with
  | .ok part => part ≠ []
  | .error code => again code

theorem Call.moved_of_not_passes {again : ε → Prop} {c : Call ε α} (h : ¬ c.Passes again) :
    c.moved = [] := by
  obtain ⟨offset, size, part | code⟩ := c
  · rfl
  · exact not_not.mp h

def moved (calls : List (Call ε α)) : List α := calls.flatMap Call.moved

@[simp] theorem moved_nil : moved ([] : List (Call ε α)) = [] := rfl

@[simp] theorem moved_cons (c : Call ε α) (calls : List (Call ε α)) :
    moved (c :: calls) = c.moved ++ moved calls := rfl

end

/-- Calls with their answers: each is made in the world that the one before it has left,
for all that is left after it. -/
inductive Answered {σ ε α : Type} (ask : ℕ → σ → Except ε (List α) × σ) (size : ℕ) :
    ℕ → σ → List (Call ε α) → σ → Prop
  | none {pos : ℕ} {w : σ} : Answered ask size pos w [] w
  | call {pos : ℕ} {w w' w'' : σ} {answer : Except ε (List α)} {calls : List (Call ε α)}
      (given : ask pos w = (answer, w'))
      (others : Answered ask size (pos + (Call.mk pos (size - pos) answer).moved.length) w' calls
        w'') :
      Answered ask size pos w (⟨pos, size - pos, answer⟩ :: calls) w''

/-- How a transfer stands after these calls. It goes on while it has rounds left; an error
is what `failure` makes of the first answer after which one does not go on. -/
def Ended {ε α ρ : Type} (again : ε → Prop) (failure : Except ε (List α) → ρ) (size rounds : ℕ)
    (calls : List (Call ε α)) : Option (Except ρ Unit) → Prop
  | none => calls.length = rounds ∧ ∀ c ∈ calls, c.Passes again
  | some (.ok ()) => (moved calls).length = size ∧ ∀ c ∈ calls, c.Passes again
  | some (.error e) => (moved calls).length < size ∧ ∃ passed c, calls = passed ++ [c] ∧
      (∀ c ∈ passed, c.Passes again) ∧ ¬ c.Passes again ∧ e = failure c.answer

section
variable {σ ε α : Type} {ask : ℕ → σ → Except ε (List α) × σ} {size pos : ℕ} {w w' : σ}
  {calls : List (Call ε α)}

namespace Answered

theorem inRange (fits : ∀ pos w part w', pos ≤ size → ask pos w = (.ok part, w') →
      part.length ≤ size - pos) (answered : Answered ask size pos w calls w') (start : pos ≤ size) :
    (∀ c ∈ calls, c.offset + c.size = size ∧ c.moved.length ≤ c.size) ∧
      pos + (moved calls).length ≤ size := by
  induction answered with
  | none => exact ⟨nofun, start⟩
  | @call pos w w' w'' answer calls given others ih =>
    have within : (Call.mk pos (size - pos) answer).moved.length ≤ size - pos := by
      cases answer with
      | error code => exact Nat.zero_le _
      | ok part => exact fits _ _ _ _ start given
    obtain ⟨later, total⟩ := ih (by omega)
    refine ⟨?_, ?_⟩
    · intro c hc
      rcases List.mem_cons.mp hc with rfl | hc
      · exact ⟨by simp only; omega, within⟩
      · exact later c hc
    · rw [moved_cons, List.length_append]
      omega

theorem front {data : List α} (fronts : ∀ pos w part w', ask pos w = (.ok part, w') →
      part <+: data.drop pos) (answered : Answered ask size pos w calls w') :
    moved calls <+: data.drop pos := by
  induction answered with
  | none => exact List.nil_prefix
  | @call pos w w' w'' answer calls given others ih =>
    cases answer with
    | error code => simpa using ih
    | ok part =>
      obtain ⟨rest, whole⟩ := fronts _ _ _ _ given
      have left : data.drop (pos + part.length) = rest := by
        rw [← List.drop_drop, ← whole, List.drop_left]
      rw [Call.moved_ok, left] at ih
      rw [moved_cons, Call.moved_ok, ← whole]
      exact (List.prefix_append_right_inj part).mpr ih

theorem consumes {rest : σ → List α} (loses : ∀ pos w answer w', ask pos w = (answer, w') →
      rest w = (Call.mk pos (size - pos) answer).moved ++ rest w')
    (answered : Answered ask size pos w calls w') : rest w = moved calls ++ rest w' := by
  induction answered with
  | none => rfl
  | call given others ih => rw [loses _ _ _ _ given, ih, moved_cons, List.append_assoc]

end Answered

section
variable {ρ : Type} {again : ε → Prop} {failure : Except ε (List α) → ρ} {rounds : ℕ}
  {c : Call ε α} {outcome : Option (Except ρ Unit)}

namespace Ended

theorem stop (some_left : 0 < size) (stops : ¬ c.Passes again) :
    Ended again failure size rounds [c] (some (.error (failure c.answer))) := by
  refine ⟨?_, [], c, rfl, nofun, stops, rfl⟩
  rwa [moved_cons, Call.moved_of_not_passes stops]

theorem pass (passes : c.Passes again) (fits : c.moved.length ≤ size)
    (ended : Ended again failure (size - c.moved.length) rounds calls outcome) :
    Ended again failure size (rounds + 1) (c :: calls) outcome := by
  have all (others : ∀ d ∈ calls, d.Passes again) : ∀ d ∈ c :: calls, d.Passes again :=
    List.forall_mem_cons.mpr ⟨passes, others⟩
  have total : (moved (c :: calls)).length = c.moved.length + (moved calls).length := by
    rw [moved_cons, List.length_append]
  rcases outcome with _ | e | _
  · exact ⟨congrArg Nat.succ ended.1, all ended.2⟩
  · obtain ⟨less, passed, d, rfl, others, stops, same⟩ := ended
    refine ⟨by omega, c :: passed, d, rfl, ?_, stops, same⟩
    exact List.forall_mem_cons.mpr ⟨passes, others⟩
  · exact ⟨by have moved_all := ended.1; omega, all ended.2⟩

theorem whole_iff {res : Except ρ Unit} (ended : Ended again failure size rounds calls (some res)) :
    (moved calls).length = size ↔ res = .ok () := by
  rcases res with e | _
  · exact iff_of_false ended.1.ne nofun
  · exact iff_of_true ended.1 rfl

end Ended

/-- A loop that transfers: with the portions that are moved it carries some value, and in
the end it returns some value with the result. -/
structure Transfers {S X R : Type} (world : S → σ) (pass : X → StateM S (X ⊕ R))
    (ask : ℕ → σ → Except ε (List α) × σ) (again : ε → Prop) (failure : Except ε (List α) → ρ)
    (size : ℕ) (carried : List α → X) (finish : List α → Except ρ Unit → R) : Prop where
  fits : ∀ pos w part w', pos ≤ size → ask pos w = (.ok part, w') → part.length ≤ size - pos
  done : ∀ past s, past.length = size → pass (carried past) s = (.inr (finish past (.ok ())), s)
  passes : ∀ past s answer w, past.length < size → ask past.length (world s) = (answer, w) →
    (Call.mk past.length (size - past.length) answer).Passes again → ∃ s', world s' = w ∧
      pass (carried past) s =
        (.inl (carried (past ++ (Call.mk past.length (size - past.length) answer).moved)), s')
  stops : ∀ past s answer w, past.length < size → ask past.length (world s) = (answer, w) →
    ¬ (Call.mk past.length (size - past.length) answer).Passes again → ∃ s', world s' = w ∧
      pass (carried past) s = (.inr (finish past (.error (failure answer))), s')

namespace Transfers

variable {S X R : Type} {world : S → σ} {pass : X → StateM S (X ⊕ R)} {carried : List α → X}
  {finish : List α → Except ρ Unit → R} {past : List α} {s s' : S}
  (h : Transfers world pass ask again failure size carried finish)
include h

/-- Either all is moved, or one call more is made, and its answer decides. -/
theorem round (past : List α) (start : past.length ≤ size) (s : S) :
    past.length = size ∧ pass (carried past) s = (.inr (finish past (.ok ())), s) ∨
      past.length < size ∧ ∃ answer s', ask past.length (world s) = (answer, world s') ∧
        ((Call.mk past.length (size - past.length) answer).Passes again ∧
            pass (carried past) s = (.inl (carried
              (past ++ (Call.mk past.length (size - past.length) answer).moved)), s') ∨
          ¬ (Call.mk past.length (size - past.length) answer).Passes again ∧
            pass (carried past) s = (.inr (finish past (.error (failure answer))), s')) := by
  rcases Nat.eq_or_lt_of_le start with all | some_left
  · exact .inl ⟨all, h.done past s all⟩
  · refine .inr ⟨some_left, ?_⟩
    cases answered : ask past.length (world s) with
    | mk answer w =>
      by_cases going : (Call.mk past.length (size - past.length) answer).Passes again
      · obtain ⟨s', rfl, once⟩ := h.passes past s answer w some_left answered going
        exact ⟨answer, s', rfl, .inl ⟨going, once⟩⟩
      · obtain ⟨s', rfl, once⟩ := h.stops past s answer w some_left answered going
        exact ⟨answer, s', rfl, .inr ⟨going, once⟩⟩

theorem of_inl (past : List α) (start : past.length ≤ size) {next : X}
    (once : pass (carried past) s = (.inl next, s')) :
    ∃ answer, ask past.length (world s) = (answer, world s') ∧
      next = carried (past ++ (Call.mk past.length (size - past.length) answer).moved) := by
  rcases h.round past start s with ⟨-, done⟩ | ⟨-, answer, s₁, answered, passed | stopped⟩
  · rw [done] at once
    cases once
  · rw [passed.2] at once
    cases once
    exact ⟨answer, answered, rfl⟩
  · rw [stopped.2] at once
    cases once

theorem of_inr (past : List α) (start : past.length ≤ size) {r : R}
    (once : pass (carried past) s = (.inr r, s')) :
    (past.length = size ∧ r = finish past (.ok ()) ∧ s' = s) ∨
      ∃ answer, r = finish past (.error (failure answer)) := by
  rcases h.round past start s with ⟨all, done⟩ | ⟨-, answer, s₁, -, passed | stopped⟩
  · rw [done] at once
    cases once
    exact .inl ⟨all, rfl, rfl⟩
  · rw [passed.2] at once
    cases once
  · rw [stopped.2] at once
    cases once
    exact .inr ⟨answer, rfl⟩

/-- The induction is on the rounds; each of them makes one call more. -/
theorem run (rounds : ℕ) (past : List α) (start : past.length ≤ size) (s : S) :
    ∃ calls ended,
      Answered ask size past.length (world s) calls
        (world (Qsox.passes pass (carried past) rounds s).2) ∧
      Ended again failure (size - past.length) rounds calls ended ∧
      (Qsox.passes pass (carried past) rounds s).1 = ended.map (finish (past ++ moved calls)) := by
  induction rounds generalizing past s with
  | zero => exact ⟨[], none, .none, ⟨rfl, nofun⟩, rfl⟩
  | succ rounds ih =>
    rcases h.round past start s with ⟨all, done⟩ |
      ⟨some_left, answer, s', answered, ⟨going, once⟩ | ⟨going, once⟩⟩
    · rw [passes_of_inr done]
      refine ⟨[], some (.ok ()), .none, ⟨?_, nofun⟩, ?_⟩
      · exact (Nat.sub_eq_zero_of_le all.ge).symm
      · rw [moved_nil, List.append_nil]
        rfl
    · have within : (Call.mk past.length (size - past.length) answer).moved.length ≤
          size - past.length := by
        cases answer with
        | error code => exact Nat.zero_le _
        | ok part => exact h.fits _ _ _ _ start answered
      obtain ⟨calls, ended, others, rest, returned⟩ := ih
        (past ++ (Call.mk past.length (size - past.length) answer).moved)
        (by rw [List.length_append]; omega) s'
      rw [passes_of_inl once]
      rw [List.length_append] at others rest
      refine ⟨_, ended, .call answered others, .pass going within ?_, ?_⟩
      · rwa [Nat.sub_sub]
      · rw [returned, moved_cons, List.append_assoc]
    · rw [passes_of_inr once]
      refine ⟨_, _, .call answered .none, .stop (by omega) going, ?_⟩
      rw [moved_cons, Call.moved_of_not_passes going]
      simp

end Transfers
end
end
end Qsox.Portions
