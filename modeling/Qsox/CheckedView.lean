import Mathlib.Data.List.Basic

/-! Programs over views of a sequence. An operation that does not fit the view
steps outside, and nothing that follows makes up for it; otherwise a program
fails with an error or is done. -/

namespace Qsox

inductive Checked (ε α : Type) where
  | outside
  | failed (e : ε)
  | done (a : α)
  deriving DecidableEq, Repr

namespace Checked

variable {ε ε' α β σ : Type}

def andThen (x : Checked ε α) (next : α → Checked ε β) : Checked ε β :=
  match x with
  | outside => outside
  | failed e => failed e
  | done a => next a

instance : Monad (Checked ε) where
  pure := done
  bind := andThen

@[simp] theorem pure_eq (a : α) : (pure a : Checked ε α) = done a := rfl

@[simp] theorem done_bind (a : α) (next : α → Checked ε β) : (done a >>= next) = next a := rfl

def mapError (f : ε → ε') : Checked ε α → Checked ε' α
  | outside => outside
  | failed e => failed (f e)
  | done a => done a

def Inside (x : Checked ε α) : Prop := x ≠ outside

def ofResult : Except ε α → Checked ε α
  | .error e => failed e
  | .ok a => done a

theorem inside_ofResult (x : Except ε α) : (ofResult x).Inside := by
  cases x with
  | error e => exact nofun
  | ok a => exact nofun

@[simp] theorem ofResult_bind (x : Except ε α) (next : α → Except ε β) :
    ofResult (x >>= next) = ofResult x >>= fun a => ofResult (next a) := by
  cases x with
  | error e => rfl
  | ok a => rfl

theorem foldlM_ofResult {round : σ → α → Checked ε σ} {plain : σ → α → Except ε σ}
    (same : ∀ s a, round s a = ofResult (plain s a)) (rounds : List α) (s : σ) :
    rounds.foldlM round s = ofResult (rounds.foldlM plain s) := by
  induction rounds generalizing s with
  | nil => rfl
  | cons a rounds ih =>
    rw [List.foldlM_cons, List.foldlM_cons, ofResult_bind, same]
    congr 1
    funext s'
    exact ih s'

def substr (view : List α) (pos count : ℕ) : Checked ε (List α) :=
  if pos ≤ view.length then done ((view.drop pos).take count) else outside

def substrFrom (view : List α) (pos : ℕ) : Checked ε (List α) :=
  if pos ≤ view.length then done (view.drop pos) else outside

def removePrefix (view : List α) (n : ℕ) : Checked ε (List α) :=
  if n ≤ view.length then done (view.drop n) else outside

def removeSuffix (view : List α) (n : ℕ) : Checked ε (List α) :=
  if n ≤ view.length then done (view.take (view.length - n)) else outside

def front (view : List α) : Checked ε α :=
  match view.head? with
  | none => outside
  | some a => done a

def back (view : List α) : Checked ε α :=
  match view.getLast? with
  | none => outside
  | some a => done a

theorem substr_of_le {view : List α} {pos : ℕ} (fits : pos ≤ view.length) (count : ℕ) :
    (substr view pos count : Checked ε (List α)) = done ((view.drop pos).take count) := if_pos fits

theorem substrFrom_of_le {view : List α} {pos : ℕ} (fits : pos ≤ view.length) :
    (substrFrom view pos : Checked ε (List α)) = done (view.drop pos) := if_pos fits

theorem removePrefix_of_le {view : List α} {n : ℕ} (fits : n ≤ view.length) :
    (removePrefix view n : Checked ε (List α)) = done (view.drop n) := if_pos fits

theorem removeSuffix_of_le {view : List α} {n : ℕ} (fits : n ≤ view.length) :
    (removeSuffix view n : Checked ε (List α)) = done (view.take (view.length - n)) := if_pos fits

theorem front_of_head {view : List α} {a : α} (h : view.head? = some a) :
    (front view : Checked ε α) = done a := by
  rw [front, h]

theorem back_of_getLast {view : List α} {a : α} (h : view.getLast? = some a) :
    (back view : Checked ε α) = done a := by
  rw [back, h]

end Checked
end Qsox
