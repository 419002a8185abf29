import Mathlib.Tactic.Common

/-! Pre- and postconditions of programs over a state. A postcondition sees the
value returned; the rules follow the shape of the program. -/

namespace Qsox

variable {S α β : Type}

theorem bind_of_eq {program : StateM S α} {next : α → StateM S β} {s s' : S} {a : α}
    (h : program s = (a, s')) : (program >>= next) s = next a s' := by
  simp only [bind, StateT.bind, h]

theorem map_of_eq {program : StateM S α} {f : α → β} {s s' : S} {a : α}
    (h : program s = (a, s')) : (f <$> program) s = (f a, s') := by
  simp only [Functor.map, StateT.map, h]
  rfl

/-- From every state with `P` the program ends with `Q` of its value and state. -/
def Ensures (P : S → Prop) (program : StateM S α) (Q : α → S → Prop) : Prop :=
  ∀ s, P s → Q (program s).1 (program s).2

namespace Ensures

variable {P P' : S → Prop} {Q Q' : α → S → Prop}

theorem pure {a : α} (h : ∀ s, P s → Q a s) : Ensures P (pure a) Q := h

theorem bind (Q : α → S → Prop) {program : StateM S α} {next : α → StateM S β}
    {R : β → S → Prop} (first : Ensures P program Q) (rest : ∀ a, Ensures (Q a) (next a) R) :
    Ensures P (program >>= next) R :=
  fun s hs => rest _ _ (first s hs)

theorem map {program : StateM S α} {f : α → β} {R : β → S → Prop}
    (h : Ensures P program fun a s => R (f a) s) : Ensures P (f <$> program) R := h

theorem ite {c : Prop} [Decidable c] {yes no : StateM S α} (pos : c → Ensures P yes Q)
    (neg : ¬ c → Ensures P no Q) : Ensures P (if c then yes else no) Q := by
  split_ifs with h
  · exact pos h
  · exact neg h

theorem strengthen {program : StateM S α} (pre : ∀ s, P' s → P s) (h : Ensures P program Q) :
    Ensures P' program Q :=
  fun s hs => h s (pre s hs)

theorem weaken {program : StateM S α} (h : Ensures P program Q) (post : ∀ a s, Q a s → Q' a s) :
    Ensures P program Q' :=
  fun s hs => post _ _ (h s hs)

theorem of_value {program : StateM S α} (h : ∀ a s, Q a s) : Ensures P program Q :=
  fun _ _ => h _ _

theorem absurd {program : StateM S α} (h : ∀ s, ¬ P s) : Ensures P program Q :=
  fun s hs => False.elim (h s hs)

end Ensures

def Always (good : α → Prop) (program : StateM S α) : Prop := ∀ s, good (program s).1

namespace Always

variable {good : α → Prop} {good' : β → Prop}

theorem pure {a : α} (h : good a) : Always good (pure a : StateM S α) := fun _ => h

theorem bind {program : StateM S α} {next : α → StateM S β} (first : Always good program)
    (rest : ∀ a, good a → Always good' (next a)) : Always good' (program >>= next) :=
  fun s => rest _ (first s) _

theorem rest {program : StateM S α} {next : α → StateM S β} (h : ∀ a, Always good' (next a)) :
    Always good' (program >>= next) :=
  fun _ => h _ _

theorem ite {c : Prop} [Decidable c] {yes no : StateM S α} (pos : c → Always good yes)
    (neg : ¬ c → Always good no) : Always good (if c then yes else no) := by
  split_ifs with h
  · exact pos h
  · exact neg h

end Always

/-- `while (true)`, observed for a number of rounds; `none` while none of them
has returned. -/
def whileTrue (round : StateM S (Option α)) : ℕ → StateM S (Option α)
  | 0 => pure none
  | rounds + 1 => do
    match ← round with
    | some r => return some r
    | none => whileTrue round rounds

theorem Always.whileTrue {round : StateM S (Option α)} {good : Option α → Prop} (going : good none)
    (h : Always good round) (rounds : ℕ) : Always good (whileTrue round rounds) := by
  induction rounds with
  | zero => exact Always.pure going
  | succ rounds ih =>
    refine Always.bind h fun out returned => ?_
    cases out with
    | none => exact ih
    | some r => exact Always.pure returned

section
variable {round : StateM S (Option α)} {s s' : S} {r : α}

theorem whileTrue_of_some (once : round s = (some r, s')) (rounds : ℕ) :
    whileTrue round (rounds + 1) s = (some r, s') := by
  simp only [whileTrue, bind, StateT.bind, once]
  rfl

theorem whileTrue_of_none (once : round s = (none, s')) (rounds : ℕ) :
    whileTrue round (rounds + 1) s = whileTrue round rounds s' := by
  simp only [whileTrue, bind, StateT.bind, once]

theorem whileTrue_stable {n m : ℕ} (h : (whileTrue round n s).1 = some r) (more : n ≤ m) :
    whileTrue round m s = whileTrue round n s := by
  induction n generalizing s m with
  | zero => cases h
  | succ n ih =>
    obtain ⟨m, rfl⟩ := Nat.exists_eq_succ_of_ne_zero (by omega : m ≠ 0)
    cases once : round s with
    | mk out s' =>
      cases out with
      | some r => rw [whileTrue_of_some once, whileTrue_of_some once]
      | none =>
        rw [whileTrue_of_none once] at h
        rw [whileTrue_of_none once, whileTrue_of_none once]
        exact ih h (Nat.le_of_succ_le_succ more)

end

/-- A loop that carries a value from one pass to the next, observed for a number of
passes; `none` while none of them has returned. -/
def passes {X : Type} (pass : X → StateM S (X ⊕ α)) (x : X) : ℕ → StateM S (Option α)
  | 0 => pure none
  | rounds + 1 => do
    match ← pass x with
    | .inl next => passes pass next rounds
    | .inr r => return some r

section
variable {X : Type} {pass : X → StateM S (X ⊕ α)} {x next : X} {s s' : S} {r : α}

theorem passes_of_inl (once : pass x s = (.inl next, s')) (rounds : ℕ) :
    passes pass x (rounds + 1) s = passes pass next rounds s' := by
  rw [passes, bind_of_eq once]

theorem passes_of_inr (once : pass x s = (.inr r, s')) (rounds : ℕ) :
    passes pass x (rounds + 1) s = (some r, s') := by
  rw [passes, bind_of_eq once]
  rfl

theorem Always.passes {good : Option α → Prop} (going : good none)
    (h : ∀ x, Always (fun out => ∀ r, out = .inr r → good (some r)) (pass x)) (x : X) (rounds : ℕ) :
    Always good (passes pass x rounds) := by
  induction rounds generalizing x with
  | zero => exact Always.pure going
  | succ rounds ih =>
    refine Always.bind (h x) fun out returned => ?_
    cases out with
    | inl next => exact ih next
    | inr r => exact Always.pure (returned r rfl)

end

/-- `I` while a loop goes on, `Q` once it has returned. -/
def Going (I : S → Prop) (Q : α → S → Prop) : Option α → S → Prop
  | none => I
  | some r => Q r

theorem Ensures.returned {P I : S → Prop} {program : StateM S (Option α)} {Q : α → S → Prop}
    (h : Ensures P program (Going I Q)) : Ensures P program (Going (fun _ => True) Q) := by
  refine h.weaken ?_
  intro out s hs
  cases out with
  | none => trivial
  | some r => exact hs

theorem Ensures.whileTrue {round : StateM S (Option α)} {I : S → Prop} {Q : α → S → Prop}
    (step : Ensures I round (Going I Q)) (rounds : ℕ) :
    Ensures I (whileTrue round rounds) (Going I Q) := by
  induction rounds with
  | zero => exact fun s hs => hs
  | succ rounds ih =>
    refine Ensures.bind _ step ?_
    intro out
    cases out with
    | some r => exact fun s hs => hs
    | none => exact ih

/-- From every state with `P` the program returns, and its end is the same for every
number of rounds that is enough. -/
def Terminates (P : S → Prop) (enough : ℕ) (program : ℕ → StateM S (Option α)) : Prop :=
  ∀ s, P s → ∃ r s', ∀ rounds, enough ≤ rounds → program rounds s = (some r, s')

namespace Terminates

variable {P P' : S → Prop} {enough : ℕ} {program : ℕ → StateM S (Option α)}

theorem once {program : StateM S (Option α)} (h : Ensures P program fun out _ => out ≠ none) :
    Terminates P enough fun _ => program := by
  intro s hs
  obtain ⟨r, returned⟩ := Option.ne_none_iff_exists'.mp (h s hs)
  exact ⟨r, (program s).2, fun _ _ => Prod.ext returned rfl⟩

theorem strengthen (pre : ∀ s, P' s → P s) (h : Terminates P enough program) :
    Terminates P' enough program :=
  fun s hs => h s (pre s hs)

theorem more {plenty : ℕ} (less : enough ≤ plenty) (h : Terminates P enough program) :
    Terminates P plenty program := by
  intro s hs
  obtain ⟨r, s', ended⟩ := h s hs
  exact ⟨r, s', fun rounds many => ended rounds (Nat.le_trans less many)⟩

theorem succ (h : Terminates P enough fun rounds => program (rounds + 1)) :
    Terminates P (enough + 1) program := by
  intro s hs
  obtain ⟨r, s', ended⟩ := h s hs
  refine ⟨r, s', fun rounds many => ?_⟩
  obtain ⟨rounds, rfl⟩ := Nat.exists_eq_add_of_le' (Nat.le_of_add_left_le many)
  exact ended rounds (Nat.le_of_succ_le_succ many)

theorem bind (Q : β → S → Prop) {first : StateM S β} {next : β → ℕ → StateM S (Option α)}
    (h : Ensures P first Q) (rest : ∀ b, Terminates (Q b) enough (next b)) :
    Terminates P enough fun rounds => first >>= fun b => next b rounds :=
  fun s hs => rest _ _ (h s hs)

theorem followed {next : Option α → StateM S (Option β)} (h : Terminates P enough program)
    (rest : ∀ a, Always (· ≠ none) (next (some a))) :
    Terminates P enough fun rounds => program rounds >>= next := by
  intro s hs
  obtain ⟨r, s', ended⟩ := h s hs
  obtain ⟨b, returned⟩ := Option.ne_none_iff_exists'.mp (rest r s')
  refine ⟨b, (next (some r) s').2, fun rounds many => ?_⟩
  change (program rounds >>= next) s = _
  rw [bind_of_eq (ended rounds many)]
  exact Prod.ext returned rfl

theorem map {f : Option α → Option β} (h : Terminates P enough program)
    (kept : ∀ a, f (some a) ≠ none) : Terminates P enough fun rounds => f <$> program rounds := by
  intro s hs
  obtain ⟨r, s', ended⟩ := h s hs
  obtain ⟨b, returned⟩ := Option.ne_none_iff_exists'.mp (kept r)
  refine ⟨b, s', fun rounds many => ?_⟩
  change (f <$> program rounds) s = _
  rw [map_of_eq (ended rounds many), returned]

theorem ite {c : Prop} [Decidable c] {yes no : ℕ → StateM S (Option α)}
    (pos : c → Terminates P enough yes) (neg : ¬ c → Terminates P enough no) :
    Terminates P enough fun rounds => if c then yes rounds else no rounds := by
  split_ifs with h
  · exact pos h
  · exact neg h

theorem whileTrue {I : ℕ → S → Prop} {round : StateM S (Option α)}
    (step : ∀ rank, Ensures (I rank) round fun out s => out = none → ∃ lower < rank, I lower s)
    (rank : ℕ) : Terminates (I rank) (rank + 1) (whileTrue round) := by
  induction rank using Nat.strongRecOn with
  | _ rank ih =>
    refine succ (bind _ (step rank) fun out => ?_)
    cases out with
    | some r => exact once (Ensures.pure fun _ _ => Option.some_ne_none r)
    | none =>
      intro s going
      obtain ⟨lower, less, hs⟩ := going rfl
      exact (ih lower less).more less s hs

theorem passes {X : Type} {I : X → ℕ → S → Prop} {pass : X → StateM S (X ⊕ α)}
    (step : ∀ x rank, Ensures (I x rank) (pass x)
      fun out s => ∀ next, out = .inl next → ∃ lower < rank, I next lower s)
    (x : X) (rank : ℕ) : Terminates (I x rank) (rank + 1) (passes pass x) := by
  induction rank using Nat.strongRecOn generalizing x with
  | _ rank ih =>
    refine succ (bind _ (step x rank) fun out => ?_)
    cases out with
    | inr r => exact once (Ensures.pure fun _ _ => Option.some_ne_none r)
    | inl next =>
      intro s going
      obtain ⟨lower, less, hs⟩ := going next rfl
      exact (ih lower less next).more less s hs

end Terminates

def Keeps {S α β : Type} (view : S → β) (program : StateM S α) : Prop :=
  ∀ s, view (program s).2 = view s

namespace Keeps

variable {γ : Type} {view : S → γ}

theorem pure (a : α) : Keeps view (pure a : StateM S α) := fun _ => rfl

theorem bind {program : StateM S α} {next : α → StateM S β} (first : Keeps view program)
    (rest : ∀ a, Keeps view (next a)) : Keeps view (program >>= next) :=
  fun s => (rest _ _).trans (first s)

theorem bindWhere {good : α → Prop} {program : StateM S α} {next : α → StateM S β}
    (first : Keeps view program) (returned : Always good program)
    (rest : ∀ a, good a → Keeps view (next a)) : Keeps view (program >>= next) :=
  fun s => (rest _ (returned s) _).trans (first s)

theorem map {program : StateM S α} (f : α → β) (h : Keeps view program) :
    Keeps view (f <$> program) := h

theorem ite {c : Prop} [Decidable c] {yes no : StateM S α} (pos : Keeps view yes)
    (neg : Keeps view no) : Keeps view (if c then yes else no) := by
  split_ifs
  · exact pos
  · exact neg

theorem whileTrue {round : StateM S (Option α)} (h : Keeps view round) (rounds : ℕ) :
    Keeps view (whileTrue round rounds) := by
  induction rounds with
  | zero => exact Keeps.pure none
  | succ rounds ih =>
    refine Keeps.bind h fun out => ?_
    cases out with
    | none => exact ih
    | some r => exact Keeps.pure (some r)

theorem holds {program : StateM S α} (h : Keeps view program) (Q : γ → Prop) :
    Ensures (fun s => Q (view s)) program fun _ s => Q (view s) := by
  intro s hs
  rwa [h s]

end Keeps

/-- The program adds entries with the property behind those that are there. -/
def Adds {S α ε : Type} (list : S → List ε) (P : ε → Prop) (program : StateM S α) : Prop :=
  ∀ s, ∃ more, list (program s).2 = list s ++ more ∧ ∀ e ∈ more, P e

namespace Adds

variable {ε : Type} {list : S → List ε} {P P' : ε → Prop}

theorem pure (a : α) : Adds list P (pure a : StateM S α) :=
  fun s => ⟨[], (List.append_nil (list s)).symm, nofun⟩

theorem bind {program : StateM S α} {next : α → StateM S β} (first : Adds list P program)
    (rest : ∀ a, Adds list P (next a)) : Adds list P (program >>= next) := by
  intro s
  obtain ⟨some, added, good⟩ := first s
  obtain ⟨others, added', good'⟩ := rest (program s).1 (program s).2
  refine ⟨some ++ others, ?_, ?_⟩
  · rw [← List.append_assoc, ← added]
    exact added'
  · intro e he
    rcases List.mem_append.mp he with he | he
    · exact good e he
    · exact good' e he

theorem map {program : StateM S α} (f : α → β) (h : Adds list P program) :
    Adds list P (f <$> program) := h

theorem weaken {program : StateM S α} (h : Adds list P program) (weaker : ∀ e, P e → P' e) :
    Adds list P' program := by
  intro s
  obtain ⟨more, added, good⟩ := h s
  exact ⟨more, added, fun e he => weaker e (good e he)⟩

theorem ite {c : Prop} [Decidable c] {yes no : StateM S α} (pos : Adds list P yes)
    (neg : Adds list P no) : Adds list P (if c then yes else no) := by
  split_ifs
  · exact pos
  · exact neg

theorem whileTrue {round : StateM S (Option α)} (h : Adds list P round) (rounds : ℕ) :
    Adds list P (whileTrue round rounds) := by
  induction rounds with
  | zero => exact Adds.pure none
  | succ rounds ih =>
    refine Adds.bind h fun out => ?_
    cases out with
    | none => exact ih
    | some r => exact Adds.pure (some r)

theorem passes {X : Type} {pass : X → StateM S (X ⊕ α)} (h : ∀ x, Adds list P (pass x)) (x : X)
    (rounds : ℕ) : Adds list P (passes pass x rounds) := by
  induction rounds generalizing x with
  | zero => exact Adds.pure none
  | succ rounds ih =>
    refine Adds.bind (h x) fun out => ?_
    cases out with
    | inl next => exact ih next
    | inr r => exact Adds.pure (some r)

theorem of_keeps {view : S → ε} {program : StateM S α} (h : Keeps view program) :
    Adds (fun s => [view s]) P program :=
  fun s => ⟨[], congrArg (fun seen => [seen]) (h s), nofun⟩

theorem keeps {view : S → ε} {program : StateM S α}
    (h : Adds (fun s => [view s]) (fun _ => False) program) : Keeps view program := by
  intro s
  obtain ⟨more, added, none⟩ := h s
  obtain rfl : more = [] := List.eq_nil_iff_forall_not_mem.mpr none
  exact List.head_eq_of_cons_eq added

end Adds

end Qsox
