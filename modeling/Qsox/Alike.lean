import Qsox.Hoare

/-! Two programs side by side, each over a state of its own: from related states they
return the same, and related states are what they end in. The rules follow the shape
that both programs have. Then actions in a row, some of which leave the relation alone:
the others do as if these had not been. -/

namespace Qsox

/-- The relation before, and the one after, as to what is returned. -/
def Alike {S T α : Type} (R : S → T → Prop) (program : StateM S α) (other : StateM T α)
    (R' : α → S → T → Prop) : Prop :=
  ∀ s t, R s t → (program s).1 = (other t).1 ∧ R' (program s).1 (program s).2 (other t).2

namespace Alike

section
variable {S T α β : Type} {R Q : S → T → Prop} {R' Q' : α → S → T → Prop} {R'' : β → S → T → Prop}

theorem pure (a : α) (kept : ∀ s t, R s t → R' a s t) :
    Alike R (pure a : StateM S α) (pure a : StateM T α) R' :=
  fun s t h => ⟨rfl, kept s t h⟩

theorem same (a : α) : Alike R (Pure.pure a : StateM S α) (Pure.pure a : StateM T α) fun _ => R :=
  pure a fun _ _ h => h

theorem refl (program : StateM S α) : Alike Eq program program fun _ => Eq := by
  rintro s t rfl
  exact ⟨rfl, rfl⟩

theorem bind {program : StateM S α} {other : StateM T α} {next : α → StateM S β}
    {next' : α → StateM T β} (first : Alike R program other R')
    (rest : ∀ a, Alike (R' a) (next a) (next' a) R'') :
    Alike R (program >>= next) (other >>= next') R'' := by
  intro s t h
  obtain ⟨same, related⟩ := first s t h
  have after := rest (program s).1 _ _ related
  change (next (program s).1 (program s).2).1 = (next' (other t).1 (other t).2).1 ∧
    R'' (next (program s).1 (program s).2).1 (next (program s).1 (program s).2).2
      (next' (other t).1 (other t).2).2
  rw [← same]
  exact after

theorem map {program : StateM S α} {other : StateM T α} (f : α → β)
    (h : Alike R program other fun _ => Q) : Alike R (f <$> program) (f <$> other) fun _ => Q := by
  intro s t before
  obtain ⟨same, related⟩ := h s t before
  exact ⟨congrArg f same, related⟩

theorem ite {c : Prop} [Decidable c] {yes no : StateM S α} {yes' no' : StateM T α}
    (pos : Alike R yes yes' R') (neg : Alike R no no' R') :
    Alike R (if c then yes else no) (if c then yes' else no') R' := by
  split_ifs
  · exact pos
  · exact neg

theorem strengthen {program : StateM S α} {other : StateM T α} (pre : ∀ s t, R s t → Q s t)
    (h : Alike Q program other R') : Alike R program other R' :=
  fun s t before => h s t (pre s t before)

theorem weaken {program : StateM S α} {other : StateM T α} (h : Alike R program other Q')
    (post : ∀ a s t, Q' a s t → R' a s t) : Alike R program other R' := by
  intro s t before
  obtain ⟨same, related⟩ := h s t before
  exact ⟨same, post _ _ _ related⟩

theorem whileTrue {round : StateM S (Option α)} {round' : StateM T (Option α)}
    (h : Alike R round round' fun _ => R) (rounds : ℕ) :
    Alike R (whileTrue round rounds) (whileTrue round' rounds) fun _ => R := by
  induction rounds with
  | zero => exact Alike.same none
  | succ rounds ih =>
    refine Alike.bind h fun out => ?_
    cases out with
    | none => exact ih
    | some r => exact Alike.same (some r)

theorem passes {X : Type} {pass : X → StateM S (X ⊕ α)} {pass' : X → StateM T (X ⊕ α)}
    (h : ∀ x, Alike R (pass x) (pass' x) fun _ => R) (x : X) (rounds : ℕ) :
    Alike R (passes pass x rounds) (passes pass' x rounds) fun _ => R := by
  induction rounds generalizing x with
  | zero => exact Alike.same none
  | succ rounds ih =>
    refine Alike.bind (h x) fun out => ?_
    cases out with
    | inl next => exact ih next
    | inr r => exact Alike.same (some r)

end
end Alike

section
variable {A : Type} {Result : A → Type} {S T : Type}

def inTurn (run : (a : A) → StateM S (Result a)) : List A → StateM S (List ((a : A) × Result a))
  | [] => pure []
  | a :: as => do
    let result ← run a
    let others ← inTurn run as
    return ⟨a, result⟩ :: others

variable {run : (a : A) → StateM S (Result a)} {run' : (a : A) → StateM T (Result a)}
  {R : S → T → Prop}

theorem Alike.inTurn (h : ∀ a, Alike R (run a) (run' a) fun _ => R) (as : List A) :
    Alike R (Qsox.inTurn run as) (Qsox.inTurn run' as) fun _ => R := by
  induction as with
  | nil => exact Alike.same []
  | cons a as ih => exact Alike.bind (h a) fun result => Alike.bind ih fun others => Alike.same _

@[simp] theorem inTurn_actions (run : (a : A) → StateM S (Result a)) (as : List A) (s : S) :
    (inTurn run as s).1.map Sigma.fst = as := by
  induction as generalizing s with
  | nil => rfl
  | cons a as ih => exact congrArg (a :: ·) (ih (run a s).2)

theorem inTurn_filter (run : (a : A) → StateM S (Result a)) (visible : A → Bool) (as : List A)
    (s : S) :
    ((inTurn run as s).1.filter fun done => visible done.1).map Sigma.fst = as.filter visible := by
  have left := List.filter_map (f := Sigma.fst) (p := visible) (l := (inTurn run as s).1)
  rw [inTurn_actions] at left
  exact left.symm

/-- What is visible goes on as if there were nothing else: in the row with all actions,
and in the one without those whose results were not to be noticed, as much is shown. -/
theorem inTurn_visible {γ : Type} (run : (a : A) → StateM S (Result a))
    (run' : (a : A) → StateM T (Result a)) (visible : ((a : A) × Result a) → Bool)
    (shown : ((a : A) × Result a) → γ) (as : List A)
    (consistent : ∀ a ∈ as, ∀ s t, R s t → visible ⟨a, (run a s).1⟩ = true →
      shown ⟨a, (run a s).1⟩ = shown ⟨a, (run' a t).1⟩ ∧ R (run a s).2 (run' a t).2)
    (unnoticed : ∀ a ∈ as, ∀ s t, R s t → visible ⟨a, (run a s).1⟩ = false → R (run a s).2 t)
    {s : S} {t : T} (related : R s t) :
    ((inTurn run as s).1.filter visible).map shown =
        (inTurn run' (((inTurn run as s).1.filter visible).map Sigma.fst) t).1.map shown ∧
      R (inTurn run as s).2
        (inTurn run' (((inTurn run as s).1.filter visible).map Sigma.fst) t).2 := by
  induction as generalizing s t with
  | nil => exact ⟨rfl, related⟩
  | cons a as ih =>
    have later := fun {s : S} {t : T} => ih
      (fun b there => consistent b (List.mem_cons_of_mem a there))
      (fun b there => unnoticed b (List.mem_cons_of_mem a there)) (s := s) (t := t)
    have all : (inTurn run (a :: as) s).1 =
      ⟨a, (run a s).1⟩ :: (inTurn run as (run a s).2).1 := rfl
    cases seen : visible ⟨a, (run a s).1⟩ with
    | true =>
      obtain ⟨answer, after⟩ := consistent a List.mem_cons_self s t related seen
      obtain ⟨results, kept⟩ := later after
      rw [all, List.filter_cons_of_pos seen, List.map_cons]
      refine ⟨?_, kept⟩
      rw [List.map_cons, answer, results]
      rfl
    | false =>
      rw [all, List.filter_cons_of_neg (by rw [seen]; exact Bool.false_ne_true)]
      exact later (unnoticed a List.mem_cons_self s t related seen)

end
end Qsox
