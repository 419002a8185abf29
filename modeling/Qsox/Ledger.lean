import Mathlib.Data.List.Induction
import Mathlib.Logic.Function.Basic

/-! A ledger of resources that have one owner: each is opened, then closed by its
owner or released, and a released one is disposed of elsewhere. Names may come
back after that. The ledger is the chronological list of what was done. -/

namespace Qsox

namespace Ledger

inductive Standing
  | free
  | owned
  | released
  deriving DecidableEq, Repr

inductive Event (α : Type)
  | opened (a : α)
  | closed (a : α)
  | released (a : α)
  | disposed (a : α)
  deriving DecidableEq, Repr

variable {α : Type}

namespace Event

def name : Event α → α
  | opened a | closed a | released a | disposed a => a

def before : Event α → Standing
  | opened _ => .free
  | closed _ | released _ => .owned
  | disposed _ => .released

def after : Event α → Standing
  | opened _ => .owned
  | closed _ | disposed _ => .free
  | released _ => .released

def Opens : Event α → Prop
  | opened _ => True
  | _ => False

end Event

variable [DecidableEq α]

/-- What the events of the name have made of it. -/
def standing (log : List (Event α)) (a : α) : Standing :=
  log.foldl (fun s event => if event.name = a then event.after else s) .free

@[simp] theorem standing_nil (a : α) : standing ([] : List (Event α)) a = .free := rfl

theorem standing_append (log : List (Event α)) (event : Event α) (a : α) :
    standing (log ++ [event]) a = if event.name = a then event.after else standing log a := by
  simp only [standing, List.foldl_append, List.foldl_cons, List.foldl_nil]

theorem standing_append_self {event : Event α} {a : α} (same : event.name = a)
    (log : List (Event α)) : standing (log ++ [event]) a = event.after := by
  rw [standing_append, if_pos same]

theorem standing_append_other {event : Event α} {a : α} (other : event.name ≠ a)
    (log : List (Event α)) : standing (log ++ [event]) a = standing log a := by
  rw [standing_append, if_neg other]

theorem standing_aborted {log : List (Event α)} {a : α} (free : standing log a = .free) (b : α) :
    standing (log ++ [.opened a] ++ [.closed a]) b = standing log b := by
  by_cases same : a = b
  · subst same
    rw [standing_append_self (by rfl), free]
    rfl
  · rw [standing_append_other (by exact same), standing_append_other (by exact same)]

/-- What holds of every entry of a log, with the entries before it. -/
def Each {β : Type} (R : List β → β → Prop) (log : List β) : Prop :=
  ∀ past entry future, log = past ++ entry :: future → R past entry

section
variable {β : Type} {R : List β → β → Prop} {log : List β}

theorem each_nil (R : List β → β → Prop) : Each R [] := by
  intro past entry future same
  exact absurd same.symm (List.append_ne_nil_of_right_ne_nil _ (List.cons_ne_nil _ _))

theorem each_append {entry : β} : Each R (log ++ [entry]) ↔ Each R log ∧ R log entry := by
  constructor
  · intro h
    refine ⟨fun past e future same => ?_, h log entry [] rfl⟩
    exact h past e (future ++ [entry]) (by rw [same]; simp)
  · intro ⟨earlier, last⟩ past e future same
    rcases List.eq_nil_or_concat future with rfl | ⟨future, e', rfl⟩
    · obtain ⟨rfl, only⟩ := List.append_inj' same rfl
      obtain rfl := List.singleton_inj.mp only
      exact last
    · have longer : log ++ [entry] = (past ++ e :: future) ++ [e'] := by
        rw [same]
        simp
      exact earlier past e future (List.append_inj' longer rfl).1

theorem each_append_list {more : List β} :
    Each R (log ++ more) ↔ Each R log ∧ Each (fun past => R (log ++ past)) more := by
  induction more using List.reverseRecOn with
  | nil => simp [each_nil]
  | append_singleton more entry ih =>
    rw [← List.append_assoc, each_append, each_append, ih, and_assoc]

theorem Each.of_append {more : List β} (h : Each R (log ++ more)) : Each R log := by
  intro past entry future same
  exact h past entry (future ++ more) (by rw [same]; simp)

end

/-- Every event of the kinds in question comes in order. -/
def InOrder (kind : Event α → Prop) (log : List (Event α)) : Prop :=
  ∀ past event future, log = past ++ event :: future → kind event →
    standing past event.name = event.before

theorem inOrder_nil (kind : Event α → Prop) : InOrder kind [] := each_nil _

theorem inOrder_append {kind : Event α → Prop} {log : List (Event α)} {event : Event α} :
    InOrder kind (log ++ [event]) ↔
      InOrder kind log ∧ (kind event → standing log event.name = event.before) := each_append

theorem InOrder.of_append {kind : Event α → Prop} {log more : List (Event α)}
    (h : InOrder kind (log ++ more)) : InOrder kind log := Each.of_append h

theorem count_opened {log : List (Event α)} (h : InOrder (fun _ => True) log) (a : α) :
    log.count (.opened a) = log.count (.closed a) + log.count (.released a) +
      if standing log a = .owned then 1 else 0 := by
  induction log using List.reverseRecOn with
  | nil => rfl
  | append_singleton log event ih =>
    obtain ⟨earlier, last⟩ := inOrder_append.mp h
    have counted := ih earlier
    have order := last trivial
    simp only [List.count_append, List.count_singleton, standing_append]
    by_cases same : event.name = a
    · subst same
      rw [order] at counted
      cases event with
      | _ b =>
        simp [Event.name, Event.before, Event.after] at counted ⊢
        omega
    · have other : ∀ e : Event α, e.name = a → (event == e) = false := by
        intro e named
        refine beq_eq_false_iff_ne.mpr ?_
        rintro rfl
        exact same named
      simp only [if_neg same, other (.opened a) rfl, other (.closed a) rfl, other (.released a) rfl]
      simpa using counted

structure Accounts {ι : Type} (log : List (Event α)) (holder : ι → Option α) : Prop where
  order : InOrder (fun _ => True) log
  held : ∀ a, standing log a = .owned ↔ ∃ i, holder i = some a
  alone : ∀ i j a, holder i = some a → holder j = some a → i = j

namespace Accounts

variable {ι : Type} {log : List (Event α)} {holder : ι → Option α}

theorem start : Accounts ([] : List (Event α)) (fun _ : ι => none) where
  order := inOrder_nil _
  held a := by simp
  alone i j a h := nomatch h

theorem owned (h : Accounts log holder) {i : ι} {a : α} (holds : holder i = some a) :
    standing log a = .owned :=
  (h.held a).mpr ⟨i, holds⟩

theorem disposed (h : Accounts log holder) {a : α} (released : standing log a = .released) :
    Accounts (log ++ [.disposed a]) holder where
  order := inOrder_append.mpr ⟨h.order, fun _ => released⟩
  held b := by
    by_cases same : a = b
    · subst same
      rw [standing_append_self (by rfl), ← h.held, released]
      exact iff_of_false nofun nofun
    · rw [standing_append_other (by exact same), h.held]
  alone := h.alone

theorem aborted (h : Accounts log holder) {a : α} (free : standing log a = .free) :
    Accounts (log ++ [.opened a] ++ [.closed a]) holder where
  order := by
    refine inOrder_append.mpr ⟨inOrder_append.mpr ⟨h.order, fun _ => free⟩, fun _ => ?_⟩
    exact standing_append_self (by rfl) log
  held b := by rw [standing_aborted free, h.held]
  alone := h.alone

variable [DecidableEq ι]

omit [DecidableEq α] in
theorem update_eq_some_iff {i j : ι} {o : Option α} {a : α} :
    Function.update holder i o j = some a ↔ j = i ∧ o = some a ∨ j ≠ i ∧ holder j = some a := by
  by_cases mine : j = i <;> simp [mine]

theorem opened (h : Accounts log holder) {a : α} (free : standing log a = .free) {i : ι}
    (empty : holder i = none) :
    Accounts (log ++ [.opened a]) (Function.update holder i (some a)) where
  order := inOrder_append.mpr ⟨h.order, fun _ => free⟩
  held b := by
    simp only [update_eq_some_iff, Option.some.injEq]
    by_cases same : a = b
    · rw [standing_append_self (by exact same)]
      exact iff_of_true rfl ⟨i, .inl ⟨rfl, same⟩⟩
    · rw [standing_append_other (by exact same), h.held]
      have other : ∀ j, holder j = some b → j ≠ i := by
        rintro j holds rfl
        rw [empty] at holds
        cases holds
      grind
  alone j k b hj hk := by
    have unheld : ∀ j, holder j ≠ some a := by
      intro j holds
      rw [h.owned holds] at free
      cases free
    rw [update_eq_some_iff] at hj hk
    have alone := h.alone j k b
    grind

theorem givenUp (h : Accounts log holder) {event : Event α} (ends : event.before = .owned) {i : ι}
    (holds : holder i = some event.name) :
    Accounts (log ++ [event]) (Function.update holder i none) where
  order := inOrder_append.mpr ⟨h.order, fun _ => (h.owned holds).trans ends.symm⟩
  held b := by
    simp only [update_eq_some_iff]
    by_cases same : event.name = b
    · have gone : event.after ≠ .owned := by
        cases event <;> simp [Event.before, Event.after] at ends ⊢
      rw [standing_append_self same]
      have alone := h.alone i
      grind
    · rw [standing_append_other same, h.held]
      grind
  alone j k b hj hk := by
    rw [update_eq_some_iff] at hj hk
    have alone := h.alone j k b
    grind

theorem moved (h : Accounts log holder) {i j : ι} (apart : i ≠ j) (empty : holder j = none) :
    Accounts log (Function.update (Function.update holder j (holder i)) i none) where
  order := h.order
  held b := by
    rw [h.held]
    simp only [update_eq_some_iff]
    grind
  alone k l b hk hl := by
    rw [update_eq_some_iff, update_eq_some_iff] at hk hl
    have alone := h.alone
    grind

end Accounts

section
variable {ι : Type} [DecidableEq ι]

/-- What can be done with resources and holders. -/
inductive Change : List (Event α) → (ι → Option α) → List (Event α) → (ι → Option α) → Prop
  | none (log : List (Event α)) (holder : ι → Option α) : Change log holder log holder
  | opened {log : List (Event α)} {holder : ι → Option α} {i : ι} (a : α)
      (empty : holder i = .none) :
      Change log holder (log ++ [.opened a]) (Function.update holder i (some a))
  | aborted (log : List (Event α)) (holder : ι → Option α) (a : α) :
      Change log holder (log ++ [.opened a] ++ [.closed a]) holder
  | givenUp {log : List (Event α)} {holder : ι → Option α} {event : Event α}
      (ends : event.before = .owned) {i : ι} (holds : holder i = some event.name) :
      Change log holder (log ++ [event]) (Function.update holder i .none)
  | disposed {log : List (Event α)} (holder : ι → Option α) {a : α}
      (released : standing log a = .released) : Change log holder (log ++ [.disposed a]) holder
  | moved (log : List (Event α)) {holder : ι → Option α} {i j : ι} (apart : i ≠ j)
      (empty : holder j = .none) :
      Change log holder log (Function.update (Function.update holder j (holder i)) i .none)
  | seq {log log' log'' : List (Event α)} {holder holder' holder'' : ι → Option α}
      (first : Change log holder log' holder') (next : Change log' holder' log'' holder'') :
      Change log holder log'' holder''

namespace Change

variable {log log' : List (Event α)} {holder holder' : ι → Option α}

theorem grows (h : Change log holder log' holder') : log <+: log' := by
  induction h with
  | none => exact List.prefix_rfl
  | opened => exact List.prefix_append _ _
  | aborted => exact (List.prefix_append _ _).trans (List.prefix_append _ _)
  | givenUp => exact List.prefix_append _ _
  | disposed => exact List.prefix_append _ _
  | moved => exact List.prefix_rfl
  | seq first next ih ih' => exact ih.trans ih'

/-- The accounts stay right if only free names are handed out. -/
theorem accounts (h : Change log holder log' holder') (fresh : InOrder Event.Opens log')
    (right : Accounts log holder) : Accounts log' holder' := by
  induction h with
  | none => exact right
  | opened a empty => exact right.opened ((inOrder_append.mp fresh).2 trivial) empty
  | aborted log holder a =>
    have earlier := (inOrder_append.mp fresh).1
    exact right.aborted ((inOrder_append.mp earlier).2 trivial)
  | givenUp ends holds => exact right.givenUp ends holds
  | disposed holder released => exact right.disposed released
  | moved log apart empty => exact right.moved apart empty
  | seq first next ih ih' =>
    obtain ⟨more, rfl⟩ := next.grows
    exact ih' fresh (ih fresh.of_append right)

end Change
end

end Ledger
end Qsox
