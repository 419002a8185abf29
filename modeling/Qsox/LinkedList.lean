import Mathlib.Data.List.Basic

/-! A singly linked list in memory, handed out as a whole and freed as a whole. A
program that reads what is not there, or is there no more, has no result. -/

namespace Qsox.LinkedList

/-- An address; `0` is the null pointer. -/
abbrev Ptr := ℕ

structure Cell (α : Type) where
  content : α
  next : Ptr

structure Handed (α : Type) where
  head : Ptr
  cells : Ptr → Option (Cell α)

inductive Access
  | read (p : Ptr)
  | free (p : Ptr)
  deriving DecidableEq, Repr

/-- The list until it is freed, and what was done with it. -/
structure Memory (α : Type) where
  handed : Option (Handed α)
  accesses : List Access

abbrev Prog (α β : Type) := StateT (Memory α) Option β

variable {α β : Type}

def read (p : Ptr) : Prog α (Cell α) := fun m => do
  let handed ← m.handed
  let cell ← handed.cells p
  return (cell, { m with accesses := m.accesses ++ [.read p] })

/-- Only the head that was handed out can be freed, and only once. -/
def free (p : Ptr) : Prog α Unit := fun m => do
  let handed ← m.handed
  if p = handed.head then return ((), ⟨none, m.accesses ++ [.free p]⟩) else none

/-- `for (p = list; p != nullptr; p = p->next) if (wanted(*p)) return p;` and
`nullptr` after it, for a number of tests. -/
def find (wanted : α → Bool) : ℕ → Ptr → Prog α Ptr
  | 0, _ => fun _ => none
  | rounds + 1, p =>
    if p = 0 then pure 0
    else do
      let cell ← read p
      if wanted cell.content then return p
      find wanted rounds cell.next

/-- The cells from the address on hold the list, and the last one ends it. -/
inductive Chain (cells : Ptr → Option (Cell α)) : Ptr → List α → Prop
  | nil : Chain cells 0 []
  | cons {p : Ptr} {cell : Cell α} {rest : List α} (pos : p ≠ 0) (there : cells p = some cell)
      (tail : Chain cells cell.next rest) : Chain cells p (cell.content :: rest)

inductive Found (cells : Ptr → Option (Cell α)) : Ptr → Option α → Prop
  | null : Found cells 0 none
  | here {p : Ptr} {cell : Cell α} (pos : p ≠ 0) (there : cells p = some cell) :
      Found cells p (some cell.content)

namespace Memory

def reading (m : Memory α) (ps : List Ptr) : Memory α :=
  { m with accesses := m.accesses ++ ps.map .read }

@[simp] theorem reading_nil (m : Memory α) : m.reading [] = m := by
  simp [reading]

@[simp] theorem reading_reading (m : Memory α) (ps qs : List Ptr) :
    (m.reading ps).reading qs = m.reading (ps ++ qs) := by
  simp [reading]

def freed (m : Memory α) (p : Ptr) : Memory α := ⟨none, m.accesses ++ [.free p]⟩

def Holds (m : Memory α) (p : Ptr) (list : List α) : Prop :=
  ∃ cells, m.handed = some ⟨p, cells⟩ ∧ Chain cells p list

end Memory

theorem run_bind_of_eq {γ : Type} {prog : Prog α β} {next : β → Prog α γ} {m m' : Memory α}
    {b : β} (h : prog.run m = some (b, m')) : (prog >>= next).run m = (next b).run m' := by
  rw [StateT.run_bind, h]
  rfl

section
variable {m : Memory α} {handed : Handed α} (live : m.handed = some handed)
include live

theorem run_read {p : Ptr} {cell : Cell α} (there : handed.cells p = some cell) :
    (read p).run m = some (cell, m.reading [p]) := by
  simp only [read, StateT.run, live, there, Option.bind_eq_bind, Option.bind_some]
  rw [Memory.reading, live]
  rfl

theorem run_free : (free handed.head).run m = some ((), m.freed handed.head) := by
  simp only [free, StateT.run, live, Option.bind_eq_bind, Option.bind_some, if_pos]
  rfl

/-- The search comes to the first cell that is wanted, or to the end. -/
theorem run_find {p : Ptr} {list : List α} (chain : Chain handed.cells p list) (wanted : α → Bool)
    {rounds : ℕ} (enough : list.length < rounds) :
    ∃ q reads, (find wanted rounds p).run m = some (q, m.reading reads) ∧
      Found handed.cells q (list.find? wanted) := by
  induction chain generalizing m rounds with
  | nil =>
    obtain ⟨rounds, rfl⟩ := Nat.exists_eq_succ_of_ne_zero (Nat.ne_of_gt enough)
    refine ⟨0, [], ?_, .null⟩
    rw [Memory.reading_nil]
    rfl
  | @cons p cell rest pos there tail ih =>
    obtain ⟨rounds, rfl⟩ := Nat.exists_eq_succ_of_ne_zero (Nat.ne_zero_of_lt enough)
    have step := run_read live there
    by_cases hit : wanted cell.content = true
    · refine ⟨p, [p], ?_, ?_⟩
      · rw [find, if_neg pos, run_bind_of_eq step, if_pos hit]
        rfl
      · rw [List.find?_cons_of_pos hit]
        exact .here pos there
    · have more : rest.length < rounds := Nat.lt_of_succ_lt_succ enough
      obtain ⟨q, reads, found, which⟩ := ih (m := m.reading [p]) live more
      refine ⟨q, p :: reads, ?_, ?_⟩
      · rw [find, if_neg pos, run_bind_of_eq step, if_neg hit, found, Memory.reading_reading,
          List.singleton_append]
      · rwa [List.find?_cons_of_neg hit]

end

end Qsox.LinkedList
