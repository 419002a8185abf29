import Mathlib.Logic.Function.Basic
import Qsox.Control

/-! A value that is made by the first one who needs it, while all others wait: what
C++ promises of a `static` inside a function. However the users take turns, it is made
once, and everybody gets what was made. -/

namespace Qsox.Once

inductive Guard (ι β : Type)
  | untouched
  | running (i : ι)
  | made (b : β)
  deriving DecidableEq, Repr

inductive Pc (α β : Type)
  | away
  | asks (a : α)
  | makes (a : α)
  | waits (a : α)
  | has (a : α) (b : β)
  deriving DecidableEq, Repr

structure State (ι α β : Type) where
  guard : Guard ι β
  pc : ι → Pc α β

inductive Action (ι α β : Type)
  | ask (i : ι) (a : α)
  | enter (i : ι)
  | finish (i : ι) (b : β)
  | wake (i : ι)
  | leave (i : ι)
  deriving DecidableEq, Repr

variable {ι α β : Type}

def Action.made : Action ι α β → Option β
  | finish _ b => some b
  | _ => none

namespace State

def start : State ι α β := ⟨.untouched, fun _ => .away⟩

/-- One user at most is making the value, and only before it is there. -/
structure Inv (past : List (Action ι α β)) (s : State ι α β) : Prop where
  maker : ∀ i a, s.pc i = .makes a → s.guard = .running i
  holder : ∀ i a b, s.pc i = .has a b → s.guard = .made b
  history : past.filterMap Action.made = match s.guard with
    | .made b => [b]
    | _ => []

theorem inv_start : Inv [] (start : State ι α β) := ⟨nofun, nofun, rfl⟩

section
variable {past : List (Action ι α β)} {s : State ι α β}

theorem Inv.made_iff (inv : Inv past s) (b : β) :
    b ∈ past.filterMap Action.made ↔ s.guard = .made b := by
  rw [inv.history]
  cases s.guard with
  | made b' => simp [eq_comm]
  | _ => simp

theorem Inv.once (inv : Inv past s) : (past.filterMap Action.made).length ≤ 1 := by
  rw [inv.history]
  cases s.guard <;> simp

end

variable [DecidableEq ι]

def move (s : State ι α β) (i : ι) (pc : Pc α β) : State ι α β :=
  { s with pc := Function.update s.pc i pc }

/-- Who finds the guard untouched makes the value; who finds it running waits. -/
def step (s : State ι α β) : Action ι α β → Option (State ι α β)
  | .ask i a =>
    match s.pc i with
    | .away => some (s.move i (.asks a))
    | _ => none
  | .enter i =>
    match s.pc i, s.guard with
    | .asks a, .untouched => some { s.move i (.makes a) with guard := .running i }
    | .asks a, .running _ => some (s.move i (.waits a))
    | .asks a, .made b => some (s.move i (.has a b))
    | _, _ => none
  | .finish i b =>
    match s.pc i with
    | .makes a => some { s.move i (.has a b) with guard := .made b }
    | _ => none
  | .wake i =>
    match s.pc i, s.guard with
    | .waits a, .made b => some (s.move i (.has a b))
    | _, _ => none
  | .leave i =>
    match s.pc i with
    | .has _ _ => some (s.move i .away)
    | _ => none

inductive Moves (s : State ι α β) : Action ι α β → State ι α β → Prop
  | ask {i : ι} {a : α} (here : s.pc i = .away) : Moves s (.ask i a) (s.move i (.asks a))
  | first {i : ι} {a : α} (here : s.pc i = .asks a) (untouched : s.guard = .untouched) :
      Moves s (.enter i) { s.move i (.makes a) with guard := .running i }
  | wait {i j : ι} {a : α} (here : s.pc i = .asks a) (running : s.guard = .running j) :
      Moves s (.enter i) (s.move i (.waits a))
  | find {i : ι} {a : α} {b : β} (here : s.pc i = .asks a) (made : s.guard = .made b) :
      Moves s (.enter i) (s.move i (.has a b))
  | finish {i : ι} {a : α} {b : β} (here : s.pc i = .makes a) :
      Moves s (.finish i b) { s.move i (.has a b) with guard := .made b }
  | wake {i : ι} {a : α} {b : β} (here : s.pc i = .waits a) (made : s.guard = .made b) :
      Moves s (.wake i) (s.move i (.has a b))
  | leave {i : ι} {a : α} {b : β} (here : s.pc i = .has a b) : Moves s (.leave i) (s.move i .away)

variable {past : List (Action ι α β)} {s s' : State ι α β} {action : Action ι α β}

theorem moves_of_step (h : s.step action = some s') : s.Moves action s' := by
  cases action with
  | ask i a =>
    simp only [step] at h
    split at h
    · cases h
      exact .ask ‹_›
    · cases h
  | enter i =>
    simp only [step] at h
    split at h
    · cases h
      exact .first ‹_› ‹_›
    · cases h
      exact .wait ‹_› ‹_›
    · cases h
      exact .find ‹_› ‹_›
    · cases h
  | finish i b =>
    simp only [step] at h
    split at h
    · cases h
      exact .finish ‹_›
    · cases h
  | wake i =>
    simp only [step] at h
    split at h
    · cases h
      exact .wake ‹_› ‹_›
    · cases h
  | leave i =>
    simp only [step] at h
    split at h
    · cases h
      exact .leave ‹_›
    · cases h

@[simp] theorem pc_move {i j : ι} {pc : Pc α β} (s : State ι α β) :
    (s.move i pc).pc j = if j = i then pc else s.pc j := by
  simp only [move, Function.update_apply]

theorem Inv.move (inv : Inv past s) {i : ι} {pc : Pc α β} (silent : action.made = none)
    (maker : ∀ a, pc = .makes a → s.guard = .running i)
    (holder : ∀ a b, pc = .has a b → s.guard = .made b) : Inv (past ++ [action]) (s.move i pc) where
  maker j a there := by
    rw [pc_move] at there
    split_ifs at there with mine
    · rw [mine]
      exact maker a there
    · exact inv.maker j a there
  holder j a b there := by
    rw [pc_move] at there
    split_ifs at there
    · exact holder a b there
    · exact inv.holder j a b there
  history := by
    rw [List.filterMap_append, List.filterMap_cons_none silent, List.filterMap_nil, List.append_nil]
    exact inv.history

theorem Inv.first (inv : Inv past s) {i : ι} {a : α} (untouched : s.guard = .untouched) :
    Inv (past ++ [.enter i]) { s.move i (.makes a) with guard := .running i } where
  maker j a' there := by
    have place := s.pc_move.symm.trans there
    split_ifs at place with mine
    · rw [mine]
    · have running := inv.maker j a' place
      rw [untouched] at running
      cases running
  holder j a' b there := by
    have place := s.pc_move.symm.trans there
    split_ifs at place
    have made := inv.holder j a' b place
    rw [untouched] at made
    cases made
  history := by
    have history := inv.history
    rw [untouched] at history
    rw [List.filterMap_append, history]
    rfl

theorem Inv.finish (inv : Inv past s) {i : ι} {a : α} {b : β} (here : s.pc i = .makes a) :
    Inv (past ++ [.finish i b]) { s.move i (.has a b) with guard := .made b } where
  maker j a' there := by
    have place := s.pc_move.symm.trans there
    split_ifs at place with mine
    have running := (inv.maker i a here).symm.trans (inv.maker j a' place)
    exact absurd (Guard.running.inj running).symm mine
  holder j a' b' there := by
    have place := s.pc_move.symm.trans there
    split_ifs at place
    · cases place
      rfl
    · have made := (inv.maker i a here).symm.trans (inv.holder j a' b' place)
      cases made
  history := by
    have history := inv.history
    rw [inv.maker i a here] at history
    rw [List.filterMap_append, history]
    rfl

theorem Inv.step (inv : Inv past s) (h : s.step action = some s') : Inv (past ++ [action]) s' := by
  cases moves_of_step h with
  | ask here => exact inv.move rfl nofun nofun
  | first here untouched => exact inv.first untouched
  | wait here running => exact inv.move rfl nofun nofun
  | find here made =>
    refine inv.move rfl nofun ?_
    rintro _ _ ⟨⟩
    exact made
  | finish here => exact inv.finish here
  | wake here made =>
    refine inv.move rfl nofun ?_
    rintro _ _ ⟨⟩
    exact made
  | leave here => exact inv.move rfl nofun nofun

theorem Inv.stays (inv : Inv past s) (h : s.step action = some s') {b : β}
    (made : s.guard = .made b) : s'.guard = .made b := by
  cases moves_of_step h with
  | first here untouched =>
    rw [untouched] at made
    cases made
  | finish here =>
    rw [inv.maker _ _ here] at made
    cases made
  | _ => exact made

end State
end Qsox.Once
