import Qsox.Control
import Qsox.Resolver

/-! `gai` of the glibc build and the worker of `getaddrinfo_a` that answers it. The
library and the worker act in any order; `gai` goes on from the answer of each
library call. A run is observed up to the return of `gai`. -/

namespace Qsox

namespace Resolver

namespace Eai

def noname : ℤ := -2
def again : ℤ := -3
def fail : ℤ := -4
def nodata : ℤ := -5
def socktype : ℤ := -7
def service : ℤ := -8
def addrfamily : ℤ := -9
def memory : ℤ := -10
def inprogress : ℤ := -100
def canceled : ℤ := -101
def notcanceled : ℤ := -102
def alldone : ℤ := -103
def intr : ℤ := -104

def codes : List (ℤ × Error) :=
  [(addrfamily, .addrFamily), (again, .temporaryFailure), (fail, .permanentFailure),
    (nodata, .noData), (noname, .unknownHost), (service, .serviceNotFound),
    (socktype, .socketNotSupported), (memory, .outOfMemory)]

end Eai

def makeError (code : ℤ) : Error := (Eai.codes.lookup code).getD .other

end Resolver

namespace Gai

open Resolver

/-- What a lookup produces: a list of at least one entry, or an `EAI_` code. -/
abbrev Outcome := Except { code : ℤ // code ≠ 0 } { list : List AddrInfo // list ≠ [] }

def result : Outcome → Except Resolver.Error (List AddrInfo)
  | .ok list => .ok list
  | .error code => .error (makeError code)

inductive Worker
  | queued
  | processing
  | finished (outcome : Outcome)
  | cancelled
  deriving DecidableEq

namespace Worker

def Outstanding (worker : Worker) : Prop := worker = queued ∨ worker = processing

instance (worker : Worker) : Decidable worker.Outstanding := inferInstanceAs (Decidable (_ ∨ _))

theorem finished_not_outstanding (outcome : Outcome) : ¬ (finished outcome).Outstanding := by
  rintro (busy | busy) <;> cases busy

theorem finished_of_not_outstanding {worker : Worker} (idle : ¬ worker.Outstanding)
    (live : worker ≠ cancelled) : ∃ outcome, worker = finished outcome := by
  cases worker with
  | queued => exact absurd (.inl rfl) idle
  | processing => exact absurd (.inr rfl) idle
  | finished outcome => exact ⟨outcome, rfl⟩
  | cancelled => exact absurd rfl live

def gaiError : Worker → ℤ
  | queued | processing => Eai.inprogress
  | finished (.ok _) => 0
  | finished (.error code) => code
  | cancelled => Eai.canceled

/-- `ar_result`, null until the lookup has succeeded. -/
def arResult : Worker → List AddrInfo
  | finished (.ok list) => list
  | _ => []

end Worker

/-- The call `gai` stands at. A waiting `gai_suspend` knows whether it found the
request already done. -/
inductive Pc
  | submit
  | suspend
  | waiting (idle : Bool)
  | cancel
  | examine
  | returned (result : Except Resolver.Error (List AddrInfo))
  deriving DecidableEq

def Pc.Running : Pc → Prop
  | returned _ => False
  | _ => True

instance : (pc : Pc) → Decidable pc.Running
  | .returned _ => isFalse nofun
  | .submit | .suspend | .waiting _ | .cancel | .examine => isTrue trivial

theorem Pc.not_running_returned {res : Except Resolver.Error (List AddrInfo)} :
    ¬ (returned res).Running :=
  id

structure Timespec where
  sec : ℤ
  nsec : ℤ
  deriving DecidableEq, Repr

/-- The last argument of `gai_suspend`; null waits without a deadline. -/
def timeout (timeoutMs : ℤ) : Option Timespec :=
  if timeoutMs ≠ 0 then some ⟨timeoutMs.tdiv 1000, timeoutMs.tmod 1000 * 1000000⟩ else none

def afterSubmit (ret : ℤ) : Pc :=
  if ret ≠ 0 then .returned (.error (makeError ret)) else .suspend

def afterSuspend (ret : ℤ) : Pc :=
  if ret = Eai.inprogress then .cancel
  else if ret ≠ 0 then .returned (.error (makeError ret))
  else .examine

/-- The answer of `gai_cancel` is not looked at. -/
def afterCancel : Pc := .returned (.error .timedOut)

def afterExamine (error : ℤ) (arResult : List AddrInfo) : Pc :=
  if error ≠ 0 then .returned (.error (makeError error)) else .returned (.ok arResult)

/-- The deadline counts as `expired` when it passes with the request outstanding.
`freed` tells whether the list of the request was given to `freeaddrinfo`, which `gai`
never calls. -/
structure State where
  pc : Pc
  request : Option Worker
  expired : Bool
  signalled : Bool
  freed : Bool

def State.start : State := ⟨.submit, none, false, false, false⟩

/-- The answers of the library calls, the steps of the worker, and what may happen
while `gai_suspend` waits. -/
inductive Action
  | submit (ret : ℤ)
  | process
  | finish (outcome : Outcome)
  | suspend
  | expire
  | signal
  | wake (ret : ℤ)
  | cancel (ret : ℤ)
  | examine

def SuspendAnswers (s : State) (worker : Worker) (idle : Bool) (ret : ℤ) : Prop :=
  ret = 0 ∧ ¬ worker.Outstanding ∨ ret = Eai.alldone ∧ idle ∨ ret = Eai.again ∧ s.expired ∨
    ret = Eai.intr ∧ s.signalled

instance (s : State) (worker : Worker) (idle : Bool) (ret : ℤ) :
    Decidable (SuspendAnswers s worker idle ret) := inferInstanceAs (Decidable (_ ∨ _))

/-- The answers of `gai_cancel`: it may refuse what is being processed. -/
def CancelAnswers (worker : Worker) (ret : ℤ) : Prop :=
  ret = Eai.canceled ∧ worker = .queued ∨ ret = Eai.notcanceled ∧ worker.Outstanding ∨
    ret = Eai.alldone ∧ ¬ worker.Outstanding

instance (worker : Worker) (ret : ℤ) : Decidable (CancelAnswers worker ret) :=
  inferInstanceAs (Decidable (_ ∨ _))

def State.step (timeoutMs : ℤ) (s : State) (action : Action) : Option State :=
  match action, s.pc, s.request with
  | .submit ret, .submit, none =>
    some { s with pc := afterSubmit ret, request := if ret = 0 then some .queued else none }
  | .process, pc, some .queued =>
    if pc.Running then some { s with request := some .processing } else none
  | .finish outcome, pc, some .processing =>
    if pc.Running then some { s with request := some (.finished outcome) } else none
  | .suspend, .suspend, some worker =>
    some { s with pc := .waiting (decide ¬ worker.Outstanding) }
  | .expire, .waiting false, some worker =>
    if timeout timeoutMs ≠ none ∧ worker.Outstanding then some { s with expired := true } else none
  | .signal, .waiting _, some _ => some { s with signalled := true }
  | .wake ret, .waiting idle, some worker =>
    if SuspendAnswers s worker idle ret then some { s with pc := afterSuspend ret } else none
  | .cancel ret, .cancel, some worker =>
    if CancelAnswers worker ret then
      some { s with pc := afterCancel,
                    request := some (if ret = Eai.canceled then .cancelled else worker) }
    else none
  | .examine, .examine, some worker =>
    some { s with pc := afterExamine worker.gaiError worker.arResult }
  | _, _, _ => none

def run (timeoutMs : ℤ) (actions : List Action) : Option State :=
  actions.foldlM (State.step timeoutMs) .start

inductive Move (timeoutMs : ℤ) (s : State) : Action → State → Prop
  | submit (ret : ℤ) (pc : s.pc = .submit) (request : s.request = none) :
      Move timeoutMs s (.submit ret)
        { s with pc := afterSubmit ret, request := if ret = 0 then some .queued else none }
  | process (request : s.request = some .queued) (running : s.pc.Running) :
      Move timeoutMs s .process { s with request := some .processing }
  | finish (outcome : Outcome) (request : s.request = some .processing) (running : s.pc.Running) :
      Move timeoutMs s (.finish outcome) { s with request := some (.finished outcome) }
  | suspend (worker : Worker) (pc : s.pc = .suspend) (request : s.request = some worker) :
      Move timeoutMs s .suspend { s with pc := .waiting (decide ¬ worker.Outstanding) }
  | expire (worker : Worker) (pc : s.pc = .waiting false) (request : s.request = some worker)
      (late : timeout timeoutMs ≠ none ∧ worker.Outstanding) :
      Move timeoutMs s .expire { s with expired := true }
  | signal (worker : Worker) (idle : Bool) (pc : s.pc = .waiting idle)
      (request : s.request = some worker) : Move timeoutMs s .signal { s with signalled := true }
  | wake (ret : ℤ) (worker : Worker) (idle : Bool) (pc : s.pc = .waiting idle)
      (request : s.request = some worker) (answer : SuspendAnswers s worker idle ret) :
      Move timeoutMs s (.wake ret) { s with pc := afterSuspend ret }
  | cancel (ret : ℤ) (worker : Worker) (pc : s.pc = .cancel) (request : s.request = some worker)
      (answer : CancelAnswers worker ret) :
      Move timeoutMs s (.cancel ret)
        { s with pc := afterCancel,
                 request := some (if ret = Eai.canceled then .cancelled else worker) }
  | examine (worker : Worker) (pc : s.pc = .examine) (request : s.request = some worker) :
      Move timeoutMs s .examine { s with pc := afterExamine worker.gaiError worker.arResult }

theorem State.move_of_step {timeoutMs : ℤ} {s s' : State} {action : Action}
    (move : s.step timeoutMs action = some s') : Move timeoutMs s action s' := by
  unfold State.step at move
  split at move
  · rename_i ret pc request
    obtain rfl := Option.some.inj move
    exact .submit ret pc request
  · rename_i request
    obtain ⟨running, same⟩ := Option.ite_none_right_eq_some.mp move
    cases same
    exact .process request running
  · rename_i outcome request
    obtain ⟨running, same⟩ := Option.ite_none_right_eq_some.mp move
    cases same
    exact .finish outcome request running
  · rename_i worker pc request
    obtain rfl := Option.some.inj move
    exact .suspend worker pc request
  · rename_i worker pc request
    obtain ⟨late, same⟩ := Option.ite_none_right_eq_some.mp move
    cases same
    exact .expire worker pc request late
  · rename_i idle worker pc request
    obtain rfl := Option.some.inj move
    exact .signal worker idle pc request
  · rename_i ret idle worker pc request
    obtain ⟨answer, same⟩ := Option.ite_none_right_eq_some.mp move
    cases same
    exact .wake ret worker idle pc request answer
  · rename_i ret worker pc request
    obtain ⟨answer, same⟩ := Option.ite_none_right_eq_some.mp move
    cases same
    exact .cancel ret worker pc request answer
  · rename_i worker pc request
    obtain rfl := Option.some.inj move
    exact .examine worker pc request
  · cases move

/-- The request is finished or cancelled, and a list it produced is handed to the
caller or freed. -/
structure State.Settled (s : State) (worker : Worker) : Prop where
  done : ¬ worker.Outstanding
  kept : ∀ list, worker = .finished (.ok list) → s.pc = .returned (.ok list) ∨ s.freed = true

@[simp] theorem afterExamine_finished (outcome : Outcome) :
    afterExamine (Worker.finished outcome).gaiError (Worker.finished outcome).arResult =
      .returned (result outcome) := by
  cases outcome with
  | error code => exact if_pos code.property
  | ok list => exact if_neg (not_not.mpr rfl)

theorem afterSuspend_answer {s : State} {worker : Worker} {idle : Bool} {ret : ℤ}
    (answer : SuspendAnswers s worker idle ret) :
    afterSuspend ret = if ret ≠ 0 then .returned (.error (makeError ret)) else .examine := by
  have known : ret ≠ Eai.inprogress := by
    rcases answer with ⟨rfl, -⟩ | ⟨rfl, -⟩ | ⟨rfl, -⟩ | ⟨rfl, -⟩ <;> decide
  rw [afterSuspend, if_neg known]

/-- Where the request stands at each call, `woken` telling that `gai_suspend` has
returned 0. -/
def Reached (woken : Prop) (request : Option Worker) : Pc → Prop
  | .submit => ¬ woken ∧ request = none
  | .suspend | .waiting _ => ¬ woken ∧ ∃ worker, request = some worker ∧ worker ≠ .cancelled
  | .cancel => False
  | .examine => woken ∧ ∃ outcome, request = some (.finished outcome)
  | .returned res =>
    woken ∧ (∃ outcome, request = some (.finished outcome) ∧ res = result outcome) ∨
      ¬ woken ∧ request ≠ some .cancelled ∧ ∀ list, res ≠ .ok list

theorem Reached.worker {woken : Prop} {worker next : Worker} {pc : Pc}
    (h : Reached woken (some worker) pc) (running : pc.Running) (busy : worker.Outstanding)
    (live : next ≠ .cancelled) : Reached woken (some next) pc := by
  cases pc with
  | submit => cases h.2
  | suspend => exact ⟨h.1, next, rfl, live⟩
  | waiting idle => exact ⟨h.1, next, rfl, live⟩
  | cancel => exact h
  | examine =>
    obtain ⟨-, outcome, same⟩ := h
    cases same
    exact absurd busy (Worker.finished_not_outstanding outcome)
  | returned res => exact running.elim

theorem Reached.submit {ret : ℤ} {woken : Prop} (asleep : ¬ woken) :
    Reached woken (if ret = 0 then some .queued else none) (afterSubmit ret) := by
  unfold afterSubmit
  by_cases accepted : ret = 0
  · rw [if_pos accepted, if_neg (not_not.mpr accepted)]
    exact ⟨asleep, .queued, rfl, nofun⟩
  · rw [if_neg accepted, if_pos accepted]
    exact .inr ⟨asleep, nofun, nofun⟩

theorem Reached.wake {s : State} {worker : Worker} {idle : Bool} {ret : ℤ} {woken : Prop}
    (answer : SuspendAnswers s worker idle ret) (live : worker ≠ .cancelled)
    (woke : woken ↔ ret = 0) : Reached woken (some worker) (afterSuspend ret) := by
  rw [afterSuspend_answer answer]
  by_cases done : ret = 0
  · rw [if_neg (not_not.mpr done)]
    have idle : ¬ worker.Outstanding := by
      rcases answer with ⟨-, idle⟩ | ⟨rfl, -⟩ | ⟨rfl, -⟩ | ⟨rfl, -⟩
      · exact idle
      all_goals exact absurd done (by decide)
    obtain ⟨outcome, rfl⟩ := Worker.finished_of_not_outstanding idle live
    exact ⟨woke.mpr done, outcome, rfl⟩
  · rw [if_pos done]
    refine .inr ⟨fun h => done (woke.mp h), ?_, nofun⟩
    exact fun same => live (Option.some.inj same)

theorem Reached.examine {woken : Prop} {worker : Worker} (h : Reached woken (some worker) .examine) :
    Reached woken (some worker) (afterExamine worker.gaiError worker.arResult) := by
  obtain ⟨woke, outcome, same⟩ := h
  cases same
  rw [afterExamine_finished]
  exact .inl ⟨woke, outcome, rfl, rfl⟩

structure Inv (past : List Action) (s : State) : Prop where
  reached : Reached (.wake 0 ∈ past) s.request s.pc
  accepted : .submit 0 ∈ past ↔ s.request ≠ none
  failed : (∃ code, .finish (.error code) ∈ past) ↔
    ∃ code, s.request = some (.finished (.error code))
  freed : s.freed = false

theorem Inv.start : Inv [] .start where
  reached := by simp [State.start, Reached]
  accepted := by simp [State.start]
  failed := by simp [State.start]
  freed := rfl

theorem Inv.submit {past : List Action} {s : State} {ret : ℤ} (h : Inv past s)
    (pc : s.pc = .submit) (request : s.request = none) :
    Inv (past ++ [.submit ret])
      { s with pc := afterSubmit ret, request := if ret = 0 then some .queued else none } where
  reached := by
    have reached := h.reached
    rw [pc, request] at reached
    have asleep : Action.wake 0 ∉ past ++ [.submit ret] := by simp [reached.1]
    exact Reached.submit asleep
  accepted := by
    have fresh : Action.submit 0 ∉ past := by simp [h.accepted, request]
    by_cases zero : ret = 0 <;> simp [fresh, zero, eq_comm]
  failed := by
    have fresh := h.failed
    rw [request] at fresh
    by_cases zero : ret = 0 <;> simp_all
  freed := h.freed

theorem Inv.keep {past : List Action} {s s' : State} {action : Action} (h : Inv past s)
    (request : s'.request = s.request) (freed : s'.freed = s.freed)
    (unsubmitted : .submit 0 ≠ action) (unfinished : ∀ outcome, .finish outcome ≠ action)
    (reached : Reached (.wake 0 ∈ past ++ [action]) s.request s'.pc) :
    Inv (past ++ [action]) s' where
  reached := by rwa [request]
  accepted := by simp [request, unsubmitted, h.accepted]
  failed := by simp [request, unfinished, h.failed]
  freed := freed.trans h.freed

theorem Inv.work {past : List Action} {s : State} {action : Action} {worker next : Worker}
    (h : Inv past s) (request : s.request = some worker) (busy : worker.Outstanding)
    (running : s.pc.Running) (live : next ≠ .cancelled)
    (unsubmitted : .submit 0 ≠ action) (asleep : .wake 0 ≠ action)
    (failed : ∀ code, .finish (.error code) = action ↔ next = .finished (.error code)) :
    Inv (past ++ [action]) { s with request := some next } where
  reached := by
    have reached := h.reached
    rw [request] at reached
    simp only [List.mem_append, List.mem_singleton, asleep, or_false]
    exact reached.worker running busy live
  accepted := by simp [unsubmitted, h.accepted, request]
  failed := by
    have before := h.failed
    have unfinished : ¬ ∃ code, some worker = some (.finished (.error code)) := by
      rintro ⟨code, same⟩
      cases same
      exact Worker.finished_not_outstanding _ busy
    rw [request] at before
    have none_failed := not_exists.mp (mt before.mp unfinished)
    simp [none_failed, failed]
  freed := h.freed

theorem Inv.step {timeoutMs : ℤ} {past : List Action} {s s' : State} {action : Action}
    (h : Inv past s) (move : s.step timeoutMs action = some s') : Inv (past ++ [action]) s' := by
  have reached := h.reached
  cases State.move_of_step move with
  | submit ret pc request => exact h.submit pc request
  | process request running =>
    exact h.work request (.inl rfl) running nofun nofun nofun (fun _ => ⟨nofun, nofun⟩)
  | finish outcome request running =>
    exact h.work request (.inr rfl) running nofun nofun nofun (by simp [eq_comm])
  | suspend worker pc request =>
    rw [pc] at reached
    exact h.keep rfl rfl nofun nofun ⟨by simp [reached.1], reached.2⟩
  | expire worker pc request late => exact h.keep rfl rfl nofun nofun (by simpa using reached)
  | signal worker idle pc request => exact h.keep rfl rfl nofun nofun (by simpa using reached)
  | wake ret worker idle pc request answer =>
    rw [pc, request] at reached
    obtain ⟨asleep, worker, same, live⟩ := reached
    cases same
    refine h.keep rfl rfl nofun nofun ?_
    rw [request]
    exact Reached.wake answer live (by simp [asleep, eq_comm])
  | cancel ret worker pc request answer =>
    rw [pc] at reached
    exact reached.elim
  | examine worker pc request =>
    rw [pc, request] at reached
    refine h.keep rfl rfl nofun nofun ?_
    rw [request]
    exact Reached.examine (by simpa using reached)

theorem Inv.run {timeoutMs : ℤ} {actions : List Action} {s : State}
    (run : run timeoutMs actions = some s) : Inv actions s :=
  Control.foldlM_invariant Inv.start (fun _ _ _ _ h move => h.step move) run

theorem Inv.ended {past : List Action} {s : State} {res : Except Resolver.Error (List AddrInfo)}
    {worker : Worker} (h : Inv past s) (back : s.pc = .returned res)
    (request : s.request = some worker) (settled : s.Settled worker) :
    .wake 0 ∈ past ∨ ∃ code, worker = .finished (.error code) := by
  have reached := h.reached
  rw [back, request] at reached
  rcases reached with ⟨woke, -⟩ | ⟨-, live, lost⟩
  · exact .inl woke
  · right
    have running : worker ≠ .cancelled := fun same => live (congrArg some same)
    obtain ⟨outcome, rfl⟩ := Worker.finished_of_not_outstanding settled.done running
    cases outcome with
    | error code => exact ⟨code, rfl⟩
    | ok list =>
      rcases settled.kept list rfl with handed | freed
      · rw [back] at handed
        exact absurd (Pc.returned.inj handed) (lost list)
      · rw [h.freed] at freed
        cases freed

theorem Inv.settled_of_woken {past : List Action} {s : State}
    {res : Except Resolver.Error (List AddrInfo)} {worker : Worker} (h : Inv past s)
    (back : s.pc = .returned res) (request : s.request = some worker) (woke : .wake 0 ∈ past) :
    s.Settled worker := by
  have reached := h.reached
  rw [back, request] at reached
  rcases reached with ⟨-, outcome, same, answer⟩ | ⟨asleep, -⟩
  · cases same
    refine ⟨Worker.finished_not_outstanding outcome, ?_⟩
    intro list produced
    cases produced
    exact .inl (back.trans (congrArg Pc.returned answer))
  · exact absurd woke asleep

/-- When `gai` returns, an accepted request is settled just in the runs where
`gai_suspend` returned 0 or the lookup had failed by then. -/
theorem request_settled_iff (timeoutMs : ℤ) (actions : List Action) {s : State}
    {res : Except Resolver.Error (List AddrInfo)} (run : run timeoutMs actions = some s)
    (back : s.pc = .returned res) (accepted : .submit 0 ∈ actions) :
    (∀ worker, s.request = some worker → s.Settled worker) ↔
      .wake 0 ∈ actions ∨ ∃ code, .finish (.error code) ∈ actions := by
  have inv := Inv.run run
  obtain ⟨worker, request⟩ := Option.ne_none_iff_exists'.mp (inv.accepted.mp accepted)
  rw [inv.failed]
  constructor
  · intro all
    rcases inv.ended back request (all worker request) with woke | ⟨code, rfl⟩
    · exact .inl woke
    · exact .inr ⟨code, request⟩
  · intro ended worker request
    rcases ended with woke | ⟨code, failed⟩
    · exact inv.settled_of_woken back request woke
    · obtain rfl := Option.some.inj (failed.symm.trans request)
      exact ⟨Worker.finished_not_outstanding _, nofun⟩

def localhost : Outcome := .ok ⟨[⟨afInet, none⟩], nofun⟩

def answered : List Action :=
  [.submit 0, .process, .suspend, .finish localhost, .wake 0, .examine]

theorem answered_settled :
    ∃ s, run 100 answered = some s ∧ s.pc = .returned (result localhost) ∧
      ∀ worker, s.request = some worker → s.Settled worker := by
  refine ⟨_, rfl, rfl, ?_⟩
  apply (request_settled_iff 100 answered rfl rfl ?_).mpr
  · simp [answered]
  · simp [answered]

/-- The deadline passes while the worker is busy, and `gai` returns all the same. -/
def overdue : List Action := [.submit 0, .process, .suspend, .expire, .wake Eai.again]

theorem overdue_unsettled :
    ∃ s, run 100 overdue = some s ∧ s.pc = .returned (.error .temporaryFailure) ∧
      ¬ ∀ worker, s.request = some worker → s.Settled worker := by
  refine ⟨_, rfl, rfl, ?_⟩
  intro all
  exact (all .processing rfl).done (.inr rfl)

end Gai
end Qsox
