import Qsox.Ledger
import Qsox.Once
import Qsox.Reports

/-! `startupSockets` when several threads create their first sockets at a time. The
`static` in it is made once for the whole program; what the model of the socket calls
takes for a constant is what that one construction has left. -/

namespace Qsox.Startup

open BaseSocket

inductive Request
  | initSockets
  | newSocket (family : Family) (type : SockType)
  deriving DecidableEq, Repr

inductive Result
  | initialized (res : Except Error Unit)
  | socket (res : Except Error SockFd)

/-- The constructor of `_SocketStartup`. With a failure of `WSAStartup` comes the code that
`WSAGetLastError` tells. -/
def construct (p : Platform) (answer : Except ℤ Unit) : Error :=
  match p, answer with
  | .windows, .error code => Platform.windows.lastOsError code
  | _, _ => .ofCode .success

def kernel (startup : Error) (answer : Except ℤ SockFd) : Kernel (List (Family × SockType)) :=
  { (Sys.refusing 0).kernel with
    startup := startup
    socket := fun family type asked => (answer, asked ++ [(family, type)]) }

/-- What the caller returns, and the calls that create a socket. -/
def Request.run (p : Platform) (startup : Error) (answer : Except ℤ SockFd) :
    Request → Result × List (Family × SockType)
  | initSockets => (.initialized (startupSockets (kernel startup answer) p), [])
  | newSocket family type =>
    let done := BaseSocket.newSocket (kernel startup answer) p family type ⟨[], 0, []⟩
    (.socket done.1, done.2.world)

theorem Request.started {startup : Error} {answer : Except ℤ SockFd} {request : Request}
    (creates : (request.run .windows startup answer).2 ≠ []) : startup.code = .success := by
  by_contra failed
  cases request with
  | initSockets => exact creates rfl
  | newSocket family type =>
    have unstarted : startupSockets (kernel startup answer) .windows = .error startup := if_pos failed
    refine creates ?_
    simp only [Request.run, newSocket_unstarted unstarted]

theorem answered_of_success {answer : Except ℤ Unit}
    (success : (construct .windows answer).code = .success) : answer = .ok () := by
  cases answer with
  | ok a => rfl
  | error code => exact absurd success (lastOsError_ne_success .windows code)

inductive Event
  | wsaStartup (answer : Except ℤ Unit)
  | returned (request : Request) (answer : Except ℤ SockFd) (result : Result)
      (created : List (Family × SockType))

namespace Event

def startup : Event → Option (Except ℤ Unit)
  | wsaStartup answer => some answer
  | returned _ _ _ _ => none

def created : Event → List (Family × SockType)
  | wsaStartup _ => []
  | returned _ _ _ created => created

/-- The result is that of the same call after a startup that has left this error. -/
def Follows (p : Platform) (startup : Error) : Event → Prop
  | wsaStartup _ => True
  | returned request answer result created => (result, created) = request.run p startup answer

end Event

inductive Action (ι : Type)
  | call (i : ι) (request : Request)
  | enter (i : ι)
  | finish (i : ι) (answer : Except ℤ Unit)
  | wake (i : ι)
  | leave (i : ι) (answer : Except ℤ SockFd)

namespace Action

variable {ι : Type}

def plain (p : Platform) : Action ι → Once.Action ι Request Error
  | call i request => .ask i request
  | enter i => .enter i
  | finish i answer => .finish i (construct p answer)
  | wake i => .wake i
  | leave i _ => .leave i

end Action

structure Program (ι : Type) where
  once : Once.State ι Request Error
  log : List Event

namespace Program

variable {ι : Type}

def start : Program ι := ⟨.start, []⟩

def notes (p : Platform) (s : Program ι) : Action ι → List Event
  | .finish _ answer =>
    match p with
    | .posix => []
    | .windows => [.wsaStartup answer]
  | .leave i answer =>
    match s.once.pc i with
    | .has request startup =>
      let done := request.run p startup answer
      [.returned request answer done.1 done.2]
    | _ => []
  | _ => []

variable [DecidableEq ι]

def step (p : Platform) (s : Program ι) (action : Action ι) : Option (Program ι) :=
  (s.once.step (action.plain p)).map fun once => ⟨once, s.log ++ s.notes p action⟩

def run (p : Platform) (actions : List (Action ι)) : Option (Program ι) :=
  actions.foldlM (step p) start

end Program

structure StartedOnce (p : Platform) (log : List Event) : Prop where
  once : (log.filterMap Event.startup).length ≤ 1
  same : ∃ startup, (∀ event ∈ log, event.Follows p startup) ∧
    ∀ answer, .wsaStartup answer ∈ log → startup = construct p answer
  before : p = .windows →
    Ledger.Each (fun past event => event.created ≠ [] → .wsaStartup (.ok ()) ∈ past) log
  quiet : p = .posix → log.filterMap Event.startup = []

section
variable {ι : Type}

def Action.startup (p : Platform) : Action ι → Option (Except ℤ Unit)
  | finish _ answer =>
    match p with
    | .posix => none
    | .windows => some answer
  | _ => none

theorem Action.made_plain (action : Action ι) :
    (action.plain .windows).made = (action.startup .windows).map (construct .windows) := by
  cases action <;> rfl

@[simp] theorem Action.startup_posix (action : Action ι) : action.startup .posix = none := by
  cases action <;> rfl

theorem Program.notes_startup (p : Platform) (s : Program ι) (action : Action ι) :
    (s.notes p action).filterMap Event.startup = (action.startup p).toList := by
  cases action with
  | finish i answer => cases p <;> rfl
  | leave i answer =>
    simp only [notes]
    split <;> rfl
  | _ => rfl

theorem Program.notes_cases (p : Platform) (s : Program ι) (action : Action ι) :
    s.notes p action = [] ∨
      (∃ i answer, action = .finish i answer ∧ s.notes p action = [.wsaStartup answer]) ∨
      ∃ i answer request startup, s.once.pc i = .has request startup ∧
        s.notes p action = [.returned request answer (request.run p startup answer).1
          (request.run p startup answer).2] := by
  cases action with
  | finish i answer =>
    cases p with
    | posix => exact .inl rfl
    | windows => exact .inr (.inl ⟨i, answer, rfl, rfl⟩)
  | leave i answer =>
    simp only [notes]
    split
    · exact .inr (.inr ⟨i, answer, _, _, ‹_›, rfl⟩)
    · exact .inl rfl
  | _ => exact .inl rfl

structure Program.Inv (p : Platform) (past : List (Action ι)) (s : Program ι) : Prop where
  once : s.once.Inv (past.map (Action.plain p))
  starts : s.log.filterMap Event.startup = past.filterMap (Action.startup p)
  told : ∀ event ∈ s.log, ∃ startup, s.once.guard = .made startup ∧ event.Follows p startup
  before : p = .windows →
    Ledger.Each (fun past event => event.created ≠ [] → .wsaStartup (.ok ()) ∈ past) s.log

namespace Program.Inv

variable {p : Platform} {past : List (Action ι)} {s s' : Program ι} {action : Action ι}

theorem start : (Program.start : Program ι).Inv p [] where
  once := Once.State.inv_start
  starts := rfl
  told _ there := absurd there List.not_mem_nil
  before _ := Ledger.each_nil _

theorem mem_startups {answer : Except ℤ Unit} :
    answer ∈ s.log.filterMap Event.startup ↔ .wsaStartup answer ∈ s.log := by
  rw [List.mem_filterMap]
  constructor
  · rintro ⟨event, there, answers⟩
    cases event with
    | wsaStartup told =>
      cases answers
      exact there
    | returned request socket result created => cases answers
  · intro there
    exact ⟨_, there, rfl⟩

theorem makings (inv : s.Inv .windows past) :
    (past.map (Action.plain .windows)).filterMap Once.Action.made =
      (s.log.filterMap Event.startup).map (construct .windows) := by
  rw [inv.starts, List.map_filterMap, List.filterMap_map]
  exact congrArg (List.filterMap · past) (funext Action.made_plain)

theorem made_iff (inv : s.Inv .windows past) (startup : Error) :
    s.once.guard = .made startup ↔
      ∃ answer, .wsaStartup answer ∈ s.log ∧ construct .windows answer = startup := by
  rw [← inv.once.made_iff, inv.makings, List.mem_map]
  simp only [mem_startups]

theorem posix_quiet (inv : s.Inv .posix past) : s.log.filterMap Event.startup = [] := by
  rw [inv.starts, List.filterMap_eq_nil_iff]
  exact fun action _ => action.startup_posix

theorem once_called (inv : s.Inv p past) : (s.log.filterMap Event.startup).length ≤ 1 := by
  cases p with
  | posix => simp [inv.posix_quiet]
  | windows =>
    have once := inv.once.once
    rwa [inv.makings, List.length_map] at once

variable [DecidableEq ι]

theorem step (inv : s.Inv p past) (h : s.step p action = some s') :
    s'.Inv p (past ++ [action]) := by
  obtain ⟨once, moved, rfl⟩ := Option.map_eq_some_iff.mp h
  have next : once.Inv ((past ++ [action]).map (Action.plain p)) := by
    rw [List.map_append]
    exact inv.once.step moved
  have old : ∀ event ∈ s.log, ∃ startup, once.guard = .made startup ∧ event.Follows p startup := by
    intro event there
    obtain ⟨startup, made, follows⟩ := inv.told event there
    exact ⟨startup, inv.once.stays moved made, follows⟩
  have starts : (s.log ++ s.notes p action).filterMap Event.startup =
      (past ++ [action]).filterMap (Action.startup p) := by
    rw [List.filterMap_append, List.filterMap_append, inv.starts, notes_startup]
    cases starts : action.startup p <;> simp [starts]
  rcases notes_cases p s action with none | ⟨i, answer, rfl, noted⟩ |
    ⟨i, answer, request, startup, here, noted⟩
  · rw [none, List.append_nil] at starts ⊢
    exact ⟨next, starts, old, inv.before⟩
  · rw [noted] at starts ⊢
    refine ⟨next, starts, ?_, fun windows => ?_⟩
    · intro event there
      rcases List.mem_append.mp there with there | new
      · exact old event there
      · obtain rfl := List.mem_singleton.mp new
        refine ⟨construct p answer, ?_, trivial⟩
        rw [← next.made_iff, List.filterMap_map]
        exact List.mem_filterMap.mpr ⟨_, List.mem_concat_self, rfl⟩
    · exact Ledger.each_append.mpr ⟨inv.before windows, fun creates => absurd rfl creates⟩
  · have made := inv.once.holder i request startup here
    rw [noted] at starts ⊢
    refine ⟨next, starts, ?_, fun windows => ?_⟩
    · intro event there
      rcases List.mem_append.mp there with there | new
      · exact old event there
      · obtain rfl := List.mem_singleton.mp new
        exact ⟨startup, inv.once.stays moved made, rfl⟩
    · subst windows
      refine Ledger.each_append.mpr ⟨inv.before rfl, fun creates => ?_⟩
      obtain ⟨answer, there, rfl⟩ := (inv.made_iff startup).mp made
      obtain rfl := answered_of_success (Request.started creates)
      exact there

end Program.Inv
end

/-- However the threads take turns, `WSAStartup` is called once at most, every caller is told
what it answered, now and later, and no socket is created before it has succeeded. -/
theorem startup_once {ι : Type} [DecidableEq ι] {p : Platform} {actions : List (Action ι)}
    {s : Program ι} (run : Program.run p actions = some s) : StartedOnce p s.log := by
  have inv : s.Inv p actions := by
    refine Control.foldlM_invariant (P := fun past s => Program.Inv p past s) .start ?_ run
    intro past s action s' inv step
    exact inv.step step
  have told : ∀ startup, s.once.guard = .made startup →
      ∀ event ∈ s.log, event.Follows p startup := by
    intro startup guard event there
    obtain ⟨other, made, follows⟩ := inv.told event there
    rw [guard] at made
    cases made
    exact follows
  refine ⟨inv.once_called, ?_, inv.before, ?_⟩
  · cases guard : s.once.guard with
    | made startup =>
      refine ⟨startup, told startup guard, fun answer there => ?_⟩
      cases p with
      | posix =>
        rw [← Program.Inv.mem_startups, inv.posix_quiet] at there
        cases there
      | windows =>
        have made := (inv.made_iff _).mpr ⟨answer, there, rfl⟩
        exact Once.Guard.made.inj (guard.symm.trans made)
    | _ =>
      have none : ∀ event, event ∉ s.log := by
        intro event there
        obtain ⟨startup, made, -⟩ := inv.told event there
        rw [guard] at made
        cases made
      exact ⟨.ofCode .success, fun event there => absurd there (none event),
        fun answer there => absurd there (none _)⟩
  · rintro rfl
    exact inv.posix_quiet

/-- Two threads at a time: one starts the sockets and creates one, the other waits for it. -/
def twoThreads : List (Action Bool) :=
  [.call false (.newSocket .inet .stream), .call true .initSockets, .enter false, .enter true,
    .finish false (.ok ()), .wake true, .leave true (.error 0), .leave false (.ok 5)]

theorem twoThreads_once :
    ∃ s, Program.run .windows twoThreads = some s ∧ StartedOnce .windows s.log ∧ s.log =
      [.wsaStartup (.ok ()), .returned .initSockets (.error 0) (.initialized (.ok ())) [],
        .returned (.newSocket .inet .stream) (.ok 5) (.socket (.ok 5)) [(.inet, .stream)]] :=
  ⟨_, rfl, startup_once (show Program.run .windows twoThreads = some _ from rfl), rfl⟩

end Qsox.Startup
