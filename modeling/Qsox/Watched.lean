import Qsox.OperationCalls
import Qsox.Ownership

/-! A system that notes the calls on descriptors, and the functions that make a socket, by
what they do with its descriptor: they open it, call on it, and close it if they
fail. The ledger of the process has the same openings and closings. -/

namespace Qsox

open BaseSocket
open Ledger (Accounts Each standing)

/-- A call on a descriptor; `socket` and `accept` are those that hand one out. -/
inductive Use
  | opened (fd : SockFd)
  | accepted (fd : SockFd)
  | closed (fd : SockFd)
  | mode (fd : SockFd) (nonBlocking : Bool)
  | on (fd : SockFd)
  deriving DecidableEq, Repr

namespace Use

def fd : Use → SockFd
  | opened fd | accepted fd | closed fd | mode fd _ | on fd => fd

def event : Use → Option (Ledger.Event SockFd)
  | opened fd | accepted fd => some (.opened fd)
  | closed fd => some (.closed fd)
  | mode _ _ | on _ => none

def Calls (fd : SockFd) (use : Use) : Prop := use.fd = fd ∧ use.event = none

/-- A descriptor is closed, and calls are made on it, while it is owned. `-1` belongs to
no one: the system refuses what an object asks for that was moved from. -/
def OnOwned (log : List (Ledger.Event SockFd)) : Use → Prop
  | opened _ | accepted _ => True
  | closed fd => standing log fd = .owned
  | mode fd _ | on fd => fd = invalidSockFd ∨ standing log fd = .owned

theorem Calls.onOwned {log : List (Ledger.Event SockFd)} {fd : SockFd} {use : Use}
    (h : use.Calls fd) (owned : fd = invalidSockFd ∨ standing log fd = .owned) :
    use.OnOwned log := by
  obtain ⟨rfl, quiet⟩ := h
  cases use with
  | opened fd => cases quiet
  | accepted fd => cases quiet
  | closed fd => cases quiet
  | mode fd nonBlocking => exact owned
  | on fd => exact owned

end Use

def AllOnOwned (log : List (Ledger.Event SockFd)) (uses : List Use) : Prop :=
  Each (fun past use => use.OnOwned (log ++ past.filterMap Use.event)) uses

namespace AllOnOwned

variable {log : List (Ledger.Event SockFd)} {uses more : List Use} {fd : SockFd}

theorem nil (log : List (Ledger.Event SockFd)) : AllOnOwned log [] := Ledger.each_nil _

@[simp] theorem append :
    AllOnOwned log (uses ++ more) ↔
      AllOnOwned log uses ∧ AllOnOwned (log ++ uses.filterMap Use.event) more := by
  simp only [AllOnOwned, Ledger.each_append_list, List.filterMap_append, List.append_assoc]

@[simp] theorem singleton {use : Use} : AllOnOwned log [use] ↔ use.OnOwned log := by
  have both : AllOnOwned log ([] ++ [use]) ↔
      AllOnOwned log [] ∧ use.OnOwned (log ++ [].filterMap Use.event) := Ledger.each_append
  rw [List.filterMap_nil, List.append_nil] at both
  exact both.trans (and_iff_right (nil log))

theorem events_of_calls (calls : ∀ use ∈ uses, use.Calls fd) : uses.filterMap Use.event = [] :=
  List.filterMap_eq_nil_iff.mpr fun use h => (calls use h).2

theorem of_calls (owned : fd = invalidSockFd ∨ standing log fd = .owned)
    (calls : ∀ use ∈ uses, use.Calls fd) : AllOnOwned log uses := by
  intro past use future same
  have mine : ∀ use ∈ past, use.Calls fd := fun use h => calls use (same ▸ List.mem_append_left _ h)
  rw [events_of_calls mine, List.append_nil]
  exact (calls use (by simp [same])).onOwned owned

end AllOnOwned

def openedNote : Except ℤ SockFd → List Use
  | .ok fd => [.opened fd]
  | .error _ => []

def acceptedNote {α : Type} (listener : SockFd) : Except ℤ (SockFd × α) → List Use
  | .ok made => [.on listener, .accepted made.1]
  | .error _ => [.on listener]

def modeNote (fd : SockFd) (nonBlocking : Bool) : Except ℤ Unit → List Use
  | .ok () => [.mode fd nonBlocking]
  | .error _ => [.on fd]

structure Watched (σ : Type) where
  world : σ
  uses : List Use

def Watched.observing {σ α : Type} (note : α → List Use) (f : σ → α × σ) (w : Watched σ) :
    α × Watched σ :=
  ((f w.world).1, ⟨(f w.world).2, w.uses ++ note (f w.world).1⟩)

open Watched in
def Sys.watched {σ : Type} (sys : Sys σ) : Sys (Watched σ) where
  abi := sys.abi
  startup := sys.startup
  socket family type := observing openedNote (sys.socket family type)
  close fd := observing (fun _ => [.closed fd]) (sys.close fd)
  ioctl fd nonBlocking := observing (modeNote fd nonBlocking) (sys.ioctl fd nonBlocking)
  setsockopt fd opt := observing (fun _ => [.on fd]) (sys.setsockopt fd opt)
  bind fd m len := observing (fun _ => [.on fd]) (sys.bind fd m len)
  listen fd backlog := observing (fun _ => [.on fd]) (sys.listen fd backlog)
  accept fd := observing (acceptedNote fd) (sys.accept fd)
  connect fd m len := observing (fun _ => [.on fd]) (sys.connect fd m len)
  getsockname fd := observing (fun _ => [.on fd]) (sys.getsockname fd)
  getpeername fd := observing (fun _ => [.on fd]) (sys.getpeername fd)
  send fd data := observing (fun _ => [.on fd]) (sys.send fd data)
  sendto fd data m len := observing (fun _ => [.on fd]) (sys.sendto fd data m len)
  recv fd size peek := observing (fun _ => [.on fd]) (sys.recv fd size peek)
  recvfrom fd size peek := observing (fun _ => [.on fd]) (sys.recvfrom fd size peek)
  soError fd := observing (fun _ => [.on fd]) (sys.soError fd)
  shutdown fd how := observing (fun _ => [.on fd]) (sys.shutdown fd how)
  poll fd events timeout := observing (fun _ => [.on fd]) (sys.poll fd events timeout)
  select fd sets timeout := observing (fun _ => [.on fd]) (sys.select fd sets timeout)
  now := observing (fun _ => []) sys.now
  errnoLeft w := sys.errnoLeft w.world

section
variable {σ : Type} {sys : Sys σ}

theorem observing_on {α : Type} {f : σ → α × σ} (fd : SockFd) :
    Adds Watched.uses (· = .on fd) (Watched.observing (fun _ => [.on fd]) f) :=
  fun _ => ⟨_, rfl, fun _ h => List.mem_singleton.mp h⟩

theorem Sys.watched_calls (sys : Sys σ) (fd : SockFd) :
    CallsAdd sys.watched fd Watched.uses (· = .on fd) where
  setsockopt _ := observing_on fd
  bind _ _ := observing_on fd
  listen _ := observing_on fd
  connect _ _ := observing_on fd
  getsockname := observing_on fd
  getpeername := observing_on fd
  send _ := observing_on fd
  sendto _ _ _ := observing_on fd
  recv _ _ := observing_on fd
  recvfrom _ _ := observing_on fd
  soError := observing_on fd
  shutdown _ := observing_on fd
  poll _ _ := observing_on fd
  select _ _ := observing_on fd
  now _ := ⟨[], rfl, nofun⟩

theorem Sys.watched_ioctl (sys : Sys σ) (fd : SockFd) (nonBlocking : Bool) :
    Adds Watched.uses (Use.Calls fd) (sys.watched.ioctl fd nonBlocking) := by
  intro w
  refine ⟨_, rfl, fun use h => ?_⟩
  cases returned : (sys.ioctl fd nonBlocking w.world).1 with
  | ok a =>
    rw [returned] at h
    rw [List.mem_singleton.mp h]
    exact ⟨rfl, rfl⟩
  | error code =>
    rw [returned] at h
    rw [List.mem_singleton.mp h]
    exact ⟨rfl, rfl⟩

theorem CallsAdd.logged {ε : Type} {fd : SockFd} {list : σ → List ε} {P : ε → Prop}
    (h : CallsAdd sys fd list P) : CallsAdd sys.logged fd (fun w => list w.world) P where
  setsockopt opt w := h.setsockopt opt w.world
  bind m len w := h.bind m len w.world
  listen backlog w := h.listen backlog w.world
  connect m len w := h.connect m len w.world
  getsockname w := h.getsockname w.world
  getpeername w := h.getpeername w.world
  send data w := h.send data w.world
  sendto data m len w := h.sendto data m len w.world
  recv size peek w := h.recv size peek w.world
  recvfrom size peek w := h.recvfrom size peek w.world
  soError w := h.soError w.world
  shutdown how w := h.shutdown how w.world
  poll events timeout w := h.poll events timeout w.world
  select sets timeout w := h.select sets timeout w.world
  now w := h.now w.world

theorem Sys.logged_calls (sys : Sys σ) (fd : SockFd) :
    CallsAdd sys.logged fd Logged.log fun entry => entry.ofFd = none where
  setsockopt _ _ := ⟨[], rfl, nofun⟩
  bind _ _ _ := ⟨[], rfl, nofun⟩
  listen _ _ := ⟨[], rfl, nofun⟩
  connect _ _ _ := ⟨[_], rfl, fun _ h => List.mem_singleton.mp h ▸ rfl⟩
  getsockname _ := ⟨[], rfl, nofun⟩
  getpeername _ := ⟨[], rfl, nofun⟩
  send _ _ := ⟨[], rfl, nofun⟩
  sendto _ _ _ _ := ⟨[_], rfl, fun _ h => List.mem_singleton.mp h ▸ rfl⟩
  recv _ _ _ := ⟨[], rfl, nofun⟩
  recvfrom _ _ _ := ⟨[_], rfl, fun _ h => List.mem_singleton.mp h ▸ rfl⟩
  soError _ := ⟨[_], rfl, fun _ h => List.mem_singleton.mp h ▸ rfl⟩
  shutdown _ _ := ⟨[], rfl, nofun⟩
  poll _ _ _ := ⟨[], rfl, nofun⟩
  select _ _ _ := ⟨[], rfl, nofun⟩
  now _ := ⟨[], rfl, nofun⟩

theorem Sys.logged_ioctl (sys : Sys σ) (fd : SockFd) (nonBlocking : Bool) :
    Adds Logged.log (fun entry => entry.ofFd = none) (sys.logged.ioctl fd nonBlocking) :=
  fun _ => ⟨[], rfl, nofun⟩

end

abbrev Logged.uses {σ : Type} (w : Logged (Watched σ)) : List Use := w.world.uses

abbrev uses {σ : Type} (os : Os (Logged (Watched σ))) : List Use := os.world.uses

def At {σ : Type} (past : List Use) (log : List (Ledger.Event SockFd))
    (os : Os (Logged (Watched σ))) : Prop :=
  uses os = past ∧ events os = log

section
variable {σ α : Type} {sys : Sys σ} {p : Platform} {past : List Use}
  {log : List (Ledger.Event SockFd)} {fd : SockFd}

structure StaysOn (fd : SockFd) (program : StateM (Os (Logged (Watched σ))) α) : Prop where
  calls : Adds (inWorld Logged.uses) (Use.Calls fd) program
  quiet : Adds (inWorld Logged.log) (fun entry => entry.ofFd = none) program

theorem events_of_quiet {program : StateM (Os (Logged σ)) α}
    (quiet : Adds (inWorld Logged.log) (fun entry => entry.ofFd = none) program)
    (os : Os (Logged σ)) : events (program os).2 = events os := by
  obtain ⟨more, added, unseen⟩ := quiet os
  have grown : (program os).2.world.log = os.world.log ++ more := added
  rw [events, seen, grown, List.filterMap_append, List.filterMap_eq_nil_iff.mpr unseen,
    List.append_nil, events, seen]

theorem watched_calls (sys : Sys σ) (fd : SockFd) :
    CallsAdd sys.watched.logged fd Logged.uses (Use.Calls fd) :=
  (sys.watched_calls fd).logged.weaken fun _ h => h ▸ ⟨rfl, rfl⟩

theorem watched_ioctl (sys : Sys σ) (fd : SockFd) (nonBlocking : Bool) :
    Adds Logged.uses (Use.Calls fd) (sys.watched.logged.ioctl fd nonBlocking) :=
  fun w => sys.watched_ioctl fd nonBlocking w.world

theorem Operation.run_staysOn {op : Operation} (subject : op.subject = some fd)
    (fits : ∀ poll timeoutMs, op = .pollOne fd poll timeoutMs → p = .windows →
      Poll.Windows.intHandle fd = fd) (linux : Bool) (rounds : ℕ) :
    StaysOn fd (op.run sys.watched.logged p linux rounds) where
  calls := by
    refine Operation.run_adds (watched_calls sys fd) (fun nonBlocking _ => watched_ioctl sys fd _)
      ?_ linux rounds subject
    intro poll timeoutMs is windows
    rw [fits poll timeoutMs is windows]
    exact watched_calls sys fd
  quiet := Operation.run_adds (sys.watched.logged_calls fd)
    (fun nonBlocking _ => sys.watched.logged_ioctl fd _) (fun _ _ _ _ => sys.watched.logged_calls _)
    linux rounds subject

theorem establish_staysOn (address : SocketAddress) (nonBlocking : Bool) (timeoutMs : Int32)
    (rounds : ℕ) :
    StaysOn fd (TcpConnect.establish sys.watched.logged.kernel p fd address nonBlocking timeoutMs
      rounds) where
  calls := (watched_calls sys fd).establish (watched_ioctl sys fd) p address nonBlocking timeoutMs
    rounds
  quiet := (sys.watched.logged_calls fd).establish (sys.watched.logged_ioctl fd) p address
    nonBlocking timeoutMs rounds

theorem call_staysOn {f : Logged (Watched σ) → Except ℤ α × Logged (Watched σ)}
    (calls : Adds Logged.uses (Use.Calls fd) f)
    (quiet : Adds Logged.log (fun entry => entry.ofFd = none) f) :
    StaysOn fd (Os.call sys.watched.logged.kernel f) :=
  ⟨Adds.call calls, Adds.call quiet⟩

/-- What is done from the opening of a descriptor on. -/
inductive Session : List Use → Prop
  | untried : Session []
  | going (fd : SockFd) {calls : List Use} (mine : ∀ use ∈ calls, use.Calls fd) :
      Session ([.opened fd] ++ calls)
  | ended (fd : SockFd) {calls : List Use} (mine : ∀ use ∈ calls, use.Calls fd) :
      Session ([.opened fd] ++ calls ++ [.closed fd])

theorem standing_opened (log : List (Ledger.Event SockFd)) (fd : SockFd) :
    standing (log ++ [Use.opened fd].filterMap Use.event) fd = .owned :=
  Ledger.standing_append_self (rfl : (Ledger.Event.opened fd).name = fd) log

theorem Session.allOnOwned {uses : List Use} (h : Session uses) (log : List (Ledger.Event SockFd)) :
    AllOnOwned log uses := by
  have going {fd : SockFd} {calls : List Use} (mine : ∀ use ∈ calls, use.Calls fd) :
      AllOnOwned log ([.opened fd] ++ calls) :=
    AllOnOwned.append.mpr ⟨AllOnOwned.singleton.mpr trivial,
      AllOnOwned.of_calls (.inr (standing_opened log fd)) mine⟩
  cases h with
  | untried => exact AllOnOwned.nil log
  | going fd mine => exact going mine
  | ended fd mine =>
    refine AllOnOwned.append.mpr ⟨going mine, AllOnOwned.singleton.mpr ?_⟩
    rw [List.filterMap_append, AllOnOwned.events_of_calls mine, List.append_nil]
    exact standing_opened log fd

def InSession (past : List Use) (log : List (Ledger.Event SockFd)) (fd : SockFd)
    (os : Os (Logged (Watched σ))) : Prop :=
  ∃ calls, At (past ++ ([.opened fd] ++ calls)) (log ++ [.opened fd]) os ∧
    ∀ use ∈ calls, use.Calls fd

def HadSession (past : List Use) (log : List (Ledger.Event SockFd))
    (os : Os (Logged (Watched σ))) : Prop :=
  ∃ more, At (past ++ more) (log ++ more.filterMap Use.event) os ∧ Session more

theorem At.hadSession {os : Os (Logged (Watched σ))} (h : At past log os) :
    HadSession past log os :=
  ⟨[], by rwa [List.append_nil, List.filterMap_nil, List.append_nil], .untried⟩

theorem InSession.hadSession {os : Os (Logged (Watched σ))} (h : InSession past log fd os) :
    HadSession past log os := by
  obtain ⟨calls, there, mine⟩ := h
  refine ⟨_, ?_, .going fd mine⟩
  rw [List.filterMap_append, AllOnOwned.events_of_calls mine, List.append_nil]
  exact there

theorem StaysOn.inSession {program : StateM (Os (Logged (Watched σ))) α} (h : StaysOn fd program) :
    Ensures (InSession past log fd) program fun _ => InSession past log fd := by
  intro os ⟨calls, ⟨added, entered⟩, mine⟩
  obtain ⟨more, grown, mine'⟩ := h.calls os
  have grown : uses (program os).2 = uses os ++ more := grown
  refine ⟨calls ++ more, ⟨?_, ?_⟩, ?_⟩
  · rw [grown, added]
    simp only [List.append_assoc]
  · rw [events_of_quiet h.quiet, entered]
  · intro use there
    rcases List.mem_append.mp there with there | there
    · exact mine use there
    · exact mine' use there

theorem closeSocket_at :
    Ensures (At past log) (closeSocket sys.watched.logged fd)
      fun _ => At (past ++ [.closed fd]) (log ++ [.closed fd]) := by
  intro os ⟨before, entered⟩
  refine ⟨?_, ?_⟩
  · change uses (Os.call sys.watched.logged.kernel (sys.watched.logged.close fd) os).2 = _
    rw [Os.call, uses, Os.world_after, ← before]
    rfl
  · have closed : Before _ (closeSocket sys.watched.logged fd os).2 := closeSocket_closes fd os rfl
    rw [events_eq, closed, List.map_append, ← events_eq, entered]
    rfl

theorem closeSocket_ends :
    Ensures (InSession past log fd) (closeSocket sys.watched.logged fd)
      fun _ => HadSession past log := by
  intro os ⟨calls, there, mine⟩
  refine ⟨[.opened fd] ++ calls ++ [.closed fd], ?_, .ended fd mine⟩
  have closed : At _ _ (closeSocket sys.watched.logged fd os).2 := closeSocket_at os there
  rw [List.filterMap_append, List.filterMap_append, AllOnOwned.events_of_calls mine,
    List.append_nil]
  simp only [List.append_assoc] at closed ⊢
  exact closed

def Sessions (fdOf : α → SockFd) (past : List Use) (log : List (Ledger.Event SockFd))
    (r : Except Error α) (os : Os (Logged (Watched σ))) : Prop :=
  match r with
  | .ok a => InSession past log (fdOf a) os
  | .error _ => HadSession past log os

theorem Sessions.hadSession {fdOf : α → SockFd} {r : Except Error α} {os : Os (Logged (Watched σ))}
    (h : Sessions fdOf past log r os) : HadSession past log os := by
  cases r with
  | ok a => exact InSession.hadSession h
  | error e => exact h

theorem newSocket_sessions (family : Family) (type : SockType) :
    Ensures (At past log) (newSocket sys.watched.logged.kernel p family type)
      (Sessions id past log) := by
  refine newSocket_ensures ?_ ?_ ?_
  · rintro os fd w ⟨rfl, rfl⟩ started h
    obtain ⟨answer, rfl⟩ := Prod.mk.inj h
    have opened : (sys.socket family type os.world.world.world).1 = .ok fd := answer
    refine ⟨[], ⟨?_, ?_⟩, nofun⟩
    · exact congrArg (fun returned => uses os ++ openedNote returned) opened
    · have log := congrArg (fun returned =>
        (os.world.log ++ Logged.openedIn (some family) id returned).filterMap Entry.ofFd) opened
      exact log.trans (List.filterMap_append)
  · exact fun os e before started => before.hadSession
  · rintro os code w ⟨rfl, rfl⟩ h
    obtain ⟨answer, rfl⟩ := Prod.mk.inj h
    have refused : (sys.socket family type os.world.world.world).1 = .error code := answer
    refine At.hadSession ⟨?_, ?_⟩
    · have noted := congrArg (fun returned => uses os ++ openedNote returned) refused
      exact noted.trans (List.append_nil _)
    · have log := congrArg (fun returned =>
        (os.world.log ++ Logged.openedIn (some family) id returned).filterMap Entry.ofFd) refused
      exact log.trans (congrArg _ (List.append_nil _))

theorem closeAndFail_sessions :
    Ensures (InSession past log fd) (closeAndFail sys.watched.logged p fd)
      (Sessions id past log) :=
  Ensures.bind _ closeSocket_ends fun _ _ closed => closed

theorem silent_staysOn {f : Watched σ → Except ℤ α × Watched σ}
    (calls : Adds Watched.uses (· = .on fd) f) :
    StaysOn fd (Os.call sys.watched.logged.kernel (Logged.silent f)) :=
  call_staysOn (fun w => (calls.weaken fun _ h => h ▸ ⟨rfl, rfl⟩) w.world) fun _ => ⟨[], rfl, nofun⟩

theorem bindNewSocket_sessions (address : SocketAddress) :
    Ensures (InSession past log fd) (bindNewSocket sys.watched.logged p address fd)
      (Sessions id past log) := by
  refine Ensures.bind _ (silent_staysOn ((sys.watched_calls fd).bind _ _)).inSession
    fun returned => ?_
  cases returned with
  | none => exact closeAndFail_sessions
  | some a => exact Ensures.pure fun os h => h

theorem newBoundSocket_sessions (address : SocketAddress) (type : SockType) :
    Ensures (At past log) (newBoundSocket sys.watched.logged p address type)
      (Sessions id past log) := by
  refine Ensures.bind _ (newSocket_sessions address.family type) fun r => ?_
  cases r with
  | error err => exact Ensures.pure fun os h => h
  | ok sock =>
    refine Ensures.ite (fun v6 => ?_) fun v4 => bindNewSocket_sessions address
    refine Ensures.bind _ (silent_staysOn ((sys.watched_calls sock).setsockopt _)).inSession
      fun returned => ?_
    cases returned with
    | none => exact closeAndFail_sessions
    | some a => exact bindNewSocket_sessions address

theorem udpBind_sessions (address : SocketAddress) :
    Ensures (At past log) (UdpSocket.bind sys.watched.logged p address)
      (Sessions UdpSocket.fd past log) := by
  refine Ensures.bind _ (newBoundSocket_sessions address .dgram) fun r => ?_
  cases r with
  | error err => exact Ensures.pure fun os h => h
  | ok fd => exact Ensures.pure fun os h => h

theorem listenerBind_sessions (address : SocketAddress) :
    Ensures (At past log) (TcpListener.bind sys.watched.logged p address)
      (Sessions TcpListener.fd past log) := by
  refine Ensures.bind _ (newBoundSocket_sessions address .stream) fun r => ?_
  cases r with
  | error err => exact Ensures.pure fun os h => h
  | ok sock =>
    refine Ensures.bind _ (silent_staysOn ((sys.watched_calls sock).listen _)).inSession
      fun returned => ?_
    cases returned with
    | none =>
      refine Ensures.bind _ closeAndFail_sessions fun r => ?_
      cases r with
      | error err => exact Ensures.pure fun os h => h
      | ok fd => exact Ensures.pure fun os h => h
    | some a => exact Ensures.pure fun os h => h

/-- A connection attempt that does not end leaves its descriptor open. -/
def Attempted (fdOf : α → SockFd) (past : List Use) (log : List (Ledger.Event SockFd))
    (r : Option (Except Error α)) (os : Os (Logged (Watched σ))) : Prop :=
  match r with
  | none => HadSession past log os
  | some res => Sessions fdOf past log res os

theorem connectInternal_sessions (address : SocketAddress) (nonBlocking : Bool) (timeoutMs : Int32)
    (rounds : ℕ) :
    Ensures (At past log)
      (TcpConnect.connectInternal sys.watched.logged.kernel p address nonBlocking timeoutMs rounds)
      (Attempted id past log) := by
  refine Ensures.bind _ (newSocket_sessions address.family .stream) fun r => ?_
  cases r with
  | error err => exact Ensures.pure fun os h => h
  | ok fd =>
    refine Ensures.bind _ (establish_staysOn address nonBlocking timeoutMs rounds).inSession
      fun r => ?_
    match r with
    | none => exact Ensures.pure fun os h => h.hadSession
    | some (.ok _) => exact Ensures.pure fun os h => h
    | some (.error err) =>
      exact Ensures.bind _ closeSocket_ends fun _ => Ensures.pure fun os h => h

theorem connect_sessions (address : SocketAddress) (timeoutMs : Int32) (rounds : ℕ) :
    Ensures (At past log) (TcpStream.connect sys.watched.logged p address timeoutMs rounds)
      (Attempted TcpStream.fd past log) := by
  refine Ensures.bind _ (connectInternal_sessions address false timeoutMs rounds) fun r => ?_
  match r with
  | none => exact Ensures.pure fun os h => h
  | some (.ok _) => exact Ensures.pure fun os h => h
  | some (.error err) => exact Ensures.pure fun os h => h

theorem connectNonBlocking_sessions (address : SocketAddress) (rounds : ℕ) :
    Ensures (At past log) (TcpStream.connectNonBlocking sys.watched.logged p address rounds)
      (Attempted TcpStream.fd past log) := by
  refine Ensures.bind _ (connectInternal_sessions address true 0 rounds) fun r => ?_
  match r with
  | none => exact Ensures.pure fun os h => h
  | some (.ok _) => exact Ensures.pure fun os h => h
  | some (.error err) => exact Ensures.pure fun os h => h

def AfterAccept (listener : SockFd) (fdOf : α → SockFd) (past : List Use)
    (log : List (Ledger.Event SockFd)) (r : Except Error α) (os : Os (Logged (Watched σ))) : Prop :=
  match r with
  | .ok a => At (past ++ [.on listener, .accepted (fdOf a)]) (log ++ [.opened (fdOf a)]) os
  | .error _ => At (past ++ [.on listener]) log os

theorem mapResult_accept (listener : SockFd) :
    Ensures (At past log) (mapResult sys.watched.logged p (sys.watched.logged.accept listener))
      (AfterAccept listener Prod.fst past log) := by
  rintro os ⟨rfl, rfl⟩
  have uses_eq : ((sys.watched.logged.accept listener) os.world).2.uses =
      uses os ++ acceptedNote listener (sys.accept listener os.world.world.world).1 := rfl
  have log_eq : ((sys.watched.logged.accept listener) os.world).2.log =
      os.world.log ++ Logged.openedIn none Prod.fst (sys.accept listener os.world.world.world).1 :=
    rfl
  have answer : ((sys.watched.logged.accept listener) os.world).1 =
      (sys.accept listener os.world.world.world).1 := rfl
  cases h : sys.watched.logged.accept listener os.world with
  | mk returned w =>
    rw [h] at uses_eq log_eq answer
    cases returned with
    | error code =>
      rw [mapResult_error h]
      rw [← answer] at uses_eq log_eq
      refine ⟨uses_eq, ?_⟩
      exact congrArg (List.filterMap Entry.ofFd) (log_eq.trans (List.append_nil _))
    | ok made =>
      rw [mapResult_ok h]
      rw [← answer] at uses_eq log_eq
      refine ⟨uses_eq, ?_⟩
      exact (congrArg (List.filterMap Entry.ofFd) log_eq).trans List.filterMap_append

theorem accept_uses (listener : TcpListener) :
    Ensures (At past log) (TcpListener.accept sys.watched.logged p listener) fun r os =>
      ∀ res, r = some res →
        AfterAccept listener.fd (fun made : TcpStream × SocketAddress => made.1.fd) past log res
          os := by
  refine Ensures.bind _ (mapResult_accept listener.fd) fun r => ?_
  cases r with
  | error err =>
    refine Ensures.pure fun os h => ?_
    rintro _ ⟨⟩
    exact h
  | ok made =>
    refine Ensures.pure fun os h => ?_
    intro res is
    obtain ⟨address, -, rfl⟩ := Option.map_eq_some_iff.mp is
    exact h

end
end Qsox
