import Qsox.Ledger
import Qsox.Sys

/-! A system that keeps a log of what statements speak about: the descriptors that
come and go, the addresses that are handed over and reported, the answers of
`connect` and those of `SO_ERROR`. A view of the log is a function that picks
entries; most calls leave most views alone. -/

namespace Qsox

open Resolver (SockAddr)

structure Destination where
  address : SockAddr
  length : ℕ
  deriving DecidableEq, Repr

/-- The family is that of the descriptors that `socket` has opened. -/
inductive Entry
  | fd (event : Ledger.Event SockFd) (family : Option Family)
  | connect (given : Destination) (returned : Except ℤ Unit)
  | soError (returned : Except ℤ ℤ)
  | sendto (given : Destination)
  | recvfrom (returned : Except ℤ SockAddr)

structure Logged (σ : Type) where
  world : σ
  log : List Entry

namespace Logged

variable {σ α : Type}

/-- The call on the world, with the entries for its answer. -/
def noting (note : α → List Entry) (f : σ → α × σ) (w : Logged σ) : α × Logged σ :=
  ((f w.world).1, ⟨(f w.world).2, w.log ++ note (f w.world).1⟩)

def silent (f : σ → α × σ) : Logged σ → α × Logged σ := noting (fun _ => []) f

theorem noting_log {note : α → List Entry} {f : σ → α × σ} {w w' : Logged σ} {a : α}
    (h : noting note f w = (a, w')) : w'.log = w.log ++ note a := by
  obtain ⟨rfl, rfl⟩ := Prod.mk.inj h
  rfl

def openedIn (family : Option Family) (fdOf : α → SockFd) : Except ℤ α → List Entry
  | .ok a => [.fd (.opened (fdOf a)) family]
  | .error _ => []

end Logged

open Logged in
def Sys.logged {σ : Type} (sys : Sys σ) : Sys (Logged σ) where
  abi := sys.abi
  startup := sys.startup
  socket family type := noting (openedIn (some family) id) (sys.socket family type)
  close fd := noting (fun _ => [.fd (.closed fd) none]) (sys.close fd)
  ioctl fd nonBlocking := silent (sys.ioctl fd nonBlocking)
  setsockopt fd opt := silent (sys.setsockopt fd opt)
  bind fd m len := silent (sys.bind fd m len)
  listen fd backlog := silent (sys.listen fd backlog)
  accept fd := noting (openedIn none Prod.fst) (sys.accept fd)
  connect fd m len :=
    noting (fun returned => [.connect ⟨m, len⟩ returned]) (sys.connect fd m len)
  getsockname fd := silent (sys.getsockname fd)
  getpeername fd := silent (sys.getpeername fd)
  send fd data := silent (sys.send fd data)
  sendto fd data m len := noting (fun _ => [.sendto ⟨m, len⟩]) (sys.sendto fd data m len)
  recv fd size peek := silent (sys.recv fd size peek)
  recvfrom fd size peek :=
    noting (fun returned => [.recvfrom (returned.map Prod.snd)]) (sys.recvfrom fd size peek)
  soError fd := noting (fun returned => [.soError returned]) (sys.soError fd)
  shutdown fd how := silent (sys.shutdown fd how)
  poll fd events timeout := silent (sys.poll fd events timeout)
  select fd sets timeout := silent (sys.select fd sets timeout)
  now := silent sys.now
  errnoLeft w := sys.errnoLeft w.world

theorem Sys.called_logged {σ : Type} (sys : Sys σ) (p : Platform) :
    sys.logged.called p = (sys.called p).logged := by
  cases p with
  | posix => rfl
  | windows =>
    have received : (sys.logged.called .windows).recvfrom =
        (sys.called .windows).logged.recvfrom := by
      funext fd size peek w
      simp only [called, logged, answering, Logged.noting]
      cases (sys.recvfrom fd (Platform.windows.len size) peek w.world).1 <;> rfl
    exact congrArg (fun call => { (sys.called .windows).logged with recvfrom := call }) received

def Os.fresh {σ : Type} (world : σ) (errno : ℤ) : Os (Logged σ) := ⟨⟨world, []⟩, errno, []⟩

namespace Entry

variable {β : Type}

def ofFd : Entry → Option (Ledger.Event SockFd)
  | fd event _ => some event
  | _ => none

def ofDescriptor : Entry → Option (Ledger.Event SockFd × Option Family)
  | fd event family => some (event, family)
  | _ => none

def ofConnect : Entry → Option (Except ℤ Unit)
  | connect _ returned => some returned
  | _ => none

def ofDestination : Entry → Option Destination
  | connect given _ => some given
  | sendto given => some given
  | _ => none

def ofSource : Entry → Option SockAddr
  | recvfrom (.ok source) => some source
  | _ => none

def ofSoError : Entry → Option (Except ℤ ℤ)
  | soError returned => some returned
  | _ => none

end Entry

def seen {σ β : Type} (pick : Entry → Option β) (os : Os (Logged σ)) : List β :=
  os.world.log.filterMap pick

section
variable {σ α β : Type} {k : Kernel (Logged σ)} {pick : Entry → Option β}

theorem Keeps.getErrno : Keeps (seen pick) (Os.getErrno : StateM (Os (Logged σ)) ℤ) := fun _ => rfl

theorem Keeps.lastOsError (p : Platform) :
    Keeps (seen pick) (Os.lastOsError p : StateM (Os (Logged σ)) Error) := fun _ => rfl

theorem call_seen {note : Except ℤ α → List Entry} {f : σ → Except ℤ α × σ} {view : List β} :
    Ensures (fun os => seen pick os = view) (Os.call k (Logged.noting note f))
      fun returned os => seen pick os = view ++ (note (os.answer returned)).filterMap pick := by
  refine Os.call_ensures ?_ ?_
  · intro os a w before h
    rw [← before, seen, Logged.noting_log h, List.filterMap_append]
    rfl
  · intro os code w before h
    rw [← before, seen, Logged.noting_log h, List.filterMap_append]
    rfl

theorem Keeps.call {note : Except ℤ α → List Entry} {f : σ → Except ℤ α × σ}
    (unseen : ∀ returned, (note returned).filterMap pick = []) :
    Keeps (seen pick) (Os.call k (Logged.noting note f)) := by
  intro os
  rw [call_seen os rfl, unseen, List.append_nil]

theorem Keeps.silent {f : σ → Except ℤ α × σ} :
    Keeps (seen pick) (Os.call k (Logged.silent f)) :=
  Keeps.call fun _ => rfl

end

section
variable {σ β : Type} {sys : Sys σ} {p : Platform} {pick : Entry → Option β}

theorem log_connect (sys : Sys σ) (fd : SockFd) (address : SocketAddress) (os : Os (Logged σ)) :
    ∃ given returned, (Os.connect sys.logged.kernel fd address os).2.world.log =
        os.world.log ++ [.connect given returned] ∧
      ((Os.connect sys.logged.kernel fd address os).1 = none →
        returned = .error (Os.connect sys.logged.kernel fd address os).2.errno) := by
  simp only [Os.connect, Sys.kernel, Sys.logged, Logged.noting]
  cases (sys.connect fd (SockAddrAny.ofSocketAddress sys.abi address)
      (SockAddrAny.size sys.abi (SockAddrAny.ofSocketAddress sys.abi address)) os.world.world).1 with
  | ok a =>
    refine ⟨_, .ok a, rfl, ?_⟩
    intro refused
    cases refused
  | error code => exact ⟨_, .error code, rfl, fun _ => rfl⟩

theorem Keeps.connect (unseen : ∀ given returned, pick (.connect given returned) = none)
    (fd : SockFd)
    (address : SocketAddress) : Keeps (seen pick) (Os.connect sys.logged.kernel fd address) := by
  intro os
  obtain ⟨given, returned, log, -⟩ := log_connect sys fd address os
  rw [seen, log, List.filterMap_append, List.filterMap_cons_none (unseen given returned),
    List.filterMap_nil, List.append_nil, seen]

theorem Keeps.poll (fd : SockFd) (events : PollEvents) (timeout : Int32) :
    Keeps (seen pick) (Os.poll sys.logged.kernel fd events timeout) := by
  intro os
  simp only [Os.poll, Sys.kernel, Sys.logged, Logged.silent, Logged.noting]
  cases (sys.poll fd events timeout os.world.world).1.1 with
  | ok found => simp [Os.after, Except.map, Os.record, seen]
  | error code => simp [Os.after, Except.map, Os.record, seen]

theorem Keeps.now : Keeps (seen pick) (Os.now sys.logged.kernel) := by
  intro os
  simp [Os.now, Sys.kernel, Sys.logged, Logged.silent, Logged.noting, Os.record, seen]

theorem Keeps.select (fd : SockFd) (timeout : Timeval) :
    Keeps (seen pick) (Os.select sys.logged.kernel fd timeout) := by
  intro os
  simp only [Os.select, Os.call, Sys.kernel, Sys.logged, Logged.silent, Logged.noting]
  cases (sys.select fd ⟨⟨true, true⟩, false⟩ timeout os.world.world).1 with
  | ok found => simp [Os.after, Except.map, seen]
  | error code => simp [Os.after, Except.map, seen]

theorem Keeps.soError (unseen : ∀ returned, pick (.soError returned) = none) (fd : SockFd) :
    Keeps (seen pick) (Os.soError sys.logged.kernel fd) :=
  Keeps.call fun returned => List.filterMap_cons_none (unseen returned)

theorem Keeps.setNonBlocking (fd : SockFd) (nonBlocking : Bool) :
    Keeps (seen pick) (BaseSocket.setNonBlocking sys.logged.kernel p fd nonBlocking) := by
  refine Keeps.bind Keeps.silent fun returned => ?_
  cases returned with
  | none => exact Keeps.bind (Keeps.lastOsError p) fun _ => Keeps.pure _
  | some a => exact Keeps.pure _

section
variable (unseen : ∀ event family, pick (.fd event family) = none)
include unseen

theorem Keeps.close (fd : SockFd) : Keeps (seen pick) (Os.close sys.logged.kernel fd) :=
  Keeps.call fun _ => List.filterMap_cons_none (unseen _ _)

theorem Keeps.newSocket (family : Family) (type : SockType) :
    Keeps (seen pick) (BaseSocket.newSocket sys.logged.kernel p family type) := by
  rw [BaseSocket.newSocket]
  cases BaseSocket.startupSockets sys.logged.kernel p with
  | error e => exact Keeps.pure _
  | ok a =>
    refine Keeps.bind (Keeps.call fun returned => ?_) fun returned => ?_
    · cases returned with
      | ok fd => exact List.filterMap_cons_none (unseen _ _)
      | error code => rfl
    · cases returned with
      | none => exact Keeps.bind (Keeps.lastOsError p) fun _ => Keeps.pure _
      | some sock => exact Keeps.pure _

end

theorem Keeps.getSocketError (unseen : ∀ returned, pick (.soError returned) = none)
    (fd : SockFd) :
    Keeps (seen pick) (BaseSocket.getSocketError sys.logged.kernel p fd) := by
  refine Keeps.bind (Keeps.soError unseen fd) fun returned => ?_
  cases returned with
  | none => exact Keeps.lastOsError p
  | some err => exact Keeps.pure _

end

end Qsox
