import Qsox.ConnectLog
import Qsox.TcpStream
import Qsox.UdpSocket

/-! The functions that make a socket, by what they leave in the ledger of
descriptors: the one they return, or nothing that stays open. -/

namespace Qsox

open BaseSocket
open Resolver (SockAddr)

abbrev events {σ : Type} (os : Os (Logged σ)) : List (Ledger.Event SockFd) := seen Entry.ofFd os

abbrev FamilyLog := List (Ledger.Event SockFd × Option Family)

abbrev descriptors {σ : Type} (os : Os (Logged σ)) : FamilyLog := seen Entry.ofDescriptor os

theorem events_eq {σ : Type} (os : Os (Logged σ)) : events os = (descriptors os).map Prod.fst := by
  rw [events, descriptors, seen, seen, List.map_filterMap]
  congr 1
  funext entry
  cases entry <;> rfl

/-- The ledger after the creation of a socket of the family. -/
inductive Leaves (family : Option Family) (past : FamilyLog) :
    Except Error SockFd → FamilyLog → Prop
  | made (fd : SockFd) : Leaves family past (.ok fd) (past ++ [(.opened fd, family)])
  | untried (err : Error) : Leaves family past (.error err) past
  | aborted (err : Error) (fd : SockFd) :
      Leaves family past (.error err) (past ++ [(.opened fd, family)] ++ [(.closed fd, none)])

section
variable {σ α β : Type}

def Before (past : FamilyLog) (os : Os (Logged σ)) : Prop := descriptors os = past

def Opened (family : Option Family) (past : FamilyLog) (fd : SockFd) (os : Os (Logged σ)) : Prop :=
  descriptors os = past ++ [(.opened fd, family)]

def Created (family : Option Family) (fdOf : α → SockFd) (past : FamilyLog) (r : Except Error α)
    (os : Os (Logged σ)) : Prop := Leaves family past (r.map fdOf) (descriptors os)

variable {family : Option Family} {past : FamilyLog} {fdOf : α → SockFd} {fdOf' : β → SockFd}

theorem Before.untried {os : Os (Logged σ)} (h : Before past os) (err : Error) :
    Created family fdOf past (.error err) os := by
  have ledger : descriptors os = past := h
  rw [Created, ledger]
  exact .untried err

theorem Opened.made {os : Os (Logged σ)} {a : α} (h : Opened family past (fdOf a) os) :
    Created family fdOf past (.ok a) os := by
  have ledger : descriptors os = past ++ [(.opened (fdOf a), family)] := h
  rw [Created, ledger]
  exact .made (fdOf a)

theorem Created.opened {os : Os (Logged σ)} {a : α} (h : Created family fdOf past (.ok a) os) :
    Opened family past (fdOf a) os := by
  unfold Created at h
  generalize same : descriptors os = ledger at h
  cases h with
  | made fd => exact same

theorem Created.error {os : Os (Logged σ)} {err : Error}
    (h : Created family fdOf past (.error err) os) : Created family fdOf' past (.error err) os := h

theorem Created.mapValue {os : Os (Logged σ)} {r : Except Error α}
    (h : Created family fdOf past r os) {f : α → β} (same : ∀ a, fdOf' (f a) = fdOf a) :
    Created family fdOf' past (r.map f) os := by
  cases r with
  | error err => exact h
  | ok a =>
    have opened := h.opened
    rw [← same a] at opened
    exact opened.made

end

section
variable {σ : Type} {sys : Sys σ} {p : Platform} {family : Option Family} {past : FamilyLog}

theorem closeSocket_closes (fd : SockFd) :
    Ensures (Before past) (closeSocket sys.logged fd)
      fun _ => Before (past ++ [(.closed fd, none)]) :=
  Ensures.bind _ call_seen fun _ => Ensures.pure fun _ h => h

theorem newSocket_creates (family : Family) (type : SockType) :
    Ensures (Before past) (newSocket sys.logged.kernel p family type)
      (Created (some family) id past) := by
  rw [newSocket]
  cases startupSockets sys.logged.kernel p with
  | error err => exact Ensures.pure fun os before => before.untried err
  | ok a =>
    refine Ensures.bind _ call_seen fun returned => ?_
    cases returned with
    | none =>
      intro os before
      have unchanged : Before past os := before.trans (List.append_nil past)
      exact unchanged.untried _
    | some fd =>
      refine Ensures.pure fun os opened => ?_
      have opened : Opened (some family) past (id fd) os := opened
      exact opened.made

theorem closeAndFail_creates (fd : SockFd) :
    Ensures (Opened family past fd) (closeAndFail sys.logged p fd) (Created family id past) := by
  refine Ensures.bind _ (closeSocket_closes fd) fun _ os closed => ?_
  have ended : descriptors os = past ++ [(.opened fd, family)] ++ [(.closed fd, none)] := closed
  change Leaves family past (.error _) (descriptors os)
  rw [ended]
  exact .aborted _ fd

theorem silent_opened {α : Type} {k : Kernel (Logged σ)} {f : σ → Except ℤ α × σ} (fd : SockFd) :
    Ensures (Opened family past fd) (Os.call k (Logged.silent f))
      fun _ => Opened family past fd :=
  fun os opened => (Keeps.silent os).trans opened

theorem bindNewSocket_creates (address : SocketAddress) (sock : SockFd) :
    Ensures (Opened family past sock) (bindNewSocket sys.logged p address sock)
      (Created family id past) := by
  refine Ensures.bind _ (silent_opened sock) fun returned => ?_
  cases returned with
  | none => exact closeAndFail_creates sock
  | some a =>
    refine Ensures.pure fun os opened => ?_
    have opened : Opened family past (id sock) os := opened
    exact opened.made

theorem newBoundSocket_creates (address : SocketAddress) (type : SockType) :
    Ensures (Before past) (newBoundSocket sys.logged p address type)
      (Created (some address.family) id past) := by
  refine Ensures.bind _ (newSocket_creates address.family type) fun r => ?_
  cases r with
  | error err => exact Ensures.pure fun os h => h
  | ok sock =>
    refine Ensures.strengthen (fun os h => h.opened) ?_
    refine Ensures.ite (fun v6 => ?_) fun v4 => bindNewSocket_creates address sock
    refine Ensures.bind _ (silent_opened sock) fun returned => ?_
    cases returned with
    | none => exact closeAndFail_creates sock
    | some a => exact bindNewSocket_creates address sock

theorem udpBind_creates (address : SocketAddress) :
    Ensures (Before past) (UdpSocket.bind sys.logged p address)
      (Created (some address.family) UdpSocket.fd past) :=
  Ensures.bind _ (newBoundSocket_creates address .dgram) fun _ =>
    Ensures.pure fun _ created => created.mapValue fun _ => rfl

theorem listenerBind_creates (address : SocketAddress) :
    Ensures (Before past) (TcpListener.bind sys.logged p address)
      (Created (some address.family) TcpListener.fd past) := by
  refine Ensures.bind _ (newBoundSocket_creates address .stream) fun r => ?_
  cases r with
  | error err => exact Ensures.pure fun os h => h
  | ok sock =>
    refine Ensures.strengthen (fun os h => h.opened) ?_
    refine Ensures.bind _ (silent_opened sock) fun returned => ?_
    cases returned with
    | none =>
      exact Ensures.bind _ (closeAndFail_creates sock) fun r =>
        Ensures.pure fun os created => created.mapValue fun _ => rfl
    | some a =>
      refine Ensures.pure fun os opened => ?_
      have opened : Opened (some address.family) past (TcpListener.fd ⟨sock⟩) os := opened
      exact opened.made

def Returned {α : Type} (family : Option Family) (fdOf : α → SockFd) (past : FamilyLog)
    (r : Option (Except Error α)) (os : Os (Logged σ)) : Prop :=
  ∀ res, r = some res → Created family fdOf past res os

theorem Returned.of_none {α : Type} {fdOf : α → SockFd} {os : Os (Logged σ)} :
    Returned family fdOf past none os := nofun

theorem Returned.of_some {α : Type} {fdOf : α → SockFd} {os : Os (Logged σ)} {res : Except Error α}
    (h : Created family fdOf past res os) : Returned family fdOf past (some res) os := by
  rintro _ ⟨⟩
  exact h

theorem Returned.mapValue {α β : Type} {fdOf : α → SockFd} {fdOf' : β → SockFd} {os : Os (Logged σ)}
    {r : Option (Except Error α)} (h : Returned family fdOf past r os) {f : α → β}
    (same : ∀ a, fdOf' (f a) = fdOf a) :
    Returned family fdOf' past (r.map fun res => res.map f) os := by
  intro res is
  obtain ⟨res, returned, rfl⟩ := Option.map_eq_some_iff.mp is
  exact (h res returned).mapValue same

theorem connectInternal_creates (address : SocketAddress) (nonBlocking : Bool) (timeoutMs : Int32)
    (rounds : ℕ) :
    Ensures (Before past)
      (TcpConnect.connectInternal sys.logged.kernel p address nonBlocking timeoutMs rounds)
      (Returned (some address.family) id past) := by
  refine Ensures.bind _ (newSocket_creates address.family .stream) fun r => ?_
  cases r with
  | error err => exact Ensures.pure fun os h => Returned.of_some h
  | ok fd =>
    refine Ensures.strengthen (fun os h => h.opened) ?_
    have quiet : Keeps (seen Entry.ofDescriptor)
        (TcpConnect.establish sys.logged.kernel p fd address nonBlocking timeoutMs rounds) :=
      TcpConnect.establish_keeps fd address (fun _ _ => rfl) (fun _ => rfl) p nonBlocking timeoutMs
        rounds
    have still : Ensures (Opened (some address.family) past (id fd))
        (TcpConnect.establish sys.logged.kernel p fd address nonBlocking timeoutMs rounds)
        fun _ => Opened (some address.family) past fd :=
      fun os opened => (quiet os).trans opened
    refine Ensures.bind _ still fun r => ?_
    match r with
    | none => exact Ensures.pure fun os _ => Returned.of_none
    | some (.ok _) =>
      refine Ensures.pure fun os opened => Returned.of_some ?_
      have opened : Opened (some address.family) past (id fd) os := opened
      exact opened.made
    | some (.error err) =>
      refine Ensures.bind _ call_seen fun _ => Ensures.pure fun os closed => Returned.of_some ?_
      have ended : descriptors os =
          past ++ [(.opened fd, some address.family)] ++ [(.closed fd, none)] := closed
      rw [Created, ended]
      exact .aborted err fd

theorem connect_creates (address : SocketAddress) (timeoutMs : Int32) (rounds : ℕ) :
    Ensures (Before past) (TcpStream.connect sys.logged p address timeoutMs rounds)
      (Returned (some address.family) TcpStream.fd past) :=
  Ensures.bind _ (connectInternal_creates address false timeoutMs rounds) fun _ =>
    Ensures.pure fun _ made => made.mapValue fun _ => rfl

theorem connectNonBlocking_creates (address : SocketAddress) (rounds : ℕ) :
    Ensures (Before past) (TcpStream.connectNonBlocking sys.logged p address rounds)
      (Returned (some address.family) TcpStream.fd past) :=
  Ensures.bind _ (connectInternal_creates address true 0 rounds) fun _ =>
    Ensures.pure fun _ made => made.mapValue fun _ => rfl

theorem accept_creates (listener : TcpListener) :
    Ensures (Before past) (TcpListener.accept sys.logged p listener)
      (Returned none (fun made : TcpStream × SocketAddress => made.1.fd) past) := by
  refine Ensures.bind
    (fun r os => Created none (fun made : SockFd × SockAddr => made.1) past r os) ?_ ?_
  · refine Ensures.bind _ call_seen fun returned => ?_
    cases returned with
    | none =>
      intro os before
      have unchanged : Before past os := before.trans (List.append_nil past)
      exact unchanged.untried _
    | some made =>
      refine Ensures.pure fun os opened => ?_
      have opened : Opened none past made.1 os := opened
      exact opened.made
  · intro r
    cases r with
    | error err => exact Ensures.pure fun os h => Returned.of_some h
    | ok made =>
      refine Ensures.pure fun os created => ?_
      cases read : SockAddrAny.toSocketAddress sys.logged.abi made.2 with
      | none => exact Returned.of_none
      | some address =>
        have opened : Opened none past made.1 os := created.opened
        exact Returned.of_some opened.made

end
end Qsox
