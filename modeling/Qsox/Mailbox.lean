import Qsox.UdpSocket

/-! The receive queue of a datagram socket, and when a failed read leaves the sender
argument and the queue as they were. -/

namespace Qsox

open Resolver (SockAddr)

structure Datagram (abi : Abi) where
  data : List UInt8
  source : SockAddr
  address : SocketAddress
  decoded : SockAddrAny.toSocketAddress abi source = some address

/-- With the failure that the next call will report, if there is one. -/
structure Mailbox (abi : Abi) where
  refusal : Option ℤ
  queue : List (Datagram abi)

namespace Mailbox

section
variable {abi : Abi} (p : Platform) (size : ℕ)

/-- Windows refuses to cut a datagram that does not fit; it is lost all the same. -/
def Refuses (d : Datagram abi) : Prop := p = .windows ∧ size < d.data.length

instance (d : Datagram abi) : Decidable (Refuses p size d) := inferInstanceAs (Decidable (_ ∧ _))

def nothingQueued : ℤ :=
  match p with
  | .posix => Posix.ewouldblock
  | .windows => Winsock.wsaewouldblock

def receive (peek : Bool) (box : Mailbox abi) :
    Except ℤ ({ bytes : List UInt8 // bytes.length ≤ size } × SockAddr) × Mailbox abi :=
  match box.refusal, box.queue with
  | some code, _ => (.error code, { box with refusal := none })
  | none, [] => (.error (nothingQueued p), box)
  | none, d :: rest =>
    (if Refuses p size d then .error Winsock.wsaemsgsize
      else .ok (⟨d.data.take size, List.length_take_le size d.data⟩, d.source),
      { box with queue := if peek then d :: rest else rest })

end

def serving (abi : Abi) (p : Platform) : Sys (Mailbox abi) :=
  { Sys.refusing 0 with
    abi := abi
    recvfrom := fun _ size peek => receive p size peek }

def next {abi : Abi} (box : Mailbox abi) : Option (Datagram abi) :=
  match box.refusal with
  | some _ => none
  | none => box.queue.head?

end Mailbox

/-- The sender argument, which selects the overload. -/
inductive Sender
  | any (a : SocketAddress)
  | v4 (a : SocketAddressV4)
  | v6 (a : SocketAddressV6)
  deriving DecidableEq, Repr

namespace Sender

/-- What a failed call makes of the argument. -/
def blank : Sender → Sender
  | any a => any a
  | v4 _ => v4 ⟨.unspecified, 0⟩
  | v6 _ => v6 ⟨.unspecified, 0⟩

def narrow : Sender → SocketAddress → Option Sender
  | any _, a => some (any a)
  | v4 _, a => (UdpSocket.asV4 a).map v4
  | v6 _, a => (UdpSocket.asV6 a).map v6

end Sender

namespace UdpSocket

section
variable {σ : Type} (sys : Sys σ) (p : Platform)

def readFrom (peek : Bool) (sock : UdpSocket) (size : ℕ) : Sender → StateM (Os σ)
    (Option (Except Error { bytes : List UInt8 // bytes.length ≤ size } × Sender))
  | .any a => (Option.map fun out => (out.1, .any out.2)) <$>
    if peek then sock.peekFrom sys p size a else sock.recvFrom sys p size a
  | .v4 a => (Option.map fun out => (out.1, .v4 out.2)) <$>
    if peek then sock.peekFromV4 sys p size a else sock.recvFromV4 sys p size a
  | .v6 a => (Option.map fun out => (out.1, .v6 out.2)) <$>
    if peek then sock.peekFromV6 sys p size a else sock.recvFromV6 sys p size a

end

section
variable {σ : Type} {sys : Sys σ} {p : Platform} {peek : Bool} {sock : UdpSocket} {size : ℕ}
  {sender : Sender} {os : Os σ} {w : σ}

theorem readFrom_error {code : ℤ}
    (h : (sys.called p).recvfrom sock.fd size peek os.world = (.error code, w)) :
    readFrom sys p peek sock size sender os =
      (some (.error (p.lastOsError code), sender.blank), ⟨w, code, os.trace⟩) := by
  cases sender with
  | any a => cases peek <;> exact map_of_eq (recvFromWith_error h)
  | v4 a => cases peek <;> exact map_of_eq (recvFromFamily_error (by rfl) h)
  | v6 a => cases peek <;> exact map_of_eq (recvFromFamily_error (by rfl) h)

variable {bytes : { bytes : List UInt8 // bytes.length ≤ size }} {storage : SockAddr}
  {address : SocketAddress}

theorem readFrom_other
    (h : (sys.called p).recvfrom sock.fd size peek os.world = (.ok (bytes, storage), w))
    (decoded : SockAddrAny.toSocketAddress sys.abi storage = some address)
    (other : sender.narrow address = none) :
    readFrom sys p peek sock size sender os =
      (some (.error (.ofCode .unsupportedFamily), sender), ⟨w, sys.errnoLeft w, os.trace⟩) := by
  cases sender with
  | any a => cases other
  | v4 a =>
    have unread := Option.map_eq_none_iff.mp other
    cases peek <;> exact map_of_eq (recvFromFamily_other h decoded unread)
  | v6 a =>
    have unread := Option.map_eq_none_iff.mp other
    cases peek <;> exact map_of_eq (recvFromFamily_other h decoded unread)

theorem readFrom_ok {read : Sender}
    (h : (sys.called p).recvfrom sock.fd size peek os.world = (.ok (bytes, storage), w))
    (decoded : SockAddrAny.toSocketAddress sys.abi storage = some address)
    (own : sender.narrow address = some read) :
    readFrom sys p peek sock size sender os =
      (some (.ok bytes, read), ⟨w, sys.errnoLeft w, os.trace⟩) := by
  cases sender with
  | any a =>
    obtain rfl := Option.some.inj own
    have read := congrArg (Option.map fun address => ((.ok bytes : Except Error _), address)) decoded
    cases peek <;> exact map_of_eq ((recvFromWith_ok h).trans (congrArg (·, _) read))
  | v4 a =>
    obtain ⟨address, narrowed, rfl⟩ := Option.map_eq_some_iff.mp own
    cases peek <;> exact map_of_eq (recvFromFamily_ok h decoded narrowed)
  | v6 a =>
    obtain ⟨address, narrowed, rfl⟩ := Option.map_eq_some_iff.mp own
    cases peek <;> exact map_of_eq (recvFromFamily_ok h decoded narrowed)

end
end UdpSocket

namespace Mailbox

section
variable {abi : Abi} {p : Platform} {size : ℕ} {peek : Bool} {box : Mailbox abi}

theorem receive_of_none (h : box.next = none) :
    ∃ code left, receive p size peek box = (.error code, left) ∧ left.queue = box.queue := by
  obtain ⟨_ | code, queue⟩ := box
  · cases queue with
    | nil => exact ⟨_, _, rfl, rfl⟩
    | cons d rest => cases h
  · exact ⟨_, _, rfl, rfl⟩

theorem queue_of_some {d : Datagram abi} (h : box.next = some d) :
    ∃ rest, box = ⟨none, d :: rest⟩ := by
  obtain ⟨_ | code, queue⟩ := box
  · cases queue with
    | nil => cases h
    | cons d rest =>
      cases h
      exact ⟨rest, rfl⟩
  · cases h

variable {d : Datagram abi} {rest : List (Datagram abi)}

theorem receive_of_refuses (h : Refuses p size d) :
    receive p size peek ⟨none, d :: rest⟩ =
      (.error Winsock.wsaemsgsize, ⟨none, if peek then d :: rest else rest⟩) :=
  Prod.ext (if_pos h) rfl

theorem receive_of_fits (h : ¬ Refuses p size d) :
    receive p size peek ⟨none, d :: rest⟩ =
      (.ok (⟨d.data.take size, List.length_take_le size d.data⟩, d.source),
        ⟨none, if peek then d :: rest else rest⟩) :=
  Prod.ext (if_neg h) rfl

end

/-- An error leaves the sender and the queue as they were. -/
def Harmless {abi : Abi} {size : ℕ} (before : Mailbox abi) (sender : Sender)
    (out : Option (Except Error { bytes : List UInt8 // bytes.length ≤ size } × Sender) ×
      Os (Mailbox abi)) : Prop :=
  ∀ err after, out.1 = some (.error err, after) →
    after = sender ∧ out.2.world.queue = before.queue

section
variable {abi : Abi} {size : ℕ} {before : Mailbox abi} {sender after : Sender}
  {os : Os (Mailbox abi)}

theorem harmless_ok {bytes : { bytes : List UInt8 // bytes.length ≤ size }} :
    Harmless before sender (some (.ok bytes, after), os) := nofun

theorem harmless_error_iff {err : Error} :
    @Harmless abi size before sender (some (.error err, after), os) ↔
      after = sender ∧ os.world.queue = before.queue :=
  ⟨fun h => h err after rfl, fun h _ _ same => by cases same; exact h⟩

end

section
variable {abi : Abi} {p : Platform} {fd : SockFd} {size : ℕ} {peek : Bool}
  {box left : Mailbox abi}

theorem serving_error {code : ℤ} (answered : receive p (p.len size) peek box = (.error code, left)) :
    ((serving abi p).called p).recvfrom fd size peek box = (.error code, left) := by
  rw [Sys.called_recvfrom]
  exact Sys.answering_error_iff.mpr answered

theorem serving_ok {bytes : { bytes : List UInt8 // bytes.length ≤ p.len size }} {source : SockAddr}
    (answered : receive p (p.len size) peek box = (.ok (bytes, source), left)) :
    ((serving abi p).called p).recvfrom fd size peek box =
      (.ok (⟨bytes.1, bytes.2.trans (p.len_le size)⟩, source), left) := by
  rw [Sys.called_recvfrom]
  exact Sys.answering_ok_iff.mpr ⟨_, answered, rfl⟩

end

/-- A failed read is harmless exactly if the sender was blank, where no datagram is
taken, and nothing is removed by a datagram that is refused or of the other family. What
is refused depends on the length that the build can name. -/
theorem readFrom_harmless_iff (abi : Abi) (p : Platform) (peek : Bool) (sock : UdpSocket)
    (size : ℕ) (sender : Sender) (os : Os (Mailbox abi)) :
    Harmless os.world sender (sock.readFrom (serving abi p) p peek size sender os) ↔
      ((∀ d ∈ os.world.next, Refuses p (p.len size) d) → sender.blank = sender) ∧
        ∀ d ∈ os.world.next, Refuses p (p.len size) d ∨ sender.narrow d.address = none →
          peek = true := by
  cases arrived : os.world.next with
  | none =>
    obtain ⟨code, left, answered, queue⟩ := receive_of_none arrived
    rw [UdpSocket.readFrom_error (serving_error answered), harmless_error_iff]
    simp [queue]
  | some d =>
    obtain ⟨rest, held⟩ := queue_of_some arrived
    by_cases refused : Refuses p (p.len size) d
    · have answered : receive p (p.len size) peek os.world =
          (.error Winsock.wsaemsgsize, ⟨none, if peek then d :: rest else rest⟩) :=
        held ▸ receive_of_refuses refused
      rw [UdpSocket.readFrom_error (serving_error answered), harmless_error_iff]
      simp [held, refused]
    · have answered : receive p (p.len size) peek os.world =
          (.ok (⟨d.data.take (p.len size), List.length_take_le _ d.data⟩, d.source),
            ⟨none, if peek then d :: rest else rest⟩) :=
        held ▸ receive_of_fits refused
      cases own : sender.narrow d.address with
      | none =>
        rw [UdpSocket.readFrom_other (serving_ok answered) d.decoded own, harmless_error_iff]
        simp [held, refused, own]
      | some read =>
        rw [UdpSocket.readFrom_ok (serving_ok answered) d.decoded own]
        refine iff_of_true harmless_ok ?_
        simp [refused, own]

def fromUnspecified6 : Mailbox .linux where
  refusal := none
  queue := [{
    data := [65]
    source := SockAddrAny.ofSocketAddress .linux ⟨.v6 .unspecified, 7⟩
    address := ⟨.v6 .unspecified, 7⟩
    decoded := SockAddrAny.toSocketAddress_eq_some_iff.mpr
      (SockAddrAny.ofSocketAddress_holds .linux _) }]

/-- With no datagram the IPv4 overload overwrites the sender, which the generic one
keeps; and it takes a datagram of the other family out of the queue. -/
theorem failed_read_harms :
    ((⟨3, false⟩ : UdpSocket).readFrom (serving .linux .posix) .posix false 1024
        (.v4 ⟨.ofOctets 127 0 0 1, 7⟩) ⟨⟨none, []⟩, 0, []⟩).1 =
          some (.error (.ofCode .wouldBlock), .v4 ⟨.unspecified, 0⟩) ∧
      ((⟨3, false⟩ : UdpSocket).readFrom (serving .linux .posix) .posix false 1024
        (.any ⟨.v4 (.ofOctets 127 0 0 1), 7⟩) ⟨⟨none, []⟩, 0, []⟩).1 =
          some (.error (.ofCode .wouldBlock), .any ⟨.v4 (.ofOctets 127 0 0 1), 7⟩) ∧
      ((⟨3, true⟩ : UdpSocket).readFrom (serving .linux .posix) .posix false 1024
        (.v4 ⟨.ofOctets 127 0 0 1, 7⟩) ⟨fromUnspecified6, 0, []⟩).1 =
          some (.error (.ofCode .unsupportedFamily), .v4 ⟨.ofOctets 127 0 0 1, 7⟩) ∧
      ((⟨3, true⟩ : UdpSocket).readFrom (serving .linux .posix) .posix false 1024
        (.v4 ⟨.ofOctets 127 0 0 1, 7⟩) ⟨fromUnspecified6, 0, []⟩).2.world.queue = [] :=
  ⟨rfl, rfl, rfl, rfl⟩

end Mailbox
end Qsox
