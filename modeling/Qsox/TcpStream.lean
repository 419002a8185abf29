import Qsox.SocketUtil
import Qsox.TcpConnect

/-! `TcpStream` and `TcpListener`. The loops of `sendAll` and `receiveExact` are
observed for a number of rounds. -/

namespace Qsox

open Resolver (SockAddr)

structure TcpStream where
  fd : SockFd
  deriving DecidableEq, Repr

structure TcpListener where
  fd : SockFd
  deriving DecidableEq, Repr

inductive ShutdownMode
  | read
  | write
  | both
  deriving DecidableEq, Repr

namespace Posix

def shutRd : ℤ := 0
def shutWr : ℤ := 1
def shutRdwr : ℤ := 2

end Posix

namespace Winsock

def sdReceive : ℤ := 0
def sdSend : ℤ := 1
def sdBoth : ℤ := 2

end Winsock

variable {σ : Type} (sys : Sys σ) (p : Platform)

namespace TcpStream

def connect (address : SocketAddress) (timeoutMs : Int32) (rounds : ℕ) :
    StateM (Os σ) (Option (Except Error TcpStream)) := do
  let res ← TcpConnect.connect sys.kernel p address timeoutMs rounds
  return res.map fun made => made.map TcpStream.mk

def connectNonBlocking (address : SocketAddress) (rounds : ℕ) :
    StateM (Os σ) (Option (Except Error TcpStream)) := do
  let res ← TcpConnect.connectNonBlocking sys.kernel p address rounds
  return res.map fun made => made.map TcpStream.mk

def send (stream : TcpStream) (data : List UInt8) : StateM (Os σ) (Except Error ℕ) := do
  match ← mapResult sys p ((sys.called p).send stream.fd data) with
  | .error e => return .error e
  | .ok res => if res.val = 0 then return .error (.ofCode .connectionClosed) else return .ok res.val

/-- The test both loops make on an error; Windows has no interrupted calls. -/
def retries (err : Error) : Bool :=
  p = .posix ∧ err.isOsError ∧ err.osCode = Posix.eintr

def sendPass (stream : TcpStream) (data : List UInt8) :
    StateM (Os σ) (List UInt8 ⊕ Except Error Unit) := do
  if data = [] then return .inr (.ok ())
  else
    match ← send sys p stream data with
    | .error err => if retries p err then return .inl data else return .inr (.error err)
    | .ok sent =>
      if sent = 0 then return .inr (.error (.ofCode .connectionClosed))
      else return .inl (data.drop sent)

def sendAll (stream : TcpStream) (data : List UInt8) (rounds : ℕ) :
    StateM (Os σ) (Option (Except Error Unit)) :=
  passes (sendPass sys p stream) data rounds

/-- `_receive`, with or without `MSG_PEEK`; the bytes are returned. -/
def receiveWith (peek : Bool) (stream : TcpStream) (size : ℕ) :
    StateM (Os σ) (Except Error (List UInt8)) := do
  match ← mapResult sys p ((sys.called p).recv stream.fd size peek) with
  | .error e => return .error e
  | .ok bytes =>
    if bytes.val.length = 0 then return .error (.ofCode .connectionClosed) else return .ok bytes.val

def receive : TcpStream → ℕ → StateM (Os σ) (Except Error (List UInt8)) := receiveWith sys p false

def peek : TcpStream → ℕ → StateM (Os σ) (Except Error (List UInt8)) := receiveWith sys p true

/-- What is still to come and the front of the buffer that has been filled. -/
def receivePass (stream : TcpStream) (cursor : ℕ × List UInt8) :
    StateM (Os σ) ((ℕ × List UInt8) ⊕ (Except Error Unit × List UInt8)) := do
  let (remaining, filled) := cursor
  if remaining = 0 then return .inr (.ok (), filled)
  else
    match ← receive sys p stream remaining with
    | .error err =>
      if retries p err then return .inl (remaining, filled) else return .inr (.error err, filled)
    | .ok received =>
      if received = [] then return .inr (.error (.ofCode .connectionClosed), filled)
      else return .inl (remaining - received.length, filled ++ received)

def receiveExact (stream : TcpStream) (remaining : ℕ) (filled : List UInt8) (rounds : ℕ) :
    StateM (Os σ) (Option (Except Error Unit × List UInt8)) :=
  passes (receivePass sys p stream) (remaining, filled) rounds

section
variable {sys p} {stream : TcpStream} {data filled bytes : List UInt8} {remaining sent : ℕ}
  {err : Error} {os s : Os σ}

@[simp] theorem sendPass_done : sendPass sys p stream [] os = (.inr (.ok ()), os) := rfl

theorem sendPass_error (some_left : data ≠ [])
    (once : send sys p stream data os = (.error err, s)) :
    sendPass sys p stream data os =
      (if retries p err then .inl data else .inr (.error err), s) := by
  rw [sendPass, if_neg some_left, bind_of_eq once]
  simp only
  split_ifs <;> rfl

theorem sendPass_ok (some_left : data ≠ []) (once : send sys p stream data os = (.ok sent, s))
    (some_sent : sent ≠ 0) : sendPass sys p stream data os = (.inl (data.drop sent), s) := by
  rw [sendPass, if_neg some_left, bind_of_eq once]
  simp only [if_neg some_sent]
  rfl

@[simp] theorem receivePass_done :
    receivePass sys p stream (0, filled) os = (.inr (.ok (), filled), os) := rfl

theorem receivePass_error (filled : List UInt8) (some_left : remaining ≠ 0)
    (once : receive sys p stream remaining os = (.error err, s)) :
    receivePass sys p stream (remaining, filled) os =
      (if retries p err then .inl (remaining, filled) else .inr (.error err, filled), s) := by
  simp only [receivePass, if_neg some_left]
  rw [bind_of_eq once]
  simp only
  split_ifs <;> rfl

theorem receivePass_ok (some_left : remaining ≠ 0)
    (once : receive sys p stream remaining os = (.ok bytes, s)) (some_got : bytes ≠ []) :
    receivePass sys p stream (remaining, filled) os =
      (.inl (remaining - bytes.length, filled ++ bytes), s) := by
  simp only [receivePass, if_neg some_left]
  rw [bind_of_eq once]
  simp only [if_neg some_got]
  rfl

end

section
variable {sys p} {γ : Type} (view : σ → γ) {stream : TcpStream}

theorem send_keeps {data : List UInt8}
    (same : ∀ w, view (sys.send stream.fd (data.take (p.len data.length)) w).2 = view w) :
    Keeps (fun os : Os σ => view os.world) (send sys p stream data) := by
  have called : ∀ w, view ((sys.called p).send stream.fd data w).2 = view w := by
    intro w
    rw [Sys.called_send]
    exact same w
  refine Keeps.bind (mapResult_keeps sys p view called) fun res => ?_
  cases res with
  | error err => exact Keeps.pure _
  | ok sent => exact Keeps.ite (Keeps.pure _) (Keeps.pure _)

theorem receiveWith_keeps {peek : Bool} {size : ℕ}
    (same : ∀ w, view (sys.recv stream.fd (p.len size) peek w).2 = view w) :
    Keeps (fun os : Os σ => view os.world) (receiveWith sys p peek stream size) := by
  have called : ∀ w, view ((sys.called p).recv stream.fd size peek w).2 = view w := by
    intro w
    rw [Sys.called_recv]
    exact same w
  refine Keeps.bind (mapResult_keeps sys p view called) fun res => ?_
  cases res with
  | error err => exact Keeps.pure _
  | ok bytes => exact Keeps.ite (Keeps.pure _) (Keeps.pure _)

end

/-- What `l_linger` gets; on Windows it has 16 bits. -/
def lingerSeconds (timeoutMs : Int32) : Int32 :=
  match p with
  | .posix => timeoutMs / 1000
  | .windows => Int32.ofInt ((timeoutMs / 1000).toInt % 2 ^ 16)

def setLinger (stream : TcpStream) (enable : Bool) (timeoutMs : Int32) :
    StateM (Os σ) (Except Error Unit) :=
  mapResult sys p
    (sys.setsockopt stream.fd (.linger (if enable then 1 else 0) (lingerSeconds p timeoutMs)))

def setNoDelay (stream : TcpStream) (noDelay : Bool) : StateM (Os σ) (Except Error Unit) :=
  mapResult sys p (sys.setsockopt stream.fd (.noDelay (if noDelay then 1 else 0)))

def how (mode : ShutdownMode) : ℤ :=
  match p, mode with
  | .posix, .read => Posix.shutRd
  | .posix, .write => Posix.shutWr
  | .posix, .both => Posix.shutRdwr
  | .windows, .read => Winsock.sdSend
  | .windows, .write => Winsock.sdReceive
  | .windows, .both => Winsock.sdBoth

def shutdown (stream : TcpStream) (mode : ShutdownMode) : StateM (Os σ) (Except Error Unit) :=
  mapResult sys p (sys.shutdown stream.fd (how p mode))

def releaseHandle (stream : TcpStream) : SockFd × TcpStream := (stream.fd, ⟨invalidSockFd⟩)

end TcpStream

namespace TcpListener

def bind (address : SocketAddress) : StateM (Os σ) (Except Error TcpListener) :=
  unwrap (newBoundSocket sys p address .stream) fun sock => do
    match ← Os.call sys.kernel (sys.listen sock 1024) with
    | none =>
      let res ← closeAndFail sys p sock
      return res.map TcpListener.mk
    | some () => return .ok ⟨sock⟩

def accept (listener : TcpListener) :
    StateM (Os σ) (Option (Except Error (TcpStream × SocketAddress))) := do
  match ← mapResult sys p (sys.accept listener.fd) with
  | .error e => return some (.error e)
  | .ok (clientSock, storage) =>
    return (SockAddrAny.toSocketAddress sys.abi storage).map fun address =>
      .ok (⟨clientSock⟩, address)

section
variable {sys p} {listener : TcpListener} {os : Os σ} {w : σ}

theorem accept_ok {made : SockFd} {storage : SockAddr}
    (answered : sys.accept listener.fd os.world = (.ok (made, storage), w)) :
    listener.accept sys p os =
      ((SockAddrAny.toSocketAddress sys.abi storage).map fun address => .ok (⟨made⟩, address),
        ⟨w, sys.errnoLeft w, os.trace⟩) := by
  rw [accept, bind_of_eq (mapResult_ok answered)]
  rfl

theorem accept_error {code : ℤ} (answered : sys.accept listener.fd os.world = (.error code, w)) :
    listener.accept sys p os = (some (.error (p.lastOsError code)), ⟨w, code, os.trace⟩) := by
  rw [accept, bind_of_eq (mapResult_error answered)]
  rfl

end
end TcpListener
end Qsox
