import Qsox.ConnectLog
import Qsox.Poll
import Qsox.TcpStream
import Qsox.UdpSocket

/-! Which errors the operations report. An error made from a failed call is never
`Success`; an answer of `SO_ERROR` is reported as it is, also when it says that
there is no error. -/

namespace Qsox

open BaseSocket

def pendingError (answer : ℤ) : Error := if answer = 0 then .ofCode .success else .fromOs answer

@[simp] theorem pendingError_success_iff (answer : ℤ) :
    (pendingError answer).code = .success ↔ answer = 0 := by
  unfold pendingError
  split_ifs with none_pending <;> simp [Error.ofCode, Error.fromOs, none_pending]

theorem lastOsError_ne_success (p : Platform) (code : ℤ) :
    (p.lastOsError code).code ≠ .success := by
  have listed : ∀ entry ∈ p.codes, entry.2 ≠ .success := by
    cases p <;> decide
  have named : ErrorCode.success ≠ .other := nofun
  intro same
  exact listed _ ((Platform.lastOsError_code_eq_iff named).mp same) rfl

/-- The result is no error with the code `Success`. -/
def Honest {α : Type} (r : Option (Except Error α)) : Prop :=
  ∀ err, r = some (.error err) → err.code ≠ .success

theorem honest_none {α : Type} : Honest (none : Option (Except Error α)) := nofun

theorem honest_ok {α : Type} (a : α) : Honest (some (.ok a : Except Error α)) := nofun

theorem honest_error {α : Type} {err : Error} (h : err.code ≠ .success) :
    Honest (some (.error err : Except Error α)) := by
  rintro _ ⟨⟩
  exact h

theorem Honest.map {α β : Type} {r : Except Error α} (h : Honest (some r)) (f : α → β) :
    Honest (some (r.map f)) := by
  cases r with
  | ok a => exact honest_ok (f a)
  | error err => exact honest_error (h err rfl)

def NoSuccess {S α : Type} (program : StateM S (Except Error α)) : Prop :=
  Always (fun r => Honest (some r)) program

namespace NoSuccess

variable {S α β : Type}

theorem ok (a : α) : NoSuccess (pure (.ok a) : StateM S (Except Error α)) :=
  Always.pure (honest_ok a)

theorem error {err : Error} (h : err.code ≠ .success) :
    NoSuccess (pure (.error err) : StateM S (Except Error α)) :=
  Always.pure (honest_error h)

theorem lastOsError {σ : Type} (p : Platform) :
    NoSuccess (Os.lastOsError p >>= fun err => pure (.error err) : StateM (Os σ) (Except Error α)) :=
  fun _ => honest_error (lastOsError_ne_success p _)

section
variable {σ : Type} {sys : Sys σ} {p : Platform}

theorem mapResult (f : σ → Except ℤ α × σ) : NoSuccess (mapResult sys p f) := by
  refine Always.rest fun returned => ?_
  cases returned with
  | none => exact NoSuccess.lastOsError p
  | some a => exact NoSuccess.ok a

theorem unwrap {program : StateM S (Except Error β)} {next : β → StateM S (Except Error α)}
    (first : NoSuccess program) (rest : ∀ b, NoSuccess (next b)) :
    NoSuccess (unwrap program next) := by
  refine Always.bind first fun r honest => ?_
  cases r with
  | error err => exact NoSuccess.error (honest err rfl)
  | ok b => exact rest b

theorem closeAndFail (fd : SockFd) : NoSuccess (closeAndFail sys p fd) :=
  Always.rest fun _ => NoSuccess.lastOsError p

theorem newSocket {k : Kernel σ} (family : Family) (type : SockType) :
    NoSuccess (newSocket k p family type) := by
  rw [BaseSocket.newSocket]
  cases started : startupSockets k p with
  | error err =>
    have failed : err.code ≠ .success := by
      unfold startupSockets at started
      cases p with
      | posix => cases started
      | windows =>
        split_ifs at started with bad
        obtain rfl := Except.error.inj started
        exact bad
    exact NoSuccess.error failed
  | ok a =>
    refine Always.rest fun returned => ?_
    cases returned with
    | none => exact NoSuccess.lastOsError p
    | some fd => exact NoSuccess.ok fd

theorem bindNewSocket (address : SocketAddress) (sock : SockFd) :
    NoSuccess (bindNewSocket sys p address sock) := by
  refine Always.rest fun returned => ?_
  cases returned with
  | none => exact NoSuccess.closeAndFail sock
  | some a => exact NoSuccess.ok sock

theorem newBoundSocket (address : SocketAddress) (type : SockType) :
    NoSuccess (newBoundSocket sys p address type) := by
  refine NoSuccess.unwrap (NoSuccess.newSocket _ _) fun sock => ?_
  refine Always.ite (fun v6 => ?_) fun v4 => NoSuccess.bindNewSocket address sock
  refine Always.rest fun returned => ?_
  cases returned with
  | none => exact NoSuccess.closeAndFail sock
  | some a => exact NoSuccess.bindNewSocket address sock

theorem setNonBlocking {k : Kernel σ} (fd : SockFd) (nonBlocking : Bool) :
    NoSuccess (setNonBlocking k p fd nonBlocking) := by
  refine Always.rest fun returned => ?_
  cases returned with
  | none => exact NoSuccess.lastOsError p
  | some a => exact NoSuccess.ok a

theorem setTimeout (fd : SockFd) (kind : TimeoutKind) (timeoutMs : UInt32) :
    NoSuccess (setTimeout sys p fd kind timeoutMs) :=
  Always.ite (fun _ => NoSuccess.error nofun) fun _ => NoSuccess.mapResult _

theorem udpBind (address : SocketAddress) : NoSuccess (UdpSocket.bind sys p address) :=
  Always.bind (NoSuccess.newBoundSocket address .dgram) fun _ honest =>
    Always.pure (honest.map _)

theorem listenerBind (address : SocketAddress) : NoSuccess (TcpListener.bind sys p address) := by
  refine NoSuccess.unwrap (NoSuccess.newBoundSocket address .stream) fun sock => ?_
  refine Always.rest fun returned => ?_
  cases returned with
  | none =>
    exact Always.bind (NoSuccess.closeAndFail sock) fun _ honest => Always.pure (honest.map _)
  | some a => exact NoSuccess.ok _

theorem send (stream : TcpStream) (data : List UInt8) : NoSuccess (stream.send sys p data) := by
  refine Always.bind (NoSuccess.mapResult _) fun r honest => ?_
  cases r with
  | error err => exact NoSuccess.error (honest err rfl)
  | ok res => exact Always.ite (fun _ => NoSuccess.error nofun) fun _ => NoSuccess.ok _

theorem receiveWith (peek : Bool) (stream : TcpStream) (size : ℕ) :
    NoSuccess (stream.receiveWith sys p peek size) := by
  refine Always.bind (NoSuccess.mapResult _) fun r honest => ?_
  cases r with
  | error err => exact NoSuccess.error (honest err rfl)
  | ok bytes => exact Always.ite (fun _ => NoSuccess.error nofun) fun _ => NoSuccess.ok _

end
end NoSuccess

section
variable {σ : Type} {sys : Sys σ} {p : Platform}

theorem readAddress_honest (call : σ → Except ℤ Resolver.SockAddr × σ) :
    Always Honest (readAddress sys p call) := by
  refine Always.bind (NoSuccess.mapResult call) fun r honest => ?_
  cases r with
  | error err => exact Always.pure (honest_error (honest err rfl))
  | ok storage =>
    refine Always.pure ?_
    cases SockAddrAny.toSocketAddress sys.abi storage with
    | none => exact honest_none
    | some address => exact honest_ok address

theorem accept_honest (listener : TcpListener) : Always Honest (listener.accept sys p) := by
  refine Always.bind (NoSuccess.mapResult _) fun r honest => ?_
  cases r with
  | error err => exact Always.pure (honest_error (honest err rfl))
  | ok made =>
    refine Always.pure ?_
    cases SockAddrAny.toSocketAddress sys.abi made.2 with
    | none => exact honest_none
    | some address => exact honest_ok _

theorem recvFromWith_honest (peek : Bool) (sock : UdpSocket) (size : ℕ) (sender : SocketAddress) :
    Always (fun out => Honest (out.map Prod.fst)) (sock.recvFromWith sys p peek size sender) := by
  refine Always.bind (NoSuccess.mapResult _) fun r honest => ?_
  cases r with
  | error err => exact Always.pure (honest_error (honest err rfl))
  | ok got =>
    refine Always.pure ?_
    cases SockAddrAny.toSocketAddress sys.abi got.2 with
    | none => exact honest_none
    | some address => exact honest_ok _

theorem recvFromFamily_honest {Address : Type} (peek : Bool) (initial : SocketAddress)
    (narrow : SocketAddress → Option Address) (sock : UdpSocket) (size : ℕ) (sender : Address) :
    Always (fun out => Honest (out.map Prod.fst))
      (sock.recvFromFamily sys p peek initial narrow size sender) := by
  refine Always.bind (recvFromWith_honest peek sock size initial) fun out honest => ?_
  cases out with
  | none => exact Always.pure honest_none
  | some got =>
    obtain ⟨result, genericAddr⟩ := got
    cases h : narrow genericAddr with
    | none =>
      simp only [h]
      exact Always.pure (honest_error nofun)
    | some address =>
      simp only [h]
      exact Always.pure honest

theorem sendAll_honest (stream : TcpStream) (data : List UInt8) (rounds : ℕ) :
    Always Honest (stream.sendAll sys p data rounds) := by
  refine Always.passes honest_none (fun rest => ?_) data rounds
  refine Always.ite (fun _ => Always.pure fun r returned => ?_) fun _ => ?_
  · exact Sum.inr.inj returned ▸ honest_ok ()
  refine Always.bind (NoSuccess.send stream rest) fun answer honest => ?_
  cases answer with
  | error err =>
    refine Always.ite (fun _ => Always.pure nofun) fun _ => Always.pure fun r returned => ?_
    exact Sum.inr.inj returned ▸ honest_error (honest err rfl)
  | ok sent =>
    refine Always.ite (fun _ => Always.pure fun r returned => ?_) fun _ => Always.pure nofun
    exact Sum.inr.inj returned ▸ honest_error nofun

theorem receiveExact_honest (stream : TcpStream) (remaining : ℕ) (filled : List UInt8)
    (rounds : ℕ) :
    Always (fun out => Honest (out.map Prod.fst))
      (stream.receiveExact sys p remaining filled rounds) := by
  refine Always.passes ?_ (fun cursor => ?_) (remaining, filled) rounds
  · exact honest_none
  refine Always.ite (fun _ => Always.pure fun r returned => ?_) fun _ => ?_
  · exact Sum.inr.inj returned ▸ honest_ok ()
  refine Always.bind (NoSuccess.receiveWith false stream cursor.1) fun answer honest => ?_
  cases answer with
  | error err =>
    refine Always.ite (fun _ => Always.pure nofun) fun _ => Always.pure fun r returned => ?_
    exact Sum.inr.inj returned ▸ honest_error (honest err rfl)
  | ok received =>
    refine Always.ite (fun _ => Always.pure fun r returned => ?_) fun _ => Always.pure nofun
    exact Sum.inr.inj returned ▸ honest_error nofun

end

end Qsox
