import Qsox.PendingError

/-! The operations of the socket classes and `pollOne`, each run to its result, and
when one of them reports `Success` as an error. -/

namespace Qsox

inductive Operation
  | udpBind (address : SocketAddress)
  | udpBindAny (ipv6 : Bool)
  | udpConnect (sock : UdpSocket) (address : SocketAddress)
  | udpDisconnect (sock : UdpSocket)
  | udpSendTo (sock : UdpSocket) (data : List UInt8) (destination : SocketAddress)
  | udpSend (sock : UdpSocket) (data : List UInt8)
  | udpRecv (peek : Bool) (sock : UdpSocket) (size : ℕ)
  | udpRecvFrom (peek : Bool) (sock : UdpSocket) (size : ℕ) (sender : SocketAddress)
  | udpRecvFromV4 (peek : Bool) (sock : UdpSocket) (size : ℕ) (sender : SocketAddressV4)
  | udpRecvFromV6 (peek : Bool) (sock : UdpSocket) (size : ℕ) (sender : SocketAddressV6)
  | listenerBind (address : SocketAddress)
  | accept (listener : TcpListener)
  | connect (address : SocketAddress) (timeoutMs : Int32)
  | connectNonBlocking (address : SocketAddress)
  | send (stream : TcpStream) (data : List UInt8)
  | sendAll (stream : TcpStream) (data : List UInt8)
  | receive (peek : Bool) (stream : TcpStream) (size : ℕ)
  | receiveExact (stream : TcpStream) (size : ℕ)
  | setLinger (stream : TcpStream) (enable : Bool) (timeoutMs : Int32)
  | setNoDelay (stream : TcpStream) (noDelay : Bool)
  | shutdown (stream : TcpStream) (mode : ShutdownMode)
  | localAddress (fd : SockFd)
  | remoteAddress (fd : SockFd)
  | setNonBlocking (fd : SockFd) (nonBlocking : Bool)
  | setReadTimeout (fd : SockFd) (timeoutMs : UInt32)
  | setWriteTimeout (fd : SockFd) (timeoutMs : UInt32)
  | pollOne (fd : SockFd) (poll : PollType) (timeoutMs : Int32)

def outcome {α : Type} (r : Option (Except Error α)) : Option (Except Error Unit) :=
  r.map fun res => res.map fun _ => ()

namespace Operation

section
variable {σ : Type} (sys : Sys σ) (p : Platform) (linux : Bool) (rounds : ℕ)

def run : Operation → StateM (Os σ) (Option (Except Error Unit))
  | udpBind address => (fun r => outcome (some r)) <$> UdpSocket.bind sys p address
  | udpBindAny ipv6 => (fun r => outcome (some r)) <$> UdpSocket.bindAny sys p ipv6
  | udpConnect sock address => (fun r => outcome (some r)) <$> sock.connect sys p linux address
  | udpDisconnect sock => (fun r => outcome (some r)) <$> sock.disconnect sys p
  | udpSendTo sock data destination =>
    (fun r => outcome (some r)) <$> sock.sendTo sys p linux data destination
  | udpSend sock data => (fun r => outcome (some r)) <$> sock.send sys p data
  | udpRecv peek sock size => (fun r => outcome (some r)) <$> sock.recvWith sys p peek size
  | udpRecvFrom peek sock size sender =>
    (fun out => outcome (out.map Prod.fst)) <$> sock.recvFromWith sys p peek size sender
  | udpRecvFromV4 peek sock size sender =>
    (fun out => outcome (out.map Prod.fst)) <$> sock.recvFromFamily sys p peek
      ⟨.v4 .unspecified, 0⟩ UdpSocket.asV4 size sender
  | udpRecvFromV6 peek sock size sender =>
    (fun out => outcome (out.map Prod.fst)) <$> sock.recvFromFamily sys p peek
      ⟨.v6 .unspecified, 0⟩ UdpSocket.asV6 size sender
  | listenerBind address => (fun r => outcome (some r)) <$> TcpListener.bind sys p address
  | accept listener => outcome <$> listener.accept sys p
  | connect address timeoutMs => outcome <$> TcpStream.connect sys p address timeoutMs rounds
  | connectNonBlocking address => outcome <$> TcpStream.connectNonBlocking sys p address rounds
  | send stream data => (fun r => outcome (some r)) <$> stream.send sys p data
  | sendAll stream data => stream.sendAll sys p data rounds
  | receive peek stream size => (fun r => outcome (some r)) <$> stream.receiveWith sys p peek size
  | receiveExact stream size =>
    (fun out => out.map Prod.fst) <$> stream.receiveExact sys p size [] rounds
  | setLinger stream enable timeoutMs => some <$> stream.setLinger sys p enable timeoutMs
  | setNoDelay stream noDelay => some <$> stream.setNoDelay sys p noDelay
  | shutdown stream mode => some <$> stream.shutdown sys p mode
  | localAddress fd => outcome <$> BaseSocket.localAddress sys p fd
  | remoteAddress fd => outcome <$> BaseSocket.remoteAddress sys p fd
  | setNonBlocking fd nonBlocking =>
    some <$> BaseSocket.setNonBlocking sys.kernel p fd nonBlocking
  | setReadTimeout fd timeoutMs => some <$> BaseSocket.setReadTimeout sys p fd timeoutMs
  | setWriteTimeout fd timeoutMs => some <$> BaseSocket.setWriteTimeout sys p fd timeoutMs
  | pollOne fd poll timeoutMs => outcome <$> Poll.pollOne sys p fd poll timeoutMs rounds

end

/-- The operation passes on the answer of `SO_ERROR`. -/
def PassesAnswer (p : Platform) : Operation → Prop
  | connect _ timeoutMs => p = .posix ∧ 0 < timeoutMs
  | pollOne _ _ _ => True
  | _ => False

end Operation

theorem Honest.mapValue {α β : Type} {r : Option (Except Error α)} (h : Honest r) (f : α → β) :
    Honest (r.map fun res => res.map f) := by
  cases r with
  | none => exact honest_none
  | some res => exact h.map f

theorem Honest.outcome {α : Type} {r : Option (Except Error α)} (h : Honest r) :
    Honest (outcome r) :=
  h.mapValue fun _ => ()

namespace Operation

variable {σ : Type} {sys : Sys σ} {p : Platform}

theorem run_honest (linux : Bool) (rounds : ℕ) {op : Operation} (h : ¬ op.PassesAnswer p) :
    Always Honest (op.run sys p linux rounds) := by
  have mapped {α : Type} (f : σ → Except ℤ α × σ) : NoSuccess (mapResult sys p f) :=
    NoSuccess.mapResult f
  cases op with
  | udpBind address => exact fun os => (NoSuccess.udpBind address os).outcome
  | udpBindAny ipv6 => exact fun os => (NoSuccess.udpBind _ os).outcome
  | udpConnect sock address => exact fun os => (mapped _ os).outcome
  | udpDisconnect sock => exact fun os => (mapped _ os).outcome
  | udpSendTo sock data destination => exact fun os => (mapped _ os).outcome
  | udpSend sock data => exact fun os => (mapped _ os).outcome
  | udpRecv peek sock size => exact fun os => (mapped _ os).outcome
  | udpRecvFrom peek sock size sender =>
    exact fun os => (recvFromWith_honest peek sock size sender os).outcome
  | udpRecvFromV4 peek sock size sender =>
    exact fun os => (recvFromFamily_honest peek _ _ sock size sender os).outcome
  | udpRecvFromV6 peek sock size sender =>
    exact fun os => (recvFromFamily_honest peek _ _ sock size sender os).outcome
  | listenerBind address => exact fun os => (NoSuccess.listenerBind address os).outcome
  | accept listener => exact fun os => (accept_honest listener os).outcome
  | connect address timeoutMs =>
    have plain : ¬ TcpConnect.WaitsByPoll p false timeoutMs := fun waits => h ⟨waits.1, waits.2.2⟩
    exact fun os =>
      ((TcpConnect.connectInternal_honest address rounds plain os).mapValue _).outcome
  | connectNonBlocking address =>
    have plain : ¬ TcpConnect.WaitsByPoll p true 0 := fun waits => nomatch waits.2.1
    exact fun os =>
      ((TcpConnect.connectInternal_honest address rounds plain os).mapValue _).outcome
  | send stream data => exact fun os => (NoSuccess.send stream data os).outcome
  | sendAll stream data => exact sendAll_honest stream data rounds
  | receive peek stream size => exact fun os => (NoSuccess.receiveWith peek stream size os).outcome
  | receiveExact stream size => exact receiveExact_honest stream size [] rounds
  | setLinger stream enable timeoutMs => exact mapped _
  | setNoDelay stream noDelay => exact mapped _
  | shutdown stream mode => exact mapped _
  | localAddress fd => exact fun os => (readAddress_honest _ os).outcome
  | remoteAddress fd => exact fun os => (readAddress_honest _ os).outcome
  | setNonBlocking fd nonBlocking => exact NoSuccess.setNonBlocking fd nonBlocking
  | setReadTimeout fd timeoutMs => exact NoSuccess.setTimeout fd .receive timeoutMs
  | setWriteTimeout fd timeoutMs => exact NoSuccess.setTimeout fd .send timeoutMs
  | pollOne fd poll timeoutMs => exact absurd trivial h

theorem run_tells (linux : Bool) (rounds : ℕ) {op : Operation} (h : op.PassesAnswer p) :
    Tells (op.run sys.logged p linux rounds) := by
  cases op with
  | connect address timeoutMs =>
    obtain ⟨rfl, -⟩ := h
    intro os none_yet
    exact ((TcpConnect.connectInternal_tells address false timeoutMs rounds os none_yet).map _).map _
  | pollOne fd poll timeoutMs =>
    intro os none_yet
    exact (Poll.pollOne_tells fd poll timeoutMs p rounds os none_yet).map _
  | _ => exact h.elim

/-- No failure is reported as `Success`, but for the answer of `SO_ERROR` that there
is none, where the operation passes it on. -/
theorem run_honest_iff (sys : Sys σ) (p : Platform) (linux : Bool) (rounds : ℕ) (op : Operation)
    (world : σ) (errno : ℤ) :
    Honest (op.run sys.logged p linux rounds (Os.fresh world errno)).1 ↔
      ¬ (op.PassesAnswer p ∧
        .ok 0 ∈ answers (op.run sys.logged p linux rounds (Os.fresh world errno)).2) := by
  by_cases passes : op.PassesAnswer p
  · have told : Told (op.run sys.logged p linux rounds (Os.fresh world errno)).1 _ :=
      run_tells linux rounds passes _ rfl
    rw [told.honest_iff]
    exact ⟨fun missing both => missing both.2, fun h found => h ⟨passes, found⟩⟩
  · exact iff_of_true (run_honest linux rounds passes _) fun both => passes both.1

/-- The peer has closed the connection in order: `POLLHUP`, and no error. -/
def hungUp : Sys Unit :=
  { Sys.refusing Posix.einval with
    socket := fun _ _ w => (.ok 3, w)
    ioctl := fun _ _ w => (.ok (), w)
    connect := fun _ _ _ w => (.error Posix.einprogress, w)
    errnoLeft := fun _ => Posix.einprogress
    poll := fun _ _ _ w => ((.ok (some ⟨⟨false, false, true, false⟩, false⟩), 0), w)
    soError := fun _ w => (.ok 0, w) }

theorem hangup_is_success :
    ((pollOne 3 .read 1000).run hungUp .posix true 1 ⟨(), 0, []⟩).1 =
        some (.error (.ofCode .success)) ∧
      ((connect ⟨.v4 (.ofOctets 127 0 0 1), 80⟩ 5000).run hungUp .posix true 1 ⟨(), 0, []⟩).1 =
        some (.error (.ofCode .success)) :=
  ⟨rfl, rfl⟩

end Operation
end Qsox
