import Qsox.Operation

/-! What the operations on a socket add to a list that the system keeps, if each call
on the descriptor adds entries of one kind only. -/

namespace Qsox

open BaseSocket

/-- What a call on the descriptor adds to the list has the property; `ioctl`, which sets the
blocking mode, is not among these calls. -/
structure CallsAdd {σ ε : Type} (sys : Sys σ) (fd : SockFd) (list : σ → List ε)
    (P : ε → Prop) : Prop where
  setsockopt : ∀ opt, Adds list P (sys.setsockopt fd opt)
  bind : ∀ m len, Adds list P (sys.bind fd m len)
  listen : ∀ backlog, Adds list P (sys.listen fd backlog)
  connect : ∀ m len, Adds list P (sys.connect fd m len)
  getsockname : Adds list P (sys.getsockname fd)
  getpeername : Adds list P (sys.getpeername fd)
  send : ∀ data, Adds list P (sys.send fd data)
  sendto : ∀ data m len, Adds list P (sys.sendto fd data m len)
  recv : ∀ size peek, Adds list P (sys.recv fd size peek)
  recvfrom : ∀ size peek, Adds list P (sys.recvfrom fd size peek)
  soError : Adds list P (sys.soError fd)
  shutdown : ∀ how, Adds list P (sys.shutdown fd how)
  poll : ∀ events timeout, Adds list P (sys.poll fd events timeout)
  select : ∀ sets timeout, Adds list P (sys.select fd sets timeout)
  now : Adds list P sys.now

abbrev inWorld {σ ε : Type} (list : σ → List ε) (os : Os σ) : List ε := list os.world

section
variable {σ ε α : Type} {list : σ → List ε} {P : ε → Prop} {p : Platform}

theorem Adds.of_world {program : StateM (Os σ) α} {β : Type} {f : σ → β × σ} (h : Adds list P f)
    (world : ∀ os, (program os).2.world = (f os.world).2) : Adds (inWorld list) P program := by
  intro os
  rw [inWorld, world]
  exact h os.world

theorem Adds.of_same {program : StateM (Os σ) α} (same : ∀ os, (program os).2.world = os.world) :
    Adds (inWorld list) P program :=
  fun os => ⟨[], by rw [inWorld, same, List.append_nil], nofun⟩

theorem Adds.lastOsError (p : Platform) :
    Adds (inWorld list) P (Os.lastOsError p : StateM (Os σ) Error) :=
  Adds.of_same fun _ => rfl

theorem Adds.getErrno : Adds (inWorld list) P (Os.getErrno : StateM (Os σ) ℤ) :=
  Adds.of_same fun _ => rfl

theorem Adds.call {k : Kernel σ} {f : σ → Except ℤ α × σ} (h : Adds list P f) :
    Adds (inWorld list) P (Os.call k f) :=
  Adds.of_world h fun os => by rw [Os.call, Os.world_after]

theorem Adds.mapResult {sys : Sys σ} {f : σ → Except ℤ α × σ} (h : Adds list P f) :
    Adds (inWorld list) P (mapResult sys p f) := by
  refine Adds.bind (Adds.call h) fun returned => ?_
  cases returned with
  | none => exact Adds.bind (Adds.lastOsError p) fun _ => Adds.pure _
  | some a => exact Adds.pure _

theorem Adds.setNonBlocking {sys : Sys σ} {fd : SockFd} {nonBlocking : Bool}
    (h : Adds list P (sys.ioctl fd nonBlocking)) :
    Adds (inWorld list) P (BaseSocket.setNonBlocking sys.kernel p fd nonBlocking) := by
  refine Adds.bind (Adds.call h) fun returned => ?_
  cases returned with
  | none => exact Adds.bind (Adds.lastOsError p) fun _ => Adds.pure _
  | some a => exact Adds.pure _

end

namespace CallsAdd

theorem weaken {σ ε : Type} {sys : Sys σ} {fd : SockFd} {list : σ → List ε} {P P' : ε → Prop}
    (h : CallsAdd sys fd list P) (weaker : ∀ e, P e → P' e) : CallsAdd sys fd list P' where
  setsockopt opt := (h.setsockopt opt).weaken weaker
  bind m len := (h.bind m len).weaken weaker
  listen backlog := (h.listen backlog).weaken weaker
  connect m len := (h.connect m len).weaken weaker
  getsockname := h.getsockname.weaken weaker
  getpeername := h.getpeername.weaken weaker
  send data := (h.send data).weaken weaker
  sendto data m len := (h.sendto data m len).weaken weaker
  recv size peek := (h.recv size peek).weaken weaker
  recvfrom size peek := (h.recvfrom size peek).weaken weaker
  soError := h.soError.weaken weaker
  shutdown how := (h.shutdown how).weaken weaker
  poll events timeout := (h.poll events timeout).weaken weaker
  select sets timeout := (h.select sets timeout).weaken weaker
  now := h.now.weaken weaker

section
variable {σ ε : Type} {sys : Sys σ} {fd : SockFd} {list : σ → List ε} {P : ε → Prop}
  (h : CallsAdd sys fd list P) {p : Platform}
include h

theorem called (p : Platform) : CallsAdd (sys.called p) fd list P := by
  cases p with
  | posix => exact h
  | windows =>
    exact { h with
      send := fun data => h.send (data.take (Platform.windows.len data.length))
      sendto := fun data => h.sendto (data.take (Platform.windows.len data.length))
      recv := fun size => h.recv (Platform.windows.len size)
      recvfrom := fun size => h.recvfrom (Platform.windows.len size) }

theorem getSocketError : Adds (inWorld list) P (BaseSocket.getSocketError sys.kernel p fd) := by
  refine Adds.bind (Adds.call h.soError) fun returned => ?_
  cases returned with
  | none => exact Adds.lastOsError p
  | some err => exact Adds.pure _

omit h in
theorem readAddress {call : σ → Except ℤ Resolver.SockAddr × σ} (adds : Adds list P call) :
    Adds (inWorld list) P (BaseSocket.readAddress sys p call) := by
  refine Adds.bind (Adds.mapResult adds) fun returned => ?_
  cases returned with
  | error e => exact Adds.pure _
  | ok storage => exact Adds.pure _

theorem setTimeout (kind : TimeoutKind) (timeoutMs : UInt32) :
    Adds (inWorld list) P (BaseSocket.setTimeout sys p fd kind timeoutMs) :=
  Adds.ite (Adds.pure _) (Adds.mapResult (h.setsockopt _))

theorem recvFromWith (ipv6 peek : Bool) (size : ℕ) (sender : SocketAddress) :
    Adds (inWorld list) P (UdpSocket.recvFromWith sys p peek ⟨fd, ipv6⟩ size sender) := by
  refine Adds.bind (Adds.mapResult ((h.called p).recvfrom size peek)) fun returned => ?_
  cases returned with
  | error e => exact Adds.pure _
  | ok received => exact Adds.pure _

theorem recvFromFamily {Address : Type} (ipv6 peek : Bool) (initial : SocketAddress)
    (narrow : SocketAddress → Option Address) (size : ℕ) (sender : Address) :
    Adds (inWorld list) P
      (UdpSocket.recvFromFamily sys p peek initial narrow ⟨fd, ipv6⟩ size sender) := by
  refine Adds.bind (h.recvFromWith ipv6 peek size initial) fun returned => ?_
  cases returned with
  | none => exact Adds.pure _
  | some out =>
    simp only []
    cases narrow out.2 with
    | none => exact Adds.pure _
    | some address => exact Adds.pure _

theorem sendSome (data : List UInt8) : Adds (inWorld list) P (TcpStream.send sys p ⟨fd⟩ data) := by
  refine Adds.bind (Adds.mapResult ((h.called p).send data)) fun returned => ?_
  cases returned with
  | error e => exact Adds.pure _
  | ok sent => exact Adds.ite (Adds.pure _) (Adds.pure _)

theorem sendAll (data : List UInt8) (rounds : ℕ) :
    Adds (inWorld list) P (TcpStream.sendAll sys p ⟨fd⟩ data rounds) := by
  refine Adds.passes (fun rest => ?_) data rounds
  refine Adds.ite (Adds.pure _) (Adds.bind (h.sendSome rest) fun returned => ?_)
  cases returned <;> exact Adds.ite (Adds.pure _) (Adds.pure _)

theorem receiveWith (peek : Bool) (size : ℕ) :
    Adds (inWorld list) P (TcpStream.receiveWith sys p peek ⟨fd⟩ size) := by
  refine Adds.bind (Adds.mapResult ((h.called p).recv size peek)) fun returned => ?_
  cases returned with
  | error e => exact Adds.pure _
  | ok bytes => exact Adds.ite (Adds.pure _) (Adds.pure _)

theorem receiveExact (remaining : ℕ) (filled : List UInt8) (rounds : ℕ) :
    Adds (inWorld list) P (TcpStream.receiveExact sys p ⟨fd⟩ remaining filled rounds) := by
  refine Adds.passes (fun cursor => ?_) (remaining, filled) rounds
  refine Adds.ite (Adds.pure _) (Adds.bind (h.receiveWith false cursor.1) fun returned => ?_)
  cases returned <;> exact Adds.ite (Adds.pure _) (Adds.pure _)

theorem classify (revents : PollRevents) :
    Adds (inWorld list) P (Poll.Posix.classify sys fd revents) := by
  refine Adds.ite (Adds.pure _) (Adds.ite (Adds.pure _) (Adds.ite ?_ (Adds.pure _)))
  exact Adds.bind h.getSocketError fun _ => Adds.pure _

theorem pollOne_posix (poll : PollType) (timeoutMs : Int32) (rounds : ℕ) :
    Adds (inWorld list) P (Poll.Posix.pollOne sys fd poll timeoutMs rounds) := by
  refine Adds.whileTrue (Adds.bind (Adds.of_world (h.poll ⟨poll.hasRead, poll.hasWrite⟩ timeoutMs)
    fun os => by rw [Os.call, Os.world_after]) fun returned => ?_) rounds
  rcases returned with _ | _ | revents
  · exact Adds.bind (Adds.lastOsError .posix) fun error => Adds.ite (Adds.pure _) (Adds.pure _)
  · exact Adds.pure _
  · refine Adds.ite ?_ ?_
    · exact Adds.bind h.getSocketError fun _ => Adds.pure _
    · exact Adds.bind (h.classify revents) fun _ => Adds.pure _

theorem pollOne_windows (handle : CallsAdd sys (Poll.Windows.intHandle fd) list P)
    (poll : PollType) (timeoutMs : Int32) :
    Adds (inWorld list) P (Poll.Windows.pollOne sys fd poll timeoutMs) := by
  refine Adds.bind (Adds.call (handle.select _ _)) fun returned => ?_
  rcases returned with _ | _ | sets
  · exact Adds.bind (Adds.lastOsError .windows) fun _ => Adds.pure _
  · exact Adds.pure _
  · refine Adds.ite (Adds.pure _) (Adds.ite (Adds.pure _) (Adds.ite ?_ (Adds.pure _)))
    exact Adds.bind h.getSocketError fun _ => Adds.pure _

theorem pollOne
    (handle : p = .windows → CallsAdd sys (Poll.Windows.intHandle fd) list P) (poll : PollType)
    (timeoutMs : Int32) (rounds : ℕ) :
    Adds (inWorld list) P (Poll.pollOne sys p fd poll timeoutMs rounds) := by
  cases p with
  | posix => exact h.pollOne_posix poll timeoutMs rounds
  | windows => exact Adds.map some (h.pollOne_windows (handle rfl) poll timeoutMs)

theorem kernelConnect (address : SocketAddress) :
    Adds (inWorld list) P (Os.connect sys.kernel fd address) :=
  Adds.of_world (h.connect _ _) fun os => by
    rw [Os.connect, Os.world_after]
    rfl

theorem kernelPoll (events : PollEvents) (timeout : Int32) :
    Adds (inWorld list) P (Os.poll sys.kernel fd events timeout) :=
  Adds.of_world (h.poll events timeout) fun os => by
    rw [Os.poll, Os.world_after]
    rfl

theorem kernelNow : Adds (inWorld list) P (Os.now sys.kernel) := Adds.of_world h.now fun _ => rfl

theorem connectRound (address : SocketAddress) (nonBlocking : Bool) :
    Adds (inWorld list) P (TcpConnect.Posix.connectRound sys.kernel fd address nonBlocking) := by
  refine Adds.bind (h.kernelConnect address) fun returned => ?_
  cases returned with
  | some a => exact Adds.pure _
  | none =>
    refine Adds.bind Adds.getErrno fun errno => ?_
    refine Adds.ite (Adds.pure _) (Adds.ite (Adds.pure _) (Adds.ite (Adds.pure _) ?_))
    exact Adds.bind (Adds.lastOsError .posix) fun _ => Adds.pure _

section
variable (ioctl : ∀ nonBlocking, Adds list P (sys.ioctl fd nonBlocking))

include ioctl in
theorem doConnect_posix (address : SocketAddress) (nonBlocking : Bool) (rounds : ℕ) :
    Adds (inWorld list) P
      (TcpConnect.Posix.doConnect sys.kernel fd address nonBlocking rounds) := by
  have loop : Adds (inWorld list) P
      (whileTrue (TcpConnect.Posix.connectRound sys.kernel fd address nonBlocking) rounds) :=
    Adds.whileTrue (h.connectRound address nonBlocking) rounds
  refine Adds.ite (Adds.bind (Adds.setNonBlocking (ioctl true)) fun result => ?_) loop
  cases result with
  | error e => exact Adds.pure _
  | ok a => exact loop

theorem pollRound (timeoutMs : Int32) (start : ℤ) :
    Adds (inWorld list) P (TcpConnect.Posix.pollRound sys.kernel fd timeoutMs start) := by
  refine Adds.bind h.kernelNow fun reading => Adds.ite (Adds.pure _) ?_
  refine Adds.bind (h.kernelPoll _ _) fun returned => ?_
  match returned with
  | none =>
    refine Adds.bind Adds.getErrno fun errno => Adds.ite ?_ (Adds.pure _)
    exact Adds.bind (Adds.lastOsError .posix) fun _ => Adds.pure _
  | some none => exact Adds.pure _
  | some (some revents) =>
    exact Adds.ite (Adds.bind h.getSocketError fun _ => Adds.pure _) (Adds.pure _)

include ioctl in
theorem doConnectTimeout_posix (address : SocketAddress) (timeoutMs : Int32) (rounds : ℕ) :
    Adds (inWorld list) P
      (TcpConnect.Posix.doConnectTimeout sys.kernel fd address timeoutMs rounds) := by
  refine Adds.ite (h.doConnect_posix ioctl address false rounds) ?_
  refine Adds.bind (Adds.setNonBlocking (ioctl true)) fun result => ?_
  cases result with
  | error e => exact Adds.pure _
  | ok a =>
    refine Adds.bind (h.kernelConnect address) fun cres => ?_
    refine Adds.bind (Adds.setNonBlocking (ioctl false)) fun result => ?_
    cases result with
    | error e => exact Adds.pure _
    | ok a =>
      cases cres with
      | some a => exact Adds.pure _
      | none =>
        refine Adds.bind Adds.getErrno fun errno => Adds.ite ?_ ?_
        · exact Adds.bind h.kernelNow fun start =>
            Adds.whileTrue (h.pollRound timeoutMs start) rounds
        · exact Adds.bind (Adds.lastOsError .posix) fun _ => Adds.pure _

theorem connectOnce (address : SocketAddress) (nonBlocking : Bool) :
    Adds (inWorld list) P (TcpConnect.Windows.connectOnce sys.kernel fd address nonBlocking) := by
  refine Adds.bind (h.kernelConnect address) fun returned => ?_
  cases returned with
  | some a => exact Adds.pure _
  | none =>
    exact Adds.bind (Adds.lastOsError .windows) fun err => Adds.ite (Adds.pure _) (Adds.pure _)

include ioctl in
theorem doConnect_windows (address : SocketAddress) (nonBlocking : Bool) :
    Adds (inWorld list) P (TcpConnect.Windows.doConnect sys.kernel fd address nonBlocking) := by
  have once := h.connectOnce address nonBlocking
  refine Adds.ite (Adds.bind (Adds.setNonBlocking (ioctl true)) fun result => ?_) once
  cases result with
  | error e => exact Adds.pure _
  | ok a => exact once

theorem selectWritable (timeoutMs : Int32) :
    Adds (inWorld list) P (TcpConnect.Windows.selectWritable sys.kernel fd timeoutMs) := by
  refine Adds.bind (Adds.of_world (h.select ⟨⟨true, true⟩, false⟩ _) fun os => by
    rw [Os.select, Os.call, Os.world_after]
    rfl) fun returned => ?_
  rcases returned with _ | _ | sets
  · exact Adds.bind (Adds.lastOsError .windows) fun _ => Adds.pure _
  · exact Adds.pure _
  · refine Adds.ite (Adds.pure _) (Adds.bind h.getSocketError fun err => ?_)
    exact Adds.ite (Adds.pure _) (Adds.pure _)

include ioctl in
theorem doConnectTimeout_windows (address : SocketAddress) (timeoutMs : Int32) :
    Adds (inWorld list) P
      (TcpConnect.Windows.doConnectTimeout sys.kernel fd address timeoutMs) := by
  refine Adds.ite (h.doConnect_windows ioctl address false) ?_
  refine Adds.bind (h.doConnect_windows ioctl address true) fun result => ?_
  refine Adds.bind (Adds.setNonBlocking (ioctl false)) fun mode => ?_
  cases mode with
  | error e => exact Adds.pure _
  | ok a =>
    cases result with
    | ok a => exact Adds.pure _
    | error err => exact Adds.ite (h.selectWritable timeoutMs) (Adds.pure _)

include ioctl in
theorem establish (p : Platform) (address : SocketAddress) (nonBlocking : Bool) (timeoutMs : Int32)
    (rounds : ℕ) :
    Adds (inWorld list) P
      (TcpConnect.establish sys.kernel p fd address nonBlocking timeoutMs rounds) := by
  cases p with
  | posix =>
    exact Adds.ite (h.doConnectTimeout_posix ioctl address timeoutMs rounds)
      (h.doConnect_posix ioctl address nonBlocking rounds)
  | windows =>
    exact Adds.ite (Adds.map some (h.doConnectTimeout_windows ioctl address timeoutMs))
      (Adds.map some (h.doConnect_windows ioctl address nonBlocking))

end
end
end CallsAdd

/-- The descriptor of the socket that the operation is called on. A creation has none. -/
def Operation.subject : Operation → Option SockFd
  | udpConnect sock _ | udpDisconnect sock | udpSendTo sock _ _ | udpSend sock _
  | udpRecv _ sock _ | udpRecvFrom _ sock _ _ | udpRecvFromV4 _ sock _ _
  | udpRecvFromV6 _ sock _ _ => some sock.fd
  | send stream _ | sendAll stream _ | receive _ stream _ | receiveExact stream _
  | setLinger stream _ _ | setNoDelay stream _ | shutdown stream _ => some stream.fd
  | localAddress fd | remoteAddress fd | setNonBlocking fd _ | setReadTimeout fd _
  | setWriteTimeout fd _ | pollOne fd _ _ => some fd
  | udpBind _ | udpBindAny _ | listenerBind _ | accept _ | connect _ _
  | connectNonBlocking _ => none

/-- An operation on a socket makes its calls on the descriptor of the socket, and on
Windows `pollOne` makes one on what is left of it as an `int`. -/
theorem Operation.run_adds {σ ε : Type} {sys : Sys σ} {fd : SockFd} {list : σ → List ε}
    {P : ε → Prop} (h : CallsAdd sys fd list P) {p : Platform} {op : Operation}
    (ioctl : ∀ nonBlocking, op = .setNonBlocking fd nonBlocking →
      Adds list P (sys.ioctl fd nonBlocking))
    (handle : ∀ poll timeoutMs, op = .pollOne fd poll timeoutMs → p = .windows →
      CallsAdd sys (Poll.Windows.intHandle fd) list P)
    (linux : Bool) (rounds : ℕ) (subject : op.subject = some fd) :
    Adds (inWorld list) P (op.run sys p linux rounds) := by
  cases op with
  | udpConnect sock address =>
    obtain rfl := Option.some.inj subject
    exact Adds.map _ (Adds.mapResult (h.connect _ _))
  | udpDisconnect sock =>
    obtain rfl := Option.some.inj subject
    exact Adds.map _ (Adds.mapResult (h.connect _ _))
  | udpSendTo sock data destination =>
    obtain rfl := Option.some.inj subject
    exact Adds.map _ (Adds.mapResult ((h.called p).sendto data _ _))
  | udpSend sock data =>
    obtain rfl := Option.some.inj subject
    exact Adds.map _ (Adds.mapResult ((h.called p).send data))
  | udpRecv peek sock size =>
    obtain rfl := Option.some.inj subject
    exact Adds.map _ (Adds.mapResult ((h.called p).recv size peek))
  | udpRecvFrom peek sock size sender =>
    obtain rfl := Option.some.inj subject
    exact Adds.map _ (h.recvFromWith sock.ipv6 peek size sender)
  | udpRecvFromV4 peek sock size sender =>
    obtain rfl := Option.some.inj subject
    exact Adds.map _ (h.recvFromFamily sock.ipv6 peek _ UdpSocket.asV4 size sender)
  | udpRecvFromV6 peek sock size sender =>
    obtain rfl := Option.some.inj subject
    exact Adds.map _ (h.recvFromFamily sock.ipv6 peek _ UdpSocket.asV6 size sender)
  | send stream data =>
    obtain rfl := Option.some.inj subject
    exact Adds.map _ (h.sendSome data)
  | sendAll stream data =>
    obtain rfl := Option.some.inj subject
    exact h.sendAll data rounds
  | receive peek stream size =>
    obtain rfl := Option.some.inj subject
    exact Adds.map _ (h.receiveWith peek size)
  | receiveExact stream size =>
    obtain rfl := Option.some.inj subject
    exact Adds.map _ (h.receiveExact size [] rounds)
  | setLinger stream enable timeoutMs =>
    obtain rfl := Option.some.inj subject
    exact Adds.map _ (Adds.mapResult (h.setsockopt _))
  | setNoDelay stream noDelay =>
    obtain rfl := Option.some.inj subject
    exact Adds.map _ (Adds.mapResult (h.setsockopt _))
  | shutdown stream mode =>
    obtain rfl := Option.some.inj subject
    exact Adds.map _ (Adds.mapResult (h.shutdown _))
  | localAddress fd =>
    obtain rfl := Option.some.inj subject
    exact Adds.map _ (CallsAdd.readAddress h.getsockname)
  | remoteAddress fd =>
    obtain rfl := Option.some.inj subject
    exact Adds.map _ (CallsAdd.readAddress h.getpeername)
  | setNonBlocking fd nonBlocking =>
    obtain rfl := Option.some.inj subject
    exact Adds.map _ (Adds.setNonBlocking (ioctl nonBlocking rfl))
  | setReadTimeout fd timeoutMs =>
    obtain rfl := Option.some.inj subject
    exact Adds.map _ (h.setTimeout .receive timeoutMs)
  | setWriteTimeout fd timeoutMs =>
    obtain rfl := Option.some.inj subject
    exact Adds.map _ (h.setTimeout .send timeoutMs)
  | pollOne fd poll timeoutMs =>
    obtain rfl := Option.some.inj subject
    exact Adds.map _ (h.pollOne (handle poll timeoutMs rfl) poll timeoutMs rounds)
  | udpBind | udpBindAny | listenerBind | accept | connect | connectNonBlocking => cases subject

end Qsox
