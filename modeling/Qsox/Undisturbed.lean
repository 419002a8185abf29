import Qsox.AnswersAlike
import Qsox.Conversation
import Qsox.Watched

/-! Operations in a row, with all that they return. What is done with other sockets, and
looking at a socket without taking anything from it, makes no difference to the rest. -/

namespace Qsox

open BaseSocket

namespace Operation

/-- What the operation returns, the sender argument and the buffer included. -/
def Result : Operation → Type
  | udpBind _ | udpBindAny _ => Except Error UdpSocket
  | udpConnect _ _ | udpDisconnect _ => Except Error Unit
  | udpSendTo _ data _ | udpSend _ data => Except Error (Fin (data.length + 1))
  | udpRecv _ _ size => Except Error { bytes : List UInt8 // bytes.length ≤ size }
  | udpRecvFrom _ _ size _ =>
    Option (Except Error { bytes : List UInt8 // bytes.length ≤ size } × SocketAddress)
  | udpRecvFromV4 _ _ size _ =>
    Option (Except Error { bytes : List UInt8 // bytes.length ≤ size } × SocketAddressV4)
  | udpRecvFromV6 _ _ size _ =>
    Option (Except Error { bytes : List UInt8 // bytes.length ≤ size } × SocketAddressV6)
  | listenerBind _ => Except Error TcpListener
  | accept _ => Option (Except Error (TcpStream × SocketAddress))
  | connect _ _ | connectNonBlocking _ => Option (Except Error TcpStream)
  | send _ _ => Except Error ℕ
  | sendAll _ _ => Option (Except Error Unit)
  | receive _ _ _ => Except Error (List UInt8)
  | receiveExact _ _ => Option (Except Error Unit × List UInt8)
  | setLinger _ _ _ | setNoDelay _ _ | shutdown _ _ | setNonBlocking _ _ | setReadTimeout _ _
  | setWriteTimeout _ _ => Except Error Unit
  | localAddress _ | remoteAddress _ => Option (Except Error SocketAddress)
  | pollOne _ _ _ => Option (Except Error PollResult)

section
variable {σ : Type} (sys : Sys σ) (p : Platform) (linux : Bool) (rounds : ℕ)

def reply : (op : Operation) → StateM (Os σ) op.Result
  | udpBind address => UdpSocket.bind sys p address
  | udpBindAny ipv6 => UdpSocket.bindAny sys p ipv6
  | udpConnect sock address => sock.connect sys p linux address
  | udpDisconnect sock => sock.disconnect sys p
  | udpSendTo sock data destination => sock.sendTo sys p linux data destination
  | udpSend sock data => sock.send sys p data
  | udpRecv peek sock size => sock.recvWith sys p peek size
  | udpRecvFrom peek sock size sender => sock.recvFromWith sys p peek size sender
  | udpRecvFromV4 peek sock size sender =>
    sock.recvFromFamily sys p peek ⟨.v4 .unspecified, 0⟩ UdpSocket.asV4 size sender
  | udpRecvFromV6 peek sock size sender =>
    sock.recvFromFamily sys p peek ⟨.v6 .unspecified, 0⟩ UdpSocket.asV6 size sender
  | listenerBind address => TcpListener.bind sys p address
  | accept listener => listener.accept sys p
  | connect address timeoutMs => TcpStream.connect sys p address timeoutMs rounds
  | connectNonBlocking address => TcpStream.connectNonBlocking sys p address rounds
  | send stream data => stream.send sys p data
  | sendAll stream data => stream.sendAll sys p data rounds
  | receive peek stream size => stream.receiveWith sys p peek size
  | receiveExact stream size => stream.receiveExact sys p size [] rounds
  | setLinger stream enable timeoutMs => stream.setLinger sys p enable timeoutMs
  | setNoDelay stream noDelay => stream.setNoDelay sys p noDelay
  | shutdown stream mode => stream.shutdown sys p mode
  | localAddress fd => BaseSocket.localAddress sys p fd
  | remoteAddress fd => BaseSocket.remoteAddress sys p fd
  | setNonBlocking fd nonBlocking => BaseSocket.setNonBlocking sys.kernel p fd nonBlocking
  | setReadTimeout fd timeoutMs => BaseSocket.setReadTimeout sys p fd timeoutMs
  | setWriteTimeout fd timeoutMs => BaseSocket.setWriteTimeout sys p fd timeoutMs
  | pollOne fd poll timeoutMs => Poll.pollOne sys p fd poll timeoutMs rounds

def session (ops : List Operation) : StateM (Os σ) (List ((op : Operation) × op.Result)) :=
  inTurn (fun op => op.reply sys p linux rounds) ops

end

def Looked : (op : Operation) × op.Result → Bool
  | ⟨udpRecv peek _ _, res⟩ => peek && res.isOk
  | ⟨udpRecvFrom peek _ _ _, res⟩ => peek && res.any fun out => out.1.isOk
  | ⟨udpRecvFromV4 peek _ _ _, res⟩ => peek && res.any fun out => out.1.isOk
  | ⟨udpRecvFromV6 peek _ _ _, res⟩ => peek && res.any fun out => out.1.isOk
  | ⟨receive peek _ _, res⟩ => peek && res.isOk
  | ⟨localAddress _, res⟩ | ⟨remoteAddress _, res⟩ => res.any fun out => out.isOk
  | _ => false

/-- What an operation returns, but for the number of a descriptor that it accepts. -/
def numberless : (op : Operation) × op.Result → (op : Operation) × op.Result
  | ⟨accept listener, res⟩ =>
    ⟨accept listener, res.map fun out => out.map fun accepted => (⟨0⟩, accepted.2)⟩
  | done => done

def target : Operation → Option SockFd
  | accept listener => some listener.fd
  | op => op.subject

/-- The descriptors that the operation is given to make its calls on. On Windows `pollOne`
hands over an `int`. -/
def handles (p : Platform) : Operation → List SockFd
  | pollOne fd _ _ => if p = .windows then [fd, Poll.Windows.intHandle fd] else [fd]
  | op => op.target.toList

section
variable {σ τ : Type} {sys : Sys σ} {sys' : Sys τ} {R : σ → τ → Prop} {p : Platform}

theorem reply_own {op : Operation} {fd : SockFd} (h : CallsAlike sys sys' fd R)
    (handle : ∀ poll timeoutMs, op = .pollOne fd poll timeoutMs → p = .windows →
      CallsAlike sys sys' (Poll.Windows.intHandle fd) R)
    (linux : Bool) (rounds : ℕ) (subject : op.subject = some fd) :
    Agree R (op.reply sys p linux rounds) (op.reply sys' p linux rounds) := by
  cases op with
  | udpConnect sock address =>
    obtain rfl := Option.some.inj subject
    exact h.udpConnect sock.ipv6 linux address
  | udpDisconnect sock =>
    obtain rfl := Option.some.inj subject
    exact Alike.mapResult (h.connect _ _)
  | udpSendTo sock data destination =>
    obtain rfl := Option.some.inj subject
    exact h.sendTo sock.ipv6 linux data destination
  | udpSend sock data =>
    obtain rfl := Option.some.inj subject
    exact Alike.mapResult ((h.called p).send data)
  | udpRecv peek sock size =>
    obtain rfl := Option.some.inj subject
    exact Alike.mapResult ((h.called p).recv size peek)
  | udpRecvFrom peek sock size sender =>
    obtain rfl := Option.some.inj subject
    exact h.recvFromWith sock.ipv6 peek size sender
  | udpRecvFromV4 peek sock size sender =>
    obtain rfl := Option.some.inj subject
    exact h.recvFromFamily sock.ipv6 peek _ UdpSocket.asV4 size sender
  | udpRecvFromV6 peek sock size sender =>
    obtain rfl := Option.some.inj subject
    exact h.recvFromFamily sock.ipv6 peek _ UdpSocket.asV6 size sender
  | send stream data =>
    obtain rfl := Option.some.inj subject
    exact h.sendSome data
  | sendAll stream data =>
    obtain rfl := Option.some.inj subject
    exact h.sendAll data rounds
  | receive peek stream size =>
    obtain rfl := Option.some.inj subject
    exact h.receiveWith peek size
  | receiveExact stream size =>
    obtain rfl := Option.some.inj subject
    exact h.receiveExact size [] rounds
  | setLinger stream enable timeoutMs =>
    obtain rfl := Option.some.inj subject
    exact Alike.mapResult (h.setsockopt _)
  | setNoDelay stream noDelay =>
    obtain rfl := Option.some.inj subject
    exact Alike.mapResult (h.setsockopt _)
  | shutdown stream mode =>
    obtain rfl := Option.some.inj subject
    exact Alike.mapResult (h.shutdown _)
  | localAddress fd =>
    obtain rfl := Option.some.inj subject
    exact h.readAddress h.getsockname
  | remoteAddress fd =>
    obtain rfl := Option.some.inj subject
    exact h.readAddress h.getpeername
  | setNonBlocking fd nonBlocking =>
    obtain rfl := Option.some.inj subject
    exact h.setNonBlocking nonBlocking
  | setReadTimeout fd timeoutMs =>
    obtain rfl := Option.some.inj subject
    exact h.setTimeout .receive timeoutMs
  | setWriteTimeout fd timeoutMs =>
    obtain rfl := Option.some.inj subject
    exact h.setTimeout .send timeoutMs
  | pollOne fd poll timeoutMs =>
    obtain rfl := Option.some.inj subject
    exact h.pollOne (handle poll timeoutMs rfl) poll timeoutMs rounds
  | udpBind | udpBindAny | listenerBind | accept | connect | connectNonBlocking => cases subject

theorem reply_alike (h : AnswersAlike sys sys' R) (linux : Bool) (rounds : ℕ) (op : Operation) :
    Agree R (op.reply sys p linux rounds) (op.reply sys' p linux rounds) := by
  cases subject : op.subject with
  | some fd => exact reply_own (h.calls fd) (fun _ _ _ _ => h.calls _) linux rounds subject
  | none =>
    cases op with
    | udpBind address => exact h.udpBind address
    | udpBindAny ipv6 => exact h.udpBind _
    | listenerBind address => exact h.listenerBind address
    | accept listener => exact h.listenerAccept listener
    | connect address timeoutMs => exact h.tcpConnect address timeoutMs rounds
    | connectNonBlocking address => exact h.tcpConnectNonBlocking address rounds
    | _ => cases subject

@[simp] theorem reply_world (linux : Bool) (rounds : ℕ) (op : Operation) (os : Os σ) :
    (op.reply sys p linux rounds os).2 = (op.run sys p linux rounds os).2 := by
  cases op <;> rfl

theorem target_mem_handles {op : Operation} {fd : SockFd} (target : op.target = some fd) :
    fd ∈ op.handles p := by
  cases op with
  | pollOne d poll timeoutMs =>
    obtain rfl := Option.some.inj target
    simp only [handles]
    split_ifs <;> exact List.mem_cons_self
  | _ => exact Option.mem_toList.mpr target

theorem target_of_subject {op : Operation} {fd : SockFd} (subject : op.subject = some fd) :
    op.target = some fd := by
  cases op with
  | accept listener => cases subject
  | _ => exact subject

theorem intHandle_mem_handles (fd : SockFd) (poll : PollType) (timeoutMs : Int32) :
    Poll.Windows.intHandle fd ∈ (pollOne fd poll timeoutMs).handles .windows :=
  List.mem_cons_of_mem fd List.mem_cons_self

end
end Operation

section
variable {σ τ α : Type} {sys : Sys σ} {sys' : Sys τ} {R : σ → τ → Prop} {p : Platform}

theorem AnswersAlike.session (h : AnswersAlike sys sys' R) (linux : Bool) (rounds : ℕ)
    (ops : List Operation) :
    Agree R (Operation.session sys p linux rounds ops)
      (Operation.session sys' p linux rounds ops) :=
  Alike.inTurn (fun op => op.reply_alike h linux rounds) ops

theorem Watched.observing_alike (note : α → List Use) (f : σ → α × σ) :
    Alike (fun w w' => w.world = w') (Watched.observing note f) f fun _ w w' => w.world = w' := by
  rintro w w' rfl
  exact ⟨rfl, rfl⟩

theorem Logged.noting_alike (note : α → List Entry) (f : σ → α × σ) :
    Alike (fun w w' => w.world = w') (Logged.noting note f) f fun _ w w' => w.world = w' := by
  rintro w w' rfl
  exact ⟨rfl, rfl⟩

theorem Sys.watched_alike (sys : Sys σ) :
    AnswersAlike sys.watched sys fun w w' => w.world = w' where
  startup := rfl
  socket _ _ := Watched.observing_alike _ _
  bind _ _ _ := Watched.observing_alike _ _
  listen _ _ := Watched.observing_alike _ _
  accept _ := Watched.observing_alike _ _
  close _ := Watched.observing_alike _ _
  now := Watched.observing_alike _ _
  errnoLeft _ _ same := congrArg sys.errnoLeft same
  calls _ :=
    { abi := rfl
      ioctl := fun _ => Watched.observing_alike _ _
      setsockopt := fun _ => Watched.observing_alike _ _
      connect := fun _ _ => Watched.observing_alike _ _
      getsockname := Watched.observing_alike _ _
      getpeername := Watched.observing_alike _ _
      send := fun _ => Watched.observing_alike _ _
      sendto := fun _ _ _ => Watched.observing_alike _ _
      recv := fun _ _ => Watched.observing_alike _ _
      recvfrom := fun _ _ => Watched.observing_alike _ _
      soError := Watched.observing_alike _ _
      shutdown := fun _ => Watched.observing_alike _ _
      poll := fun _ _ => Watched.observing_alike _ _
      select := fun _ _ => Watched.observing_alike _ _ }

theorem Sys.logged_alike (sys : Sys σ) :
    AnswersAlike sys.logged sys fun w w' => w.world = w' where
  startup := rfl
  socket _ _ := Logged.noting_alike _ _
  bind _ _ _ := Logged.noting_alike _ _
  listen _ _ := Logged.noting_alike _ _
  accept _ := Logged.noting_alike _ _
  close _ := Logged.noting_alike _ _
  now := Logged.noting_alike _ _
  errnoLeft _ _ same := congrArg sys.errnoLeft same
  calls _ :=
    { abi := rfl
      ioctl := fun _ => Logged.noting_alike _ _
      setsockopt := fun _ => Logged.noting_alike _ _
      connect := fun _ _ => Logged.noting_alike _ _
      getsockname := Logged.noting_alike _ _
      getpeername := Logged.noting_alike _ _
      send := fun _ => Logged.noting_alike _ _
      sendto := fun _ _ _ => Logged.noting_alike _ _
      recv := fun _ _ => Logged.noting_alike _ _
      recvfrom := fun _ _ => Logged.noting_alike _ _
      soError := Logged.noting_alike _ _
      shutdown := fun _ => Logged.noting_alike _ _
      poll := fun _ _ => Logged.noting_alike _ _
      select := fun _ _ => Logged.noting_alike _ _ }

theorem session_logged (sys : Sys σ) (linux : Bool) (rounds : ℕ) (ops : List Operation)
    {os : Os (Logged (Watched σ))} {os' : Os σ} (same : os.world.world.world = os'.world) :
    (Operation.session sys.watched.logged p linux rounds ops os).1 =
      (Operation.session sys p linux rounds ops os').1 := by
  have logged := sys.watched.logged_alike.session (p := p) linux rounds ops os
    ⟨os.world.world, os.errno, os.trace⟩ rfl
  have watched := sys.watched_alike.session (p := p) linux rounds ops
    ⟨os.world.world, os.errno, os.trace⟩ os' same
  exact logged.1.trans watched.1

end

structure CallsKeep {σ β : Type} (sys : Sys σ) (fd : SockFd) (view : σ → β) : Prop where
  ioctl : ∀ nonBlocking, Keeps view (sys.ioctl fd nonBlocking)
  setsockopt : ∀ opt, Keeps view (sys.setsockopt fd opt)
  bind : ∀ m len, Keeps view (sys.bind fd m len)
  listen : ∀ backlog, Keeps view (sys.listen fd backlog)
  accept : Keeps view (sys.accept fd)
  connect : ∀ m len, Keeps view (sys.connect fd m len)
  getsockname : Keeps view (sys.getsockname fd)
  getpeername : Keeps view (sys.getpeername fd)
  send : ∀ data, Keeps view (sys.send fd data)
  sendto : ∀ data m len, Keeps view (sys.sendto fd data m len)
  recv : ∀ size peek, Keeps view (sys.recv fd size peek)
  recvfrom : ∀ size peek, Keeps view (sys.recvfrom fd size peek)
  soError : Keeps view (sys.soError fd)
  shutdown : ∀ how, Keeps view (sys.shutdown fd how)
  poll : ∀ events timeout, Keeps view (sys.poll fd events timeout)
  select : ∀ sets timeout, Keeps view (sys.select fd sets timeout)
  close : Keeps view (sys.close fd)
  now : Keeps view sys.now

/-- What calls on the socket answer is in the view of it, all but the number that a socket
it accepts gets. No other call changes the view, and a new socket has another descriptor. -/
structure KeepsApart {σ β : Type} (sys : Sys σ) (fd : SockFd) (view : σ → β) : Prop where
  own : CallsAlike sys sys fd fun w w' => view w = view w'
  accept : ∀ w w', view w = view w' →
    (sys.accept fd w).1.map Prod.snd = (sys.accept fd w').1.map Prod.snd ∧
      view (sys.accept fd w).2 = view (sys.accept fd w').2
  others : ∀ other, other ≠ fd → CallsKeep sys other view
  socket : ∀ family type, Keeps view (sys.socket family type)
  fresh : ∀ family type w made, (sys.socket family type w).1 = .ok made → made ≠ fd

section
variable {σ β : Type} {sys : Sys σ} {view : σ → β}

theorem CallsKeep.adds {other : SockFd} (h : CallsKeep sys other view) :
    CallsAdd sys other (fun w => [view w]) fun _ => False where
  setsockopt opt := Adds.of_keeps (h.setsockopt opt)
  bind m len := Adds.of_keeps (h.bind m len)
  listen backlog := Adds.of_keeps (h.listen backlog)
  connect m len := Adds.of_keeps (h.connect m len)
  getsockname := Adds.of_keeps h.getsockname
  getpeername := Adds.of_keeps h.getpeername
  send data := Adds.of_keeps (h.send data)
  sendto data m len := Adds.of_keeps (h.sendto data m len)
  recv size peek := Adds.of_keeps (h.recv size peek)
  recvfrom size peek := Adds.of_keeps (h.recvfrom size peek)
  soError := Adds.of_keeps h.soError
  shutdown how := Adds.of_keeps (h.shutdown how)
  poll events timeout := Adds.of_keeps (h.poll events timeout)
  select sets timeout := Adds.of_keeps (h.select sets timeout)
  now := Adds.of_keeps h.now

abbrev seenIn (view : σ → β) (os : Os σ) : β := view os.world

theorem call_keeps {α : Type} {k : Kernel σ} {f : σ → Except ℤ α × σ} (h : Keeps view f) :
    Keeps (seenIn view) (Os.call k f) :=
  Adds.keeps (Adds.call (Adds.of_keeps h))

def Other (fd : SockFd) (r : Except Error SockFd) : Prop := ∀ made, r = .ok made → made ≠ fd

theorem Other.error {fd : SockFd} {e : Error} : Other fd (.error e) := nofun

theorem Other.ok {fd other : SockFd} (different : other ≠ fd) : Other fd (.ok other) := by
  rintro made same
  obtain rfl := Except.ok.inj same
  exact different

theorem closeAndFail_other {fd : SockFd} (p : Platform) (other : SockFd) :
    Always (Other fd) (closeAndFail sys p other) :=
  fun _ => Other.error

theorem bindNewSocket_other {fd other : SockFd} (different : other ≠ fd) (p : Platform)
    (address : SocketAddress) : Always (Other fd) (bindNewSocket sys p address other) := by
  refine Always.rest fun returned => ?_
  cases returned with
  | none => exact closeAndFail_other p other
  | some a => exact Always.pure (Other.ok different)

theorem keeps_unwrap {α : Type} {fd : SockFd} {step : StateM (Os σ) (Except Error SockFd)}
    {next : SockFd → StateM (Os σ) (Except Error α)} (first : Keeps (seenIn view) step)
    (made : Always (Other fd) step)
    (rest : ∀ sock, sock ≠ fd → Keeps (seenIn view) (next sock)) :
    Keeps (seenIn view) (unwrap step next) := by
  refine Keeps.bindWhere first made fun returned other => ?_
  cases returned with
  | error e => exact Keeps.pure _
  | ok sock => exact rest sock (other sock rfl)

theorem other_unwrap {fd : SockFd} {step : StateM (Os σ) (Except Error SockFd)}
    {next : SockFd → StateM (Os σ) (Except Error SockFd)} (made : Always (Other fd) step)
    (rest : ∀ sock, sock ≠ fd → Always (Other fd) (next sock)) :
    Always (Other fd) (unwrap step next) := by
  refine Always.bind made fun returned other => ?_
  cases returned with
  | error e => exact Always.pure Other.error
  | ok sock => exact rest sock (other sock rfl)

namespace KeepsApart

variable {fd : SockFd} (h : KeepsApart sys fd view) {p : Platform}
include h

theorem newSocket (family : Family) (type : SockType) :
    Keeps (seenIn view) (BaseSocket.newSocket sys.kernel p family type) := by
  rw [BaseSocket.newSocket]
  cases startupSockets sys.kernel p with
  | error e => exact Keeps.pure _
  | ok a =>
    refine Keeps.bind (call_keeps (h.socket family type)) fun returned => ?_
    cases returned with
    | none => exact fun os => rfl
    | some sock => exact Keeps.pure _

theorem newSocket_other (family : Family) (type : SockType) :
    Always (Other fd) (BaseSocket.newSocket sys.kernel p family type) := by
  have other : Ensures (fun _ => True) (BaseSocket.newSocket sys.kernel p family type)
      fun r _ => Other fd r := by
    refine newSocket_ensures ?_ (fun _ _ _ _ => Other.error) fun _ _ _ _ _ => Other.error
    rintro os sock w - - answered made same
    obtain rfl := Except.ok.inj same
    exact h.fresh family type os.world sock (congrArg Prod.fst answered)
  exact fun os => other os trivial

theorem closeAndFail {other : SockFd} (different : other ≠ fd) :
    Keeps (seenIn view) (closeAndFail sys p other) := by
  refine Keeps.bind (Keeps.bind (call_keeps (h.others other different).close) fun _ => ?_)
    fun _ => fun os => rfl
  exact Keeps.pure ()

theorem bindNewSocket {other : SockFd} (different : other ≠ fd) (address : SocketAddress) :
    Keeps (seenIn view) (bindNewSocket sys p address other) := by
  refine Keeps.bind (call_keeps ((h.others other different).bind _ _)) fun returned => ?_
  cases returned with
  | none => exact h.closeAndFail different
  | some a => exact Keeps.pure _

theorem newBoundSocket (address : SocketAddress) (type : SockType) :
    Keeps (seenIn view) (newBoundSocket sys p address type) := by
  refine keeps_unwrap (h.newSocket address.family type) (h.newSocket_other address.family type)
    fun sock different => Keeps.ite ?_ (h.bindNewSocket different address)
  refine Keeps.bind (call_keeps ((h.others sock different).setsockopt _)) fun returned => ?_
  cases returned with
  | none => exact h.closeAndFail different
  | some a => exact h.bindNewSocket different address

theorem newBoundSocket_other (address : SocketAddress) (type : SockType) :
    Always (Other fd) (Qsox.newBoundSocket sys p address type) := by
  have bound (sock : SockFd) (different : sock ≠ fd) :
      Always (Other fd) (Qsox.bindNewSocket sys p address sock) :=
    bindNewSocket_other different p address
  refine other_unwrap (h.newSocket_other address.family type) fun sock different =>
    Always.ite (fun _ => Always.rest fun returned => ?_) fun _ => bound sock different
  cases returned with
  | none => exact closeAndFail_other p sock
  | some a => exact bound sock different

theorem listenerBind (address : SocketAddress) :
    Keeps (seenIn view) (TcpListener.bind sys p address) := by
  refine keeps_unwrap (h.newBoundSocket address .stream) (h.newBoundSocket_other address .stream)
    fun sock different => ?_
  refine Keeps.bind (call_keeps ((h.others sock different).listen 1024)) fun returned => ?_
  cases returned with
  | none => exact Keeps.bind (h.closeAndFail different) fun res => Keeps.pure _
  | some a => exact Keeps.pure _

theorem listenerAccept {listener : TcpListener} (different : listener.fd ≠ fd) :
    Keeps (seenIn view) (listener.accept sys p) := by
  have accepts := mapResult_keeps sys p view (h.others listener.fd different).accept
  refine Keeps.bind accepts fun returned => ?_
  cases returned with
  | error e => exact Keeps.pure _
  | ok accepted => exact Keeps.pure _

theorem connectInternal (address : SocketAddress) (nonBlocking : Bool) (timeoutMs : Int32)
    (rounds : ℕ) :
    Keeps (seenIn view)
      (TcpConnect.connectInternal sys.kernel p address nonBlocking timeoutMs rounds) := by
  refine Keeps.bindWhere (h.newSocket address.family .stream)
    (h.newSocket_other address.family .stream) fun returned other => ?_
  cases returned with
  | error e => exact Keeps.pure _
  | ok sock =>
    have calls := h.others sock (other sock rfl)
    refine Keeps.bind (Adds.keeps (calls.adds.establish (fun b => Adds.of_keeps (calls.ioctl b)) p
      address nonBlocking timeoutMs rounds)) fun made => ?_
    rcases made with _ | e | a
    · exact Keeps.pure _
    · exact Keeps.bind (call_keeps calls.close) fun _ => Keeps.pure _
    · exact Keeps.pure _

theorem reply_elsewhere {op : Operation} (elsewhere : fd ∉ op.handles p) (linux : Bool)
    (rounds : ℕ) : Keeps (seenIn view) (op.reply sys p linux rounds) := by
  cases subject : op.subject with
  | some other =>
    have different : other ≠ fd := fun same =>
      elsewhere (same ▸ Operation.target_mem_handles (Operation.target_of_subject subject))
    have calls := h.others other different
    have handle : ∀ poll timeoutMs, op = .pollOne other poll timeoutMs → p = .windows →
        CallsAdd sys (Poll.Windows.intHandle other) (fun w => [view w]) fun _ => False := by
      rintro poll timeoutMs rfl rfl
      refine (h.others _ fun same => elsewhere ?_).adds
      exact same ▸ Operation.intHandle_mem_handles other poll timeoutMs
    have run : Keeps (seenIn view) (op.run sys p linux rounds) :=
      Adds.keeps (Operation.run_adds calls.adds (fun b _ => Adds.of_keeps (calls.ioctl b)) handle
        linux rounds subject)
    exact fun os => (congrArg (seenIn view) (op.reply_world linux rounds os)).trans (run os)
  | none =>
    cases op with
    | udpBind address => exact Keeps.bind (h.newBoundSocket address .dgram) fun _ => Keeps.pure _
    | udpBindAny ipv6 => exact Keeps.bind (h.newBoundSocket _ .dgram) fun _ => Keeps.pure _
    | listenerBind address => exact h.listenerBind address
    | accept listener =>
      exact h.listenerAccept fun same => elsewhere (List.mem_singleton.mpr same.symm)
    | connect address timeoutMs =>
      exact Keeps.bind (h.connectInternal address false timeoutMs rounds) fun _ => Keeps.pure _
    | connectNonBlocking address =>
      exact Keeps.bind (h.connectInternal address true 0 rounds) fun _ => Keeps.pure _
    | _ => cases subject

end KeepsApart
end

def Operation.OnlyOn (p : Platform) (fd : SockFd) (op : Operation) : Prop :=
  op.target = some fd ∧ ∀ handle ∈ op.handles p, handle = fd

section
variable {σ τ β : Type} {sys : Sys σ} {sys' : Sys τ} {view : σ → β} {R : σ → τ → Prop}
  {p : Platform} {fd : SockFd}

theorem KeepsApart.accept_own (h : KeepsApart sys fd view) {os os' : Os σ}
    (same : view os.world = view os'.world) :
    Operation.numberless ⟨.accept ⟨fd⟩, (TcpListener.accept sys p ⟨fd⟩ os).1⟩ =
        Operation.numberless ⟨.accept ⟨fd⟩, (TcpListener.accept sys p ⟨fd⟩ os').1⟩ ∧
      view (TcpListener.accept sys p ⟨fd⟩ os).2.world =
        view (TcpListener.accept sys p ⟨fd⟩ os').2.world := by
  obtain ⟨answers, kept⟩ := h.accept _ _ same
  cases left : sys.accept fd os.world with
  | mk r w =>
    cases right : sys.accept fd os'.world with
    | mk r' w' =>
      rw [left, right] at answers kept
      rcases r with code | ⟨made, storage⟩ <;> rcases r' with code' | ⟨made', storage'⟩
      · obtain rfl := Except.error.inj answers
        rw [TcpListener.accept_error left, TcpListener.accept_error right]
        exact ⟨rfl, kept⟩
      · cases answers
      · cases answers
      · obtain rfl := Except.ok.inj answers
        rw [TcpListener.accept_ok left, TcpListener.accept_ok right]
        refine ⟨?_, kept⟩
        cases SockAddrAny.toSocketAddress sys.abi storage <;> rfl

theorem KeepsApart.reply_own (h : KeepsApart sys fd view) {op : Operation} (only : op.OnlyOn p fd)
    (linux : Bool) (rounds : ℕ) {os os' : Os σ} (same : view os.world = view os'.world) :
    Operation.numberless ⟨op, (op.reply sys p linux rounds os).1⟩ =
        Operation.numberless ⟨op, (op.reply sys p linux rounds os').1⟩ ∧
      view (op.reply sys p linux rounds os).2.world =
        view (op.reply sys p linux rounds os').2.world := by
  cases subject : op.subject with
  | some other =>
    obtain rfl : other = fd :=
      Option.some.inj ((Operation.target_of_subject subject).symm.trans only.1)
    have agree := Operation.reply_own (p := p) h.own ?_ linux rounds subject os os' same
    · rw [agree.1]
      exact ⟨rfl, agree.2⟩
    · rintro poll timeoutMs rfl rfl
      rw [only.2 _ (Operation.intHandle_mem_handles other poll timeoutMs)]
      exact h.own
  | none =>
    cases op with
    | accept listener =>
      obtain rfl := Option.some.inj only.1
      exact h.accept_own same
    | udpBind | udpBindAny | listenerBind | connect | connectNonBlocking => cases only.1
    | _ => cases subject

/-- Between the operations on a socket others may be called, on other sockets, and sockets
may be made: each operation on the socket returns what it returns without these. -/
theorem others_make_no_difference (h : KeepsApart sys fd view) (linux : Bool) (rounds : ℕ)
    (ops : List Operation) (apart : ∀ op ∈ ops, op.OnlyOn p fd ∨ fd ∉ op.handles p)
    (os os' : Os σ) (same : view os.world = view os'.world) :
    ((Operation.session sys p linux rounds ops os).1.filter
          fun done => decide (done.1.target = some fd)).map Operation.numberless =
        (Operation.session sys p linux rounds (ops.filter fun op => op.target = some fd)
          os').1.map Operation.numberless ∧
      view (Operation.session sys p linux rounds ops os).2.world =
        view (Operation.session sys p linux rounds (ops.filter fun op => op.target = some fd)
          os').2.world := by
  have left := inTurn_filter (fun op : Operation => op.reply sys p linux rounds)
    (fun op => decide (op.target = some fd)) ops os
  rw [← left]
  refine inTurn_visible (fun op : Operation => op.reply sys p linux rounds)
    (fun op : Operation => op.reply sys p linux rounds)
    (fun done : (op : Operation) × op.Result => decide (done.1.target = some fd))
    Operation.numberless ops (R := Worlds fun w w' => view w = view w') ?_ ?_ same
  · intro op there s t before seen
    rcases apart op there with only | elsewhere
    · exact h.reply_own only linux rounds before
    · exact absurd (Operation.target_mem_handles (of_decide_eq_true seen)) elsewhere
  · intro op there s t before unseen
    rcases apart op there with only | elsewhere
    · exact absurd only.1 (of_decide_eq_false unseen)
    · exact (h.reply_elsewhere elsewhere linux rounds s).trans before

def onPart {α : Type} (fd : SockFd) (f : σ → α × σ) (w : SockFd → σ) : α × (SockFd → σ) :=
  ((f (w fd)).1, Function.update w fd (f (w fd)).2)

theorem onPart_alike {α : Type} (fd : SockFd) (f : σ → α × σ) :
    Alike (fun w w' => w fd = w' fd) (onPart fd f) (onPart fd f) fun _ w w' => w fd = w' fd := by
  intro w w' same
  refine ⟨congrArg (fun part => (f part).1) same, ?_⟩
  simp only [onPart, Function.update_self, same]

theorem onPart_keeps {α : Type} {fd other : SockFd} (different : other ≠ fd) (f : σ → α × σ) :
    Keeps (fun w : SockFd → σ => w fd) (onPart other f) :=
  fun _ => Function.update_of_ne different.symm _ _

/-- Each call is answered by the part of its descriptor; new sockets have one descriptor. -/
def Sys.parts (sys : Sys σ) (next : SockFd) : Sys (SockFd → σ) where
  abi := sys.abi
  startup := sys.startup
  socket _ _ w := (.ok next, w)
  close fd := onPart fd (sys.close fd)
  ioctl fd nonBlocking := onPart fd (sys.ioctl fd nonBlocking)
  setsockopt fd opt := onPart fd (sys.setsockopt fd opt)
  bind fd m len := onPart fd (sys.bind fd m len)
  listen fd backlog := onPart fd (sys.listen fd backlog)
  accept fd := onPart fd (sys.accept fd)
  connect fd m len := onPart fd (sys.connect fd m len)
  getsockname fd := onPart fd (sys.getsockname fd)
  getpeername fd := onPart fd (sys.getpeername fd)
  send fd data := onPart fd (sys.send fd data)
  sendto fd data m len := onPart fd (sys.sendto fd data m len)
  recv fd size peek := onPart fd (sys.recv fd size peek)
  recvfrom fd size peek := onPart fd (sys.recvfrom fd size peek)
  soError fd := onPart fd (sys.soError fd)
  shutdown fd how := onPart fd (sys.shutdown fd how)
  poll fd events timeout := onPart fd (sys.poll fd events timeout)
  select fd sets timeout := onPart fd (sys.select fd sets timeout)
  now w := (0, w)
  errnoLeft _ := 0

theorem Sys.parts_keepsApart (sys : Sys σ) {next fd : SockFd} (different : next ≠ fd) :
    KeepsApart (sys.parts next) fd fun w => w fd where
  own :=
    { abi := rfl
      ioctl := fun _ => onPart_alike fd _
      setsockopt := fun _ => onPart_alike fd _
      connect := fun _ _ => onPart_alike fd _
      getsockname := onPart_alike fd _
      getpeername := onPart_alike fd _
      send := fun _ => onPart_alike fd _
      sendto := fun _ _ _ => onPart_alike fd _
      recv := fun _ _ => onPart_alike fd _
      recvfrom := fun _ _ => onPart_alike fd _
      soError := onPart_alike fd _
      shutdown := fun _ => onPart_alike fd _
      poll := fun _ _ => onPart_alike fd _
      select := fun _ _ => onPart_alike fd _ }
  accept w w' same := by
    obtain ⟨answer, after⟩ := onPart_alike fd (sys.accept fd) w w' same
    exact ⟨congrArg (Except.map Prod.snd) answer, after⟩
  others _ away :=
    { ioctl := fun _ => onPart_keeps away _
      setsockopt := fun _ => onPart_keeps away _
      bind := fun _ _ => onPart_keeps away _
      listen := fun _ => onPart_keeps away _
      accept := onPart_keeps away _
      connect := fun _ _ => onPart_keeps away _
      getsockname := onPart_keeps away _
      getpeername := onPart_keeps away _
      send := fun _ => onPart_keeps away _
      sendto := fun _ _ _ => onPart_keeps away _
      recv := fun _ _ => onPart_keeps away _
      recvfrom := fun _ _ => onPart_keeps away _
      soError := onPart_keeps away _
      shutdown := fun _ => onPart_keeps away _
      poll := fun _ _ => onPart_keeps away _
      select := fun _ _ => onPart_keeps away _
      close := onPart_keeps away _
      now := fun _ => rfl }
  socket _ _ _ := rfl
  fresh _ _ _ _ answer := Except.ok.inj answer ▸ different

def waiting : Os (SockFd → Pipe) := ⟨fun _ => ⟨[], [], [7, 8, 9], false⟩, 0, []⟩

theorem served_others_make_no_difference :
    ((Operation.session (Pipe.sys.parts 9) .posix true 1
        [.receive false ⟨3⟩ 4, .receive false ⟨4⟩ 4, .connect ⟨.v4 (.ofOctets 127 0 0 1), 80⟩ 0,
          .receive false ⟨3⟩ 4] waiting).1.filter
        fun done => decide (done.1.target = some 3)) =
      [⟨.receive false ⟨3⟩ 4, .ok [7, 8]⟩, ⟨.receive false ⟨3⟩ 4, .ok [9]⟩] :=
  (others_make_no_difference (p := .posix)
    (Pipe.sys.parts_keepsApart (show (9 : SockFd) ≠ 3 by decide)) true 1
    [.receive false ⟨3⟩ 4, .receive false ⟨4⟩ 4, .connect ⟨.v4 (.ofOctets 127 0 0 1), 80⟩ 0,
      .receive false ⟨3⟩ 4] (by
        intro op there
        simp only [List.mem_cons, List.not_mem_nil, or_false] at there
        rcases there with rfl | rfl | rfl | rfl
        · exact .inl ⟨rfl, by decide⟩
        · exact .inr (by decide)
        · exact .inr (by decide)
        · exact .inl ⟨rfl, by decide⟩) waiting waiting rfl).1.trans rfl

/-- What a look asks the system for leaves its world as it is, where it is answered. A look
that fails may take a pending error away. -/
structure LooksLeave (sys : Sys σ) : Prop where
  recv : ∀ {fd size w bytes w'}, sys.recv fd size true w = (.ok bytes, w') → w' = w
  recvfrom : ∀ {fd size w received w'}, sys.recvfrom fd size true w = (.ok received, w') → w' = w
  getsockname : ∀ {fd w storage w'}, sys.getsockname fd w = (.ok storage, w') → w' = w
  getpeername : ∀ {fd w storage w'}, sys.getpeername fd w = (.ok storage, w') → w' = w

/-- A call that is answered leaves the world, and the program fails with one that is not. -/
def Still {α : Type} (found : α → Bool) (program : StateM (Os σ) α) : Prop :=
  ∀ os, found (program os).1 = true → (program os).2.world = os.world

namespace LooksLeave

theorem called (h : LooksLeave sys) (p : Platform) : LooksLeave (sys.called p) := by
  cases p with
  | posix => exact h
  | windows =>
    refine { h with recv := fun answered => ?_, recvfrom := fun answered => ?_ }
    · obtain ⟨bytes, given, -⟩ := Sys.answering_ok_iff.mp answered
      exact h.recv given
    · obtain ⟨received, given, -⟩ := Sys.answering_ok_iff.mp answered
      exact h.recvfrom given

end LooksLeave

namespace Still

theorem mapResult {α : Type} {f : σ → Except ℤ α × σ}
    (leaves : ∀ {w a w'}, f w = (.ok a, w') → w' = w) :
    Still (fun r : Except Error α => r.isOk) (mapResult sys p f) := by
  intro os found
  cases answered : f os.world with
  | mk returned w =>
    cases returned with
    | ok a =>
      rw [mapResult_ok answered]
      exact leaves answered
    | error code =>
      rw [mapResult_error answered] at found
      cases found

theorem bind {α β : Type} {found : α → Bool} {found' : β → Bool} {first : StateM (Os σ) α}
    {next : α → StateM (Os σ) β} (h : Still found first) (quiet : ∀ a, Keeps (seenIn id) (next a))
    (fails : ∀ a os, found' (next a os).1 = true → found a = true) :
    Still found' (first >>= next) :=
  fun os succeeded => (quiet _ _).trans (h os (fails _ _ succeeded))

theorem readAddress {call : σ → Except ℤ Resolver.SockAddr × σ}
    (leaves : ∀ {w a w'}, call w = (.ok a, w') → w' = w) :
    Still (fun r : Option (Except Error SocketAddress) => r.any fun out => out.isOk)
      (readAddress sys p call) := by
  refine bind (mapResult leaves) (fun returned => ?_) fun returned os => ?_
  · cases returned <;> exact Keeps.pure _
  · cases returned with
    | error e => exact fun found => by cases found
    | ok storage => exact fun _ => rfl

end Still

namespace LooksLeave

variable (h : LooksLeave sys)
include h

theorem recvFromWith (sock : UdpSocket) (size : ℕ) (sender : SocketAddress) :
    Still (fun r => r.any fun out => out.1.isOk) (sock.recvFromWith sys p true size sender) := by
  refine Still.bind (Still.mapResult (h.called p).recvfrom) (fun returned => ?_)
    fun returned os => ?_
  · cases returned <;> exact Keeps.pure _
  · cases returned with
    | error e => exact fun found => by cases found
    | ok received => exact fun _ => rfl

theorem recvFromFamily {Address : Type} (initial : SocketAddress)
    (narrow : SocketAddress → Option Address) (sock : UdpSocket) (size : ℕ) (sender : Address) :
    Still (fun r => r.any fun out => out.1.isOk)
      (sock.recvFromFamily sys p true initial narrow size sender) := by
  refine Still.bind (h.recvFromWith sock size initial) (fun returned => ?_) fun returned os => ?_
  · rcases returned with _ | out
    · exact Keeps.pure _
    · simp only []
      cases narrow out.2 <;> exact Keeps.pure _
  · rcases returned with _ | out
    · exact fun found => by cases found
    · simp only []
      cases narrow out.2 with
      | none => exact fun found => by cases found
      | some address => exact fun found => found

theorem receiveWith (stream : TcpStream) (size : ℕ) :
    Still (fun r => r.isOk) (stream.receiveWith sys p true size) := by
  refine Still.bind (Still.mapResult (h.called p).recv) (fun returned => ?_) fun returned os => ?_
  · cases returned with
    | error e => exact Keeps.pure _
    | ok bytes => exact Keeps.ite (Keeps.pure _) (Keeps.pure _)
  · cases returned with
    | error e => exact fun found => by cases found
    | ok bytes => exact fun _ => rfl

theorem reply_still {op : Operation} (linux : Bool) (rounds : ℕ) (os : Os σ)
    (looked : Operation.Looked ⟨op, (op.reply sys p linux rounds os).1⟩ = true) :
    (op.reply sys p linux rounds os).2.world = os.world := by
  cases op with
  | udpRecv peek sock size =>
    obtain ⟨rfl, found⟩ := (Bool.and_eq_true _ _).mp looked
    exact Still.mapResult (h.called p).recv os found
  | udpRecvFrom peek sock size sender =>
    obtain ⟨rfl, found⟩ := (Bool.and_eq_true _ _).mp looked
    exact h.recvFromWith sock size sender os found
  | udpRecvFromV4 peek sock size sender =>
    obtain ⟨rfl, found⟩ := (Bool.and_eq_true _ _).mp looked
    exact h.recvFromFamily _ _ sock size sender os found
  | udpRecvFromV6 peek sock size sender =>
    obtain ⟨rfl, found⟩ := (Bool.and_eq_true _ _).mp looked
    exact h.recvFromFamily _ _ sock size sender os found
  | receive peek stream size =>
    obtain ⟨rfl, found⟩ := (Bool.and_eq_true _ _).mp looked
    exact h.receiveWith stream size os found
  | localAddress fd => exact Still.readAddress h.getsockname os looked
  | remoteAddress fd => exact Still.readAddress h.getpeername os looked
  | _ => cases looked

end LooksLeave

/-- Without the looks that have found something, every other operation returns the same,
and the world comes to the same. -/
theorem looks_make_no_difference (h : LooksLeave sys) (p : Platform) (linux : Bool) (rounds : ℕ)
    (ops : List Operation) (os os' : Os σ) (same : os.world = os'.world)
    (others : List ((op : Operation) × op.Result))
    (left : others = (Operation.session sys p linux rounds ops os).1.filter
      fun done => !Operation.Looked done) :
    (Operation.session sys p linux rounds (others.map Sigma.fst) os').1 = others ∧
      (Operation.session sys p linux rounds (others.map Sigma.fst) os').2.world =
        (Operation.session sys p linux rounds ops os).2.world := by
  subst left
  have alike := inTurn_visible (fun op : Operation => op.reply sys p linux rounds)
    (fun op => op.reply sys p linux rounds) (fun done => !Operation.Looked done) id
    ops (R := Worlds Eq) ?_ ?_ same
  · rw [List.map_id, List.map_id] at alike
    exact ⟨alike.1.symm, alike.2.symm⟩
  · intro op there s t before seen
    obtain ⟨answer, after⟩ := op.reply_alike (AnswersAlike.refl sys) linux rounds s t before
    exact ⟨congrArg (Sigma.mk op) answer, after⟩
  · intro op there s t before unseen
    have looked : Operation.Looked ⟨op, (op.reply sys p linux rounds s).1⟩ = true := by
      simpa using unseen
    exact (h.reply_still linux rounds s looked).trans before

end

def pendingFirst {α : Type} (f : Pipe → Except ℤ α × Pipe) (w : Option ℤ × Pipe) :
    Except ℤ α × (Option ℤ × Pipe) :=
  match w with
  | (some code, pipe) => (.error code, none, pipe)
  | (none, pipe) => ((f pipe).1, none, (f pipe).2)

def Pipe.failing : Sys (Option ℤ × Pipe) :=
  { Sys.refusing Posix.ewouldblock with
    send := fun fd data => pendingFirst (Pipe.sys.send fd data)
    recv := fun fd size peek => pendingFirst (Pipe.sys.recv fd size peek) }

theorem Pipe.looksLeave : LooksLeave Pipe.failing where
  recv {fd size w bytes w'} answered := by
    obtain ⟨_ | code, pipe⟩ := w
    · obtain ⟨given, rfl⟩ := Prod.mk.inj answered
      have same : (Pipe.recv size true pipe).2 = pipe := by
        unfold Pipe.recv
        split_ifs with waits peeking
        · rfl
        · rfl
        · exact absurd rfl peeking
      exact congrArg (none, ·) same
    · cases answered
  recvfrom answered := by cases answered
  getsockname answered := by cases answered
  getpeername answered := by cases answered

/-- The connection had been reset, which the first look tells. What the second one shows
is received afterwards. -/
theorem answered_looks_make_no_difference :
    (Operation.session Pipe.failing .posix true 1
        [.receive true ⟨3⟩ 4, .send ⟨3⟩ [1], .receive false ⟨3⟩ 1, .receive false ⟨3⟩ 4]
        ⟨(some Posix.econnreset, Pipe.answered.world), 0, []⟩).1 =
      [⟨.receive true ⟨3⟩ 4, .error (.ofCode .connectionReset)⟩, ⟨.send ⟨3⟩ [1], .ok 1⟩,
        ⟨.receive false ⟨3⟩ 1, .ok [7]⟩, ⟨.receive false ⟨3⟩ 4, .ok [8, 9]⟩] :=
  (looks_make_no_difference Pipe.looksLeave .posix true 1
    [.receive true ⟨3⟩ 4, .receive true ⟨3⟩ 4, .send ⟨3⟩ [1], .receive false ⟨3⟩ 1,
      .receive true ⟨3⟩ 4, .receive false ⟨3⟩ 4]
    ⟨(some Posix.econnreset, Pipe.answered.world), 0, []⟩
    ⟨(some Posix.econnreset, Pipe.answered.world), 0, []⟩ rfl _ rfl).1

end Qsox
