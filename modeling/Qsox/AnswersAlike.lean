import Qsox.Alike
import Qsox.OperationCalls

/-! Systems that answer alike cannot be told apart: whatever the library does with their
answers, it does the same. What an earlier call has left in `errno` does not matter. -/

namespace Qsox

open BaseSocket

/-- In related worlds a call on the descriptor has the same answer, and leaves related
worlds. The calls on a socket after it is made are all here but `accept` and `close`. -/
structure CallsAlike {σ τ : Type} (sys : Sys σ) (sys' : Sys τ) (fd : SockFd) (R : σ → τ → Prop) :
    Prop where
  abi : sys.abi = sys'.abi
  ioctl : ∀ nonBlocking, Alike R (sys.ioctl fd nonBlocking) (sys'.ioctl fd nonBlocking) fun _ => R
  setsockopt : ∀ opt, Alike R (sys.setsockopt fd opt) (sys'.setsockopt fd opt) fun _ => R
  connect : ∀ m len, Alike R (sys.connect fd m len) (sys'.connect fd m len) fun _ => R
  getsockname : Alike R (sys.getsockname fd) (sys'.getsockname fd) fun _ => R
  getpeername : Alike R (sys.getpeername fd) (sys'.getpeername fd) fun _ => R
  send : ∀ data, Alike R (sys.send fd data) (sys'.send fd data) fun _ => R
  sendto : ∀ data m len, Alike R (sys.sendto fd data m len) (sys'.sendto fd data m len) fun _ => R
  recv : ∀ size peek, Alike R (sys.recv fd size peek) (sys'.recv fd size peek) fun _ => R
  recvfrom : ∀ size peek,
    Alike R (sys.recvfrom fd size peek) (sys'.recvfrom fd size peek) fun _ => R
  soError : Alike R (sys.soError fd) (sys'.soError fd) fun _ => R
  shutdown : ∀ how, Alike R (sys.shutdown fd how) (sys'.shutdown fd how) fun _ => R
  poll : ∀ events timeout,
    Alike R (sys.poll fd events timeout) (sys'.poll fd events timeout) fun _ => R
  select : ∀ sets timeout,
    Alike R (sys.select fd sets timeout) (sys'.select fd sets timeout) fun _ => R

structure AnswersAlike {σ τ : Type} (sys : Sys σ) (sys' : Sys τ) (R : σ → τ → Prop) : Prop where
  startup : sys.startup = sys'.startup
  socket : ∀ family type, Alike R (sys.socket family type) (sys'.socket family type) fun _ => R
  bind : ∀ fd m len, Alike R (sys.bind fd m len) (sys'.bind fd m len) fun _ => R
  listen : ∀ fd backlog, Alike R (sys.listen fd backlog) (sys'.listen fd backlog) fun _ => R
  accept : ∀ fd, Alike R (sys.accept fd) (sys'.accept fd) fun _ => R
  close : ∀ fd, Alike R (sys.close fd) (sys'.close fd) fun _ => R
  now : Alike R sys.now sys'.now fun _ => R
  errnoLeft : ∀ w w', R w w' → sys.errnoLeft w = sys'.errnoLeft w'
  calls : ∀ fd, CallsAlike sys sys' fd R

section
variable {σ τ α : Type} {R : σ → τ → Prop}

def Worlds (R : σ → τ → Prop) (os : Os σ) (os' : Os τ) : Prop := R os.world os'.world

def Synced (R : σ → τ → Prop) (os : Os σ) (os' : Os τ) : Prop :=
  R os.world os'.world ∧ os.errno = os'.errno

/-- After a call: where it has failed, `errno` is what the answer was. -/
def Heard (R : σ → τ → Prop) : Option α → Os σ → Os τ → Prop
  | none => Synced R
  | some _ => Worlds R

abbrev Agree (R : σ → τ → Prop) (program : StateM (Os σ) α) (other : StateM (Os τ) α) : Prop :=
  Alike (Worlds R) program other fun _ => Worlds R

theorem Synced.worlds {os : Os σ} {os' : Os τ} (h : Synced R os os') : Worlds R os os' := h.1

namespace Alike

theorem done (a : α) : Alike (Synced R) (Pure.pure a) (Pure.pure a) fun _ => Worlds R :=
  pure a fun _ _ h => h.worlds

theorem lastOsError (p : Platform) :
    Alike (Synced R) (Os.lastOsError p : StateM (Os σ) Error) (Os.lastOsError p)
      fun _ => Synced R :=
  fun _ _ h => ⟨congrArg p.lastOsError h.2, h⟩

theorem getErrno :
    Alike (Synced R) (Os.getErrno : StateM (Os σ) ℤ) Os.getErrno fun _ => Synced R :=
  fun _ _ h => ⟨h.2, h⟩

theorem synced {program : StateM (Os σ) α} {other : StateM (Os τ) α}
    {R' : α → Os σ → Os τ → Prop} (h : Alike (Worlds R) program other R') :
    Alike (Synced R) program other R' :=
  h.strengthen fun _ _ before => before.worlds

theorem call {k : Kernel σ} {k' : Kernel τ} {f : σ → Except ℤ α × σ} {f' : τ → Except ℤ α × τ}
    (same : Alike R f f' fun _ => R) :
    Alike (Worlds R) (Os.call k f) (Os.call k' f') (Heard R) := by
  intro os os' before
  obtain ⟨answer, related⟩ := same os.world os'.world before
  rw [Os.call, Os.call, answer]
  cases (f' os'.world).1 with
  | ok a => exact ⟨rfl, related⟩
  | error code => exact ⟨rfl, related, rfl⟩

theorem mapResult {sys : Sys σ} {sys' : Sys τ} {p : Platform} {f : σ → Except ℤ α × σ}
    {f' : τ → Except ℤ α × τ} (same : Alike R f f' fun _ => R) :
    Agree R (mapResult sys p f) (mapResult sys' p f') := by
  refine Alike.bind (Alike.call same) fun returned => ?_
  cases returned with
  | none => exact Alike.bind (Alike.lastOsError p) fun e => Alike.done _
  | some a => exact Alike.same _

end Alike
end

theorem Alike.answering {σ τ α β : Type} {R : σ → τ → Prop} {f : σ → Except ℤ α × σ}
    {f' : τ → Except ℤ α × τ} (g : α → β) (same : Alike R f f' fun _ => R) :
    Alike R (Sys.answering g f) (Sys.answering g f') fun _ => R := by
  intro w w' before
  obtain ⟨answer, related⟩ := same w w' before
  exact ⟨congrArg (Except.map g) answer, related⟩

namespace CallsAlike

variable {σ τ : Type} {sys : Sys σ} {sys' : Sys τ} {fd : SockFd} {R : σ → τ → Prop}
  (h : CallsAlike sys sys' fd R) {p : Platform}
include h

theorem called (p : Platform) : CallsAlike (sys.called p) (sys'.called p) fd R := by
  cases p with
  | posix => exact h
  | windows =>
    exact { h with
      send := fun _ => Alike.answering _ (h.send _)
      sendto := fun _ _ _ => Alike.answering _ (h.sendto _ _ _)
      recv := fun _ _ => Alike.answering _ (h.recv _ _)
      recvfrom := fun _ _ => Alike.answering _ (h.recvfrom _ _) }

theorem setNonBlocking (nonBlocking : Bool) :
    Agree R (setNonBlocking sys.kernel p fd nonBlocking)
      (setNonBlocking sys'.kernel p fd nonBlocking) := by
  refine Alike.bind (Alike.call (h.ioctl nonBlocking)) fun returned => ?_
  cases returned with
  | none => exact Alike.bind (Alike.lastOsError p) fun e => Alike.done _
  | some a => exact Alike.same _

theorem getSocketError :
    Agree R (getSocketError sys.kernel p fd) (getSocketError sys'.kernel p fd) := by
  refine Alike.bind (Alike.call h.soError) fun returned => ?_
  cases returned with
  | none => exact (Alike.lastOsError p).weaken fun _ _ _ after => after.worlds
  | some err => exact Alike.same _

theorem readAddress {f : σ → Except ℤ Resolver.SockAddr × σ}
    {f' : τ → Except ℤ Resolver.SockAddr × τ} (same : Alike R f f' fun _ => R) :
    Agree R (readAddress sys p f) (readAddress sys' p f') := by
  refine Alike.bind (Alike.mapResult same) fun returned => ?_
  cases returned with
  | error e => exact Alike.same _
  | ok storage =>
    simp only [h.abi]
    exact Alike.same _

theorem setTimeout (kind : TimeoutKind) (timeoutMs : UInt32) :
    Agree R (setTimeout sys p fd kind timeoutMs) (setTimeout sys' p fd kind timeoutMs) :=
  Alike.ite (Alike.same _) (Alike.mapResult (h.setsockopt _))

theorem udpConnect (ipv6 linux : Bool) (address : SocketAddress) :
    Agree R (UdpSocket.connect sys p linux ⟨fd, ipv6⟩ address)
      (UdpSocket.connect sys' p linux ⟨fd, ipv6⟩ address) := by
  simp only [UdpSocket.connect, ← h.abi]
  exact Alike.mapResult (h.connect _ _)

theorem sendTo (ipv6 linux : Bool) (data : List UInt8) (destination : SocketAddress) :
    Agree R (UdpSocket.sendTo sys p linux ⟨fd, ipv6⟩ data destination)
      (UdpSocket.sendTo sys' p linux ⟨fd, ipv6⟩ data destination) := by
  simp only [UdpSocket.sendTo, ← h.abi]
  exact Alike.mapResult ((h.called p).sendto _ _ _)

theorem recvFromWith (ipv6 peek : Bool) (size : ℕ) (sender : SocketAddress) :
    Agree R (UdpSocket.recvFromWith sys p peek ⟨fd, ipv6⟩ size sender)
      (UdpSocket.recvFromWith sys' p peek ⟨fd, ipv6⟩ size sender) := by
  refine Alike.bind (Alike.mapResult ((h.called p).recvfrom size peek)) fun returned => ?_
  cases returned with
  | error e => exact Alike.same _
  | ok received =>
    simp only [h.abi]
    exact Alike.same _

theorem recvFromFamily {Address : Type} (ipv6 peek : Bool) (initial : SocketAddress)
    (narrow : SocketAddress → Option Address) (size : ℕ) (sender : Address) :
    Agree R (UdpSocket.recvFromFamily sys p peek initial narrow ⟨fd, ipv6⟩ size sender)
      (UdpSocket.recvFromFamily sys' p peek initial narrow ⟨fd, ipv6⟩ size sender) := by
  refine Alike.bind (h.recvFromWith ipv6 peek size initial) fun returned => ?_
  cases returned with
  | none => exact Alike.same _
  | some out =>
    simp only []
    cases narrow out.2 with
    | none => exact Alike.same _
    | some address => exact Alike.same _

theorem sendSome (data : List UInt8) :
    Agree R (TcpStream.send sys p ⟨fd⟩ data) (TcpStream.send sys' p ⟨fd⟩ data) := by
  refine Alike.bind (Alike.mapResult ((h.called p).send data)) fun returned => ?_
  cases returned with
  | error e => exact Alike.same _
  | ok sent => exact Alike.ite (Alike.same _) (Alike.same _)

theorem sendAll (data : List UInt8) (rounds : ℕ) :
    Agree R (TcpStream.sendAll sys p ⟨fd⟩ data rounds)
      (TcpStream.sendAll sys' p ⟨fd⟩ data rounds) := by
  refine Alike.passes (fun rest => ?_) data rounds
  refine Alike.ite (Alike.same _) (Alike.bind (h.sendSome rest) fun returned => ?_)
  cases returned <;> exact Alike.ite (Alike.same _) (Alike.same _)

theorem receiveWith (peek : Bool) (size : ℕ) :
    Agree R (TcpStream.receiveWith sys p peek ⟨fd⟩ size)
      (TcpStream.receiveWith sys' p peek ⟨fd⟩ size) := by
  refine Alike.bind (Alike.mapResult ((h.called p).recv size peek)) fun returned => ?_
  cases returned with
  | error e => exact Alike.same _
  | ok bytes => exact Alike.ite (Alike.same _) (Alike.same _)

theorem receiveExact (remaining : ℕ) (filled : List UInt8) (rounds : ℕ) :
    Agree R (TcpStream.receiveExact sys p ⟨fd⟩ remaining filled rounds)
      (TcpStream.receiveExact sys' p ⟨fd⟩ remaining filled rounds) := by
  refine Alike.passes (fun cursor => ?_) (remaining, filled) rounds
  refine Alike.ite (Alike.same _) (Alike.bind (h.receiveWith false cursor.1) fun returned => ?_)
  cases returned <;> exact Alike.ite (Alike.same _) (Alike.same _)

theorem listenerAccept (accepts : Alike R (sys.accept fd) (sys'.accept fd) fun _ => R) :
    Agree R (TcpListener.accept sys p ⟨fd⟩) (TcpListener.accept sys' p ⟨fd⟩) := by
  refine Alike.bind (Alike.mapResult accepts) fun returned => ?_
  cases returned with
  | error e => exact Alike.same _
  | ok accepted =>
    simp only [h.abi]
    exact Alike.same _

theorem classify (revents : PollRevents) :
    Agree R (Poll.Posix.classify sys fd revents) (Poll.Posix.classify sys' fd revents) := by
  refine Alike.ite (Alike.same _) ?_
  refine Alike.ite (Alike.same _) ?_
  refine Alike.ite ?_ (Alike.same _)
  exact Alike.bind h.getSocketError fun _ => Alike.same _

theorem pollRound (poll : PollType) (timeoutMs : Int32) :
    Agree R (Poll.Posix.pollRound sys fd poll timeoutMs)
      (Poll.Posix.pollRound sys' fd poll timeoutMs) := by
  refine Alike.bind (Alike.call fun w w' related => ?_) fun returned => ?_
  · obtain ⟨answer, after⟩ := h.poll ⟨poll.hasRead, poll.hasWrite⟩ timeoutMs w w' related
    exact ⟨congrArg Prod.fst answer, after⟩
  · rcases returned with _ | _ | revents
    · refine Alike.bind (Alike.lastOsError .posix) fun error => ?_
      exact Alike.ite (Alike.done _) (Alike.done _)
    · exact Alike.same _
    · refine Alike.ite ?_ ?_
      · exact Alike.bind h.getSocketError fun _ => Alike.same _
      · exact Alike.bind (h.classify revents) fun _ => Alike.same _

theorem pollOne (handle : p = .windows → CallsAlike sys sys' (Poll.Windows.intHandle fd) R)
    (poll : PollType) (timeoutMs : Int32) (rounds : ℕ) :
    Agree R (Poll.pollOne sys p fd poll timeoutMs rounds)
      (Poll.pollOne sys' p fd poll timeoutMs rounds) := by
  cases p with
  | posix => exact Alike.whileTrue (h.pollRound poll timeoutMs) rounds
  | windows =>
    refine Alike.map some (Alike.bind (Alike.call ((handle rfl).select _ _)) fun returned => ?_)
    rcases returned with _ | _ | sets
    · exact Alike.bind (Alike.lastOsError .windows) fun _ => Alike.done _
    · exact Alike.same _
    · refine Alike.ite (Alike.same _) (Alike.ite (Alike.same _) (Alike.ite ?_ (Alike.same _)))
      exact Alike.bind h.getSocketError fun _ => Alike.same _

end CallsAlike

theorem AnswersAlike.refl {σ : Type} (sys : Sys σ) : AnswersAlike sys sys Eq where
  startup := rfl
  socket _ _ := Alike.refl _
  bind _ _ _ := Alike.refl _
  listen _ _ := Alike.refl _
  accept _ := Alike.refl _
  close _ := Alike.refl _
  now := Alike.refl _
  errnoLeft _ _ same := congrArg sys.errnoLeft same
  calls _ :=
    { abi := rfl
      ioctl := fun _ => Alike.refl _
      setsockopt := fun _ => Alike.refl _
      connect := fun _ _ => Alike.refl _
      getsockname := Alike.refl _
      getpeername := Alike.refl _
      send := fun _ => Alike.refl _
      sendto := fun _ _ _ => Alike.refl _
      recv := fun _ _ => Alike.refl _
      recvfrom := fun _ _ => Alike.refl _
      soError := Alike.refl _
      shutdown := fun _ => Alike.refl _
      poll := fun _ _ => Alike.refl _
      select := fun _ _ => Alike.refl _ }

namespace AnswersAlike

variable {σ τ α : Type} {sys : Sys σ} {sys' : Sys τ} {R : σ → τ → Prop}
  (h : AnswersAlike sys sys' R) {p : Platform}
include h

theorem after {returned : Except ℤ α} {os : Os σ} {os' : Os τ} {w : σ} {w' : τ} (related : R w w') :
    (Os.after sys.kernel os returned w).1 = (Os.after sys'.kernel os' returned w').1 ∧
      Synced R (Os.after sys.kernel os returned w).2 (Os.after sys'.kernel os' returned w').2 := by
  cases returned with
  | ok a => exact ⟨rfl, related, h.errnoLeft w w' related⟩
  | error code => exact ⟨rfl, related, rfl⟩

theorem call {f : σ → Except ℤ α × σ} {f' : τ → Except ℤ α × τ} (same : Alike R f f' fun _ => R) :
    Alike (Worlds R) (Os.call sys.kernel f) (Os.call sys'.kernel f') fun _ => Synced R := by
  intro os os' before
  obtain ⟨answer, related⟩ := same os.world os'.world before
  rw [Os.call, Os.call, answer]
  exact h.after related

theorem setNonBlocking (fd : SockFd) (nonBlocking : Bool) :
    Alike (Worlds R) (setNonBlocking sys.kernel p fd nonBlocking)
      (setNonBlocking sys'.kernel p fd nonBlocking) fun _ => Synced R := by
  refine Alike.bind (h.call ((h.calls fd).ioctl nonBlocking)) fun returned => ?_
  cases returned with
  | none => exact Alike.bind (Alike.lastOsError p) fun e => Alike.same _
  | some a => exact Alike.same _

theorem closeSocket (fd : SockFd) :
    Alike (Worlds R) (closeSocket sys fd) (closeSocket sys' fd) fun _ => Synced R :=
  Alike.bind (h.call (h.close fd)) fun _ => Alike.same _

theorem closeAndFail (fd : SockFd) : Agree R (closeAndFail sys p fd) (closeAndFail sys' p fd) :=
  Alike.bind (h.closeSocket fd) fun _ => Alike.bind (Alike.lastOsError p) fun _ => Alike.done _

theorem newSocket (family : Family) (type : SockType) :
    Agree R (newSocket sys.kernel p family type) (newSocket sys'.kernel p family type) := by
  have same : sys.kernel.startup = sys'.kernel.startup := h.startup
  have started : startupSockets sys.kernel p = startupSockets sys'.kernel p := by
    cases p with
    | posix => rfl
    | windows => rw [startupSockets, startupSockets, same]
  rw [BaseSocket.newSocket, BaseSocket.newSocket, started]
  cases startupSockets sys'.kernel p with
  | error e => exact Alike.same _
  | ok a =>
    refine Alike.bind (h.call (h.socket family type)) fun returned => ?_
    cases returned with
    | none => exact Alike.bind (Alike.lastOsError p) fun e => Alike.done _
    | some sock => exact Alike.done _

omit h in
theorem unwrap {β : Type} {step : StateM (Os σ) (Except Error α)}
    {step' : StateM (Os τ) (Except Error α)} {next : α → StateM (Os σ) (Except Error β)}
    {next' : α → StateM (Os τ) (Except Error β)}
    (first : Agree R step step') (rest : ∀ a, Agree R (next a) (next' a)) :
    Agree R (unwrap step next) (unwrap step' next') := by
  refine Alike.bind first fun returned => ?_
  cases returned with
  | error e => exact Alike.same _
  | ok a => exact rest a

theorem bindNewSocket (address : SocketAddress) (sock : SockFd) :
    Agree R (bindNewSocket sys p address sock) (bindNewSocket sys' p address sock) := by
  simp only [Qsox.bindNewSocket, ← (h.calls sock).abi]
  refine Alike.bind (h.call (h.bind sock _ _)) fun returned => ?_
  cases returned with
  | none => exact Alike.synced (h.closeAndFail sock)
  | some a => exact Alike.done _

theorem newBoundSocket (address : SocketAddress) (type : SockType) :
    Agree R (newBoundSocket sys p address type) (newBoundSocket sys' p address type) := by
  refine unwrap (h.newSocket address.family type) fun sock =>
    Alike.ite ?_ (h.bindNewSocket address sock)
  refine Alike.bind (h.call ((h.calls sock).setsockopt _)) fun returned => ?_
  cases returned with
  | none => exact Alike.synced (h.closeAndFail sock)
  | some a => exact Alike.synced (h.bindNewSocket address sock)

theorem udpBind (address : SocketAddress) :
    Agree R (UdpSocket.bind sys p address) (UdpSocket.bind sys' p address) :=
  Alike.bind (h.newBoundSocket address .dgram) fun _ => Alike.same _

theorem listenerBind (address : SocketAddress) :
    Agree R (TcpListener.bind sys p address) (TcpListener.bind sys' p address) := by
  refine unwrap (h.newBoundSocket address .stream) fun sock => ?_
  refine Alike.bind (h.call (h.listen sock 1024)) fun returned => ?_
  cases returned with
  | none =>
    refine Alike.synced (Alike.bind (h.closeAndFail sock) fun res => ?_)
    exact Alike.same _
  | some a => exact Alike.done _

theorem listenerAccept (listener : TcpListener) :
    Agree R (listener.accept sys p) (listener.accept sys' p) :=
  (h.calls listener.fd).listenerAccept (h.accept listener.fd)

theorem kernelConnect (fd : SockFd) (address : SocketAddress) :
    Alike (Worlds R) (Os.connect sys.kernel fd address) (Os.connect sys'.kernel fd address)
      fun _ => Synced R := by
  intro os os' before
  have same : Alike R (sys.kernel.connect fd address) (sys'.kernel.connect fd address)
      fun _ => R := by
    simp only [Sys.kernel, ← (h.calls fd).abi]
    exact (h.calls fd).connect _ _
  obtain ⟨answer, related⟩ := same os.world os'.world before
  simp only [Os.connect, answer]
  exact h.after related

theorem kernelPoll (fd : SockFd) (events : PollEvents) (timeout : Int32) :
    Alike (Worlds R) (Os.poll sys.kernel fd events timeout)
      (Os.poll sys'.kernel fd events timeout) fun _ => Synced R := by
  intro os os' before
  obtain ⟨answer, related⟩ := (h.calls fd).poll events timeout os.world os'.world before
  simp only [Os.poll, Sys.kernel, answer]
  exact h.after related

theorem kernelSelect (fd : SockFd) (timeout : Timeval) :
    Alike (Worlds R) (Os.select sys.kernel fd timeout) (Os.select sys'.kernel fd timeout)
      fun _ => Synced R := by
  refine h.call fun w w' before => ?_
  obtain ⟨answer, related⟩ := (h.calls fd).select ⟨⟨true, true⟩, false⟩ timeout w w' before
  exact ⟨congrArg (Except.map (Option.map SelectSets.toFdSets)) answer, related⟩

theorem kernelNow : Agree R (Os.now sys.kernel) (Os.now sys'.kernel) :=
  fun os os' before => h.now os.world os'.world before

theorem connectRound (fd : SockFd) (address : SocketAddress) (nonBlocking : Bool) :
    Agree R (TcpConnect.Posix.connectRound sys.kernel fd address nonBlocking)
      (TcpConnect.Posix.connectRound sys'.kernel fd address nonBlocking) := by
  refine Alike.bind (h.kernelConnect fd address) fun returned => ?_
  cases returned with
  | some a => exact Alike.done _
  | none =>
    refine Alike.bind Alike.getErrno fun errno => ?_
    refine Alike.ite (Alike.done _) (Alike.ite (Alike.done _) (Alike.ite (Alike.done _) ?_))
    exact Alike.bind (Alike.lastOsError .posix) fun _ => Alike.done _

theorem doConnect_posix (fd : SockFd) (address : SocketAddress) (nonBlocking : Bool) (rounds : ℕ) :
    Agree R (TcpConnect.Posix.doConnect sys.kernel fd address nonBlocking rounds)
      (TcpConnect.Posix.doConnect sys'.kernel fd address nonBlocking rounds) := by
  have loop : Agree R _ _ := Alike.whileTrue (h.connectRound fd address nonBlocking) rounds
  refine Alike.ite (Alike.bind (h.setNonBlocking fd true) fun result => ?_) loop
  cases result with
  | error e => exact Alike.done _
  | ok a => exact Alike.synced loop

theorem pollRound (fd : SockFd) (timeoutMs : Int32) (start : ℤ) :
    Agree R (TcpConnect.Posix.pollRound sys.kernel fd timeoutMs start)
      (TcpConnect.Posix.pollRound sys'.kernel fd timeoutMs start) := by
  refine Alike.bind h.kernelNow fun reading => ?_
  refine Alike.ite (Alike.same _) ?_
  refine Alike.bind (h.kernelPoll fd _ _) fun returned => ?_
  rcases returned with _ | _ | revents
  · refine Alike.bind Alike.getErrno fun errno => Alike.ite ?_ (Alike.done _)
    exact Alike.bind (Alike.lastOsError .posix) fun _ => Alike.done _
  · exact Alike.done _
  · refine Alike.ite ?_ (Alike.done _)
    exact Alike.synced (Alike.bind (h.calls fd).getSocketError fun _ => Alike.same _)

theorem doConnectTimeout_posix (fd : SockFd) (address : SocketAddress) (timeoutMs : Int32)
    (rounds : ℕ) :
    Agree R (TcpConnect.Posix.doConnectTimeout sys.kernel fd address timeoutMs rounds)
      (TcpConnect.Posix.doConnectTimeout sys'.kernel fd address timeoutMs rounds) := by
  refine Alike.ite (h.doConnect_posix fd address false rounds) ?_
  refine Alike.bind (h.setNonBlocking fd true) fun result => ?_
  cases result with
  | error e => exact Alike.done _
  | ok a =>
    refine Alike.synced (Alike.bind (h.kernelConnect fd address) fun cres => ?_)
    refine Alike.synced (Alike.bind (h.setNonBlocking fd false) fun result => ?_)
    cases result with
    | error e => exact Alike.done _
    | ok a =>
      cases cres with
      | some a => exact Alike.done _
      | none =>
        refine Alike.bind Alike.getErrno fun errno => Alike.ite ?_ ?_
        · refine Alike.synced (Alike.bind h.kernelNow fun start => ?_)
          exact Alike.whileTrue (h.pollRound fd timeoutMs start) rounds
        · exact Alike.bind (Alike.lastOsError .posix) fun _ => Alike.done _

theorem doConnect_windows (fd : SockFd) (address : SocketAddress) (nonBlocking : Bool) :
    Agree R (TcpConnect.Windows.doConnect sys.kernel fd address nonBlocking)
      (TcpConnect.Windows.doConnect sys'.kernel fd address nonBlocking) := by
  have once : Agree R (TcpConnect.Windows.connectOnce sys.kernel fd address nonBlocking)
      (TcpConnect.Windows.connectOnce sys'.kernel fd address nonBlocking) := by
    refine Alike.bind (h.kernelConnect fd address) fun returned => ?_
    cases returned with
    | some a => exact Alike.done _
    | none =>
      refine Alike.bind (Alike.lastOsError .windows) fun err => ?_
      exact Alike.ite (Alike.done _) (Alike.done _)
  refine Alike.ite (Alike.bind (h.setNonBlocking fd true) fun result => ?_) once
  cases result with
  | error e => exact Alike.done _
  | ok a => exact Alike.synced once

theorem selectWritable (fd : SockFd) (timeoutMs : Int32) :
    Agree R (TcpConnect.Windows.selectWritable sys.kernel fd timeoutMs)
      (TcpConnect.Windows.selectWritable sys'.kernel fd timeoutMs) := by
  refine Alike.bind (h.kernelSelect fd _) fun returned => ?_
  rcases returned with _ | _ | sets
  · exact Alike.bind (Alike.lastOsError .windows) fun _ => Alike.done _
  · exact Alike.done _
  · refine Alike.ite (Alike.done _) (Alike.synced
      (Alike.bind (h.calls fd).getSocketError fun err => ?_))
    exact Alike.ite (Alike.same _) (Alike.same _)

theorem doConnectTimeout_windows (fd : SockFd) (address : SocketAddress) (timeoutMs : Int32) :
    Agree R (TcpConnect.Windows.doConnectTimeout sys.kernel fd address timeoutMs)
      (TcpConnect.Windows.doConnectTimeout sys'.kernel fd address timeoutMs) := by
  refine Alike.ite (h.doConnect_windows fd address false) ?_
  refine Alike.bind (h.doConnect_windows fd address true) fun result => ?_
  refine Alike.bind (h.setNonBlocking fd false) fun mode => ?_
  cases mode with
  | error e => exact Alike.done _
  | ok a =>
    cases result with
    | ok a => exact Alike.done _
    | error err => exact Alike.ite (Alike.synced (h.selectWritable fd timeoutMs)) (Alike.done _)

theorem establish (fd : SockFd) (address : SocketAddress) (nonBlocking : Bool) (timeoutMs : Int32)
    (rounds : ℕ) :
    Agree R (TcpConnect.establish sys.kernel p fd address nonBlocking timeoutMs rounds)
      (TcpConnect.establish sys'.kernel p fd address nonBlocking timeoutMs rounds) := by
  cases p with
  | posix =>
    exact Alike.ite (h.doConnectTimeout_posix fd address timeoutMs rounds)
      (h.doConnect_posix fd address nonBlocking rounds)
  | windows =>
    exact Alike.ite (Alike.map some (h.doConnectTimeout_windows fd address timeoutMs))
      (Alike.map some (h.doConnect_windows fd address nonBlocking))

theorem connectInternal (address : SocketAddress) (nonBlocking : Bool) (timeoutMs : Int32)
    (rounds : ℕ) :
    Agree R (TcpConnect.connectInternal sys.kernel p address nonBlocking timeoutMs rounds)
      (TcpConnect.connectInternal sys'.kernel p address nonBlocking timeoutMs rounds) := by
  refine Alike.bind (h.newSocket address.family .stream) fun returned => ?_
  cases returned with
  | error e => exact Alike.same _
  | ok fd =>
    refine Alike.bind (h.establish fd address nonBlocking timeoutMs rounds) fun made => ?_
    rcases made with _ | e | a
    · exact Alike.same _
    · exact Alike.bind (h.call (h.close fd)) fun _ => Alike.done _
    · exact Alike.same _

theorem tcpConnect (address : SocketAddress) (timeoutMs : Int32) (rounds : ℕ) :
    Agree R (TcpStream.connect sys p address timeoutMs rounds)
      (TcpStream.connect sys' p address timeoutMs rounds) :=
  Alike.bind (h.connectInternal address false timeoutMs rounds) fun _ =>
    Alike.same _

theorem tcpConnectNonBlocking (address : SocketAddress) (rounds : ℕ) :
    Agree R (TcpStream.connectNonBlocking sys p address rounds)
      (TcpStream.connectNonBlocking sys' p address rounds) :=
  Alike.bind (h.connectInternal address true 0 rounds) fun _ =>
    Alike.same _

end AnswersAlike
end Qsox
