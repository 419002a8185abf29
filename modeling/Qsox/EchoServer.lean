import Qsox.Datagram

/-! The datagram echo server of the README against any system: the calls it makes are told
one by one, each in the world that the call before it has left. -/

namespace Qsox.EchoServer

open Resolver (SockAddr)

/-- Why the server has stopped. Where the address of a sender is `unreachable()`, no
destructor is run. -/
inductive Stop
  | unbound (err : Error)
  | failed (err : Error)
  | unreachable
  deriving DecidableEq, Repr

section
variable {σ : Type} (sys : Sys σ) (p : Platform) (linux : Bool)

/-- One round of the loop, with the sender that the next one begins with. What becomes of
the reply is not looked at. -/
def pass (sock : UdpSocket) (sender : SocketAddress) : StateM (Os σ) (SocketAddress ⊕ Stop) := do
  match ← sock.recvFrom sys p 1024 sender with
  | none => return .inr .unreachable
  | some (.error err, _) => return .inr (.failed err)
  | some (.ok bytes, sender) =>
    let _ ← sock.sendTo sys p linux bytes.1 sender
    return .inl sender

def serve (sock : UdpSocket) (rounds : ℕ) : StateM (Os σ) (Option Stop) :=
  passes (pass sys p linux sock) ⟨.v4 .unspecified, 0⟩ rounds

/-- `unwrap` ends the program where there is no socket. -/
def main (rounds : ℕ) : StateM (Os σ) (Option Stop) := do
  match ← UdpSocket.bindAny sys p true with
  | .error err => return some (.unbound err)
  | .ok sock =>
    match ← serve sys p linux sock rounds with
    | some (.failed err) =>
      BaseSocket.destroy sys sock.fd
      return some (.failed err)
    | ended => return ended

/-- A datagram, where the system says it is from, and where it is sent back to. -/
structure Exchange where
  bytes : List UInt8
  source : SockAddr
  reply : Destination
  deriving DecidableEq, Repr

inductive Served (fd : SockFd) : σ → List Exchange → σ → Prop
  | none {w : σ} : Served fd w [] w
  | round {w w₁ w₂ w₃ : σ} {bytes : { bytes : List UInt8 // bytes.length ≤ 1024 }}
      {source : SockAddr} {reply : Destination} {answer : Except ℤ (Fin (bytes.1.length + 1))}
      {others : List Exchange}
      (received : (sys.called p).recvfrom fd 1024 false w = (.ok (bytes, source), w₁))
      (replied : (sys.called p).sendto fd bytes.1 reply.address reply.length w₁ = (answer, w₂))
      (rest : Served fd w₂ others w₃) : Served fd w (⟨bytes.1, source, reply⟩ :: others) w₃

/-- The loop goes on while it has rounds left; it ends with the first call that gives no
datagram, or none with a sender of either family. -/
def Ends (fd : SockFd) (rounds : ℕ) (exchanges : List Exchange) (w w' : σ) : Option Stop → Prop
  | none => exchanges.length = rounds ∧ w' = w
  | some (.failed err) =>
    ∃ code, (sys.called p).recvfrom fd 1024 false w = (.error code, w') ∧ err = p.lastOsError code
  | some .unreachable =>
    ∃ bytes source, (sys.called p).recvfrom fd 1024 false w = (.ok (bytes, source), w') ∧
      SockAddrAny.toSocketAddress sys.abi source = none
  | some (.unbound _) => False

/-- The destructor closes the socket when `main` returns. -/
def Leaves (fd : SockFd) (w w' : σ) : Option Stop → Prop
  | some (.failed _) => w' = if fd = invalidSockFd then w else (sys.close fd w).2
  | _ => w' = w

/-- The reply goes to the sender as the socket has read it. -/
def Exchange.Returns (sock : UdpSocket) (x : Exchange) : Prop :=
  ∃ sender, SockAddrAny.toSocketAddress sys.abi x.source = some sender ∧
    x.reply = givenFor sys.abi linux sender sock.ipv6

end

section
variable {σ : Type} {sys : Sys σ} {p : Platform} {linux : Bool} {sock : UdpSocket}
  {sender : SocketAddress} {os : Os σ} {w : σ}

theorem pass_failed {code : ℤ}
    (answered : (sys.called p).recvfrom sock.fd 1024 false os.world = (.error code, w)) :
    pass sys p linux sock sender os =
      (.inr (.failed (p.lastOsError code)), ⟨w, code, os.trace⟩) := by
  rw [pass, UdpSocket.recvFrom, bind_of_eq (UdpSocket.recvFromWith_error answered)]
  rfl

section
variable {bytes : { bytes : List UInt8 // bytes.length ≤ 1024 }} {source : SockAddr}

theorem pass_unreachable
    (answered : (sys.called p).recvfrom sock.fd 1024 false os.world = (.ok (bytes, source), w))
    (unread : SockAddrAny.toSocketAddress sys.abi source = none) :
    pass sys p linux sock sender os = (.inr .unreachable, ⟨w, sys.errnoLeft w, os.trace⟩) := by
  rw [pass, UdpSocket.recvFrom, bind_of_eq (UdpSocket.recvFromWith_ok answered), unread]
  rfl

theorem pass_replies {peer : SocketAddress}
    (answered : (sys.called p).recvfrom sock.fd 1024 false os.world = (.ok (bytes, source), w))
    (read : SockAddrAny.toSocketAddress sys.abi source = some peer) :
    ∃ answer os', pass sys p linux sock sender os = (.inl peer, os') ∧
      (sys.called p).sendto sock.fd bytes.1 (givenFor sys.abi linux peer sock.ipv6).address
        (givenFor sys.abi linux peer sock.ipv6).length w = (answer, os'.world) := by
  rw [pass, UdpSocket.recvFrom, bind_of_eq (UdpSocket.recvFromWith_ok answered), read]
  cases sent : (sys.called p).sendto sock.fd bytes.1
      (givenFor sys.abi linux peer sock.ipv6).address
      (givenFor sys.abi linux peer sock.ipv6).length w with
  | mk answer w' =>
    cases answer with
    | error code =>
      refine ⟨_, ⟨w', code, os.trace⟩, ?_, rfl⟩
      exact bind_of_eq (mapResult_error sent)
    | ok n =>
      refine ⟨_, ⟨w', sys.errnoLeft w', os.trace⟩, ?_, rfl⟩
      exact bind_of_eq (mapResult_ok sent)

end

theorem Ends.more {fd : SockFd} {rounds : ℕ} {x : Exchange} {exchanges : List Exchange} {w w' : σ}
    {ended : Option Stop} (ends : Ends sys p fd rounds exchanges w w' ended) :
    Ends sys p fd (rounds + 1) (x :: exchanges) w w' ended := by
  rcases ended with _ | _ | _ | _
  · exact ⟨congrArg Nat.succ ends.1, ends.2⟩
  · exact ends
  · exact ends
  · exact ends

/-- The induction is on the rounds; each that goes on makes one exchange. -/
theorem serve_spec (sender : SocketAddress) (rounds : ℕ) (os : Os σ) :
    ∃ exchanges w, Served sys p sock.fd os.world exchanges w ∧
      Ends sys p sock.fd rounds exchanges w (passes (pass sys p linux sock) sender rounds os).2.world
        (passes (pass sys p linux sock) sender rounds os).1 ∧
      ∀ x ∈ exchanges, x.Returns sys linux sock := by
  induction rounds generalizing sender os with
  | zero => exact ⟨[], os.world, .none, ⟨rfl, rfl⟩, nofun⟩
  | succ rounds ih =>
    cases answered : (sys.called p).recvfrom sock.fd 1024 false os.world with
    | mk returned w =>
      cases returned with
      | error code =>
        rw [passes_of_inr (pass_failed answered)]
        exact ⟨[], os.world, .none, ⟨code, answered, rfl⟩, nofun⟩
      | ok received =>
        obtain ⟨bytes, source⟩ := received
        cases read : SockAddrAny.toSocketAddress sys.abi source with
        | none =>
          rw [passes_of_inr (pass_unreachable answered read)]
          exact ⟨[], os.world, .none, ⟨bytes, source, answered, read⟩, nofun⟩
        | some peer =>
          obtain ⟨answer, os', once, replied⟩ := pass_replies answered read
          obtain ⟨exchanges, w', served, ends, returns⟩ := ih peer os'
          rw [passes_of_inl once]
          refine ⟨⟨bytes.1, source, givenFor sys.abi linux peer sock.ipv6⟩ :: exchanges, w',
            .round answered replied served, ?_, ?_⟩
          · exact ends.more
          · exact List.forall_mem_cons.mpr ⟨⟨peer, read, rfl⟩, returns⟩

theorem destroy_leaves (fd : SockFd) (err : Error) (os : Os σ) :
    Leaves sys fd os.world (BaseSocket.destroy sys fd os).2.world (some (.failed err)) := by
  rw [Leaves, BaseSocket.destroy]
  by_cases gone : fd = invalidSockFd
  · rw [if_neg (not_not.mpr gone), if_pos gone]
    rfl
  · rw [if_pos gone, if_neg gone]
    change (Os.call sys.kernel (sys.close fd) os).2.world = _
    unfold Os.call
    cases (sys.close fd os.world).1 <;> rfl

theorem bindAny_inet6 (made : (UdpSocket.bindAny sys p true os).1 = .ok sock) :
    sock.family = .inet6 := by
  have value : (UdpSocket.bindAny sys p true os).1 =
      (newBoundSocket sys p ⟨.v6 .unspecified, 0⟩ .dgram os).1.map fun fd => ⟨fd, true⟩ := rfl
  rw [value] at made
  cases returned : (newBoundSocket sys p ⟨.v6 .unspecified, 0⟩ .dgram os).1 with
  | error err =>
    rw [returned] at made
    cases made
  | ok fd =>
    rw [returned] at made
    obtain rfl := Except.ok.inj made
    rfl

theorem main_of_bound {rounds : ℕ} {bound os' : Os σ} {ended : Option Stop}
    (made : UdpSocket.bindAny sys p true os = (.ok sock, bound))
    (served : serve sys p linux sock rounds bound = (ended, os')) :
    (main sys p linux rounds os).1 = ended ∧
      Leaves sys sock.fd os'.world (main sys p linux rounds os).2.world ended := by
  rw [main, bind_of_eq made]
  simp only
  rw [bind_of_eq served]
  rcases ended with _ | _ | err | _
  · exact ⟨rfl, rfl⟩
  · exact ⟨rfl, rfl⟩
  · exact ⟨rfl, destroy_leaves sock.fd err os'⟩
  · exact ⟨rfl, rfl⟩

end

/-- The server and any system: the calls on its socket are pairs, of one that receives a
datagram and of one that sends it back, and the last one receives none. The reply goes to
where the datagram came from exactly if there was no scope to be lost and no address to be
mapped. -/
theorem datagrams_echoed {σ : Type} (sys : Sys σ) (p : Platform) (linux : Bool) (rounds : ℕ)
    (os : Os σ) :
    (∃ err bound, UdpSocket.bindAny sys p true os = (.error err, bound) ∧
        main sys p linux rounds os = (some (.unbound err), bound)) ∨
      ∃ sock bound exchanges w w', UdpSocket.bindAny sys p true os = (.ok sock, bound) ∧
        Served sys p sock.fd bound.world exchanges w ∧
        Ends sys p sock.fd rounds exchanges w w' (main sys p linux rounds os).1 ∧
        Leaves sys sock.fd w' (main sys p linux rounds os).2.world (main sys p linux rounds os).1 ∧
        ∀ x ∈ exchanges, SameEndpoint sys.abi x.reply.address x.source ↔
          Answerable sys.abi linux .inet6 x.source := by
  cases made : UdpSocket.bindAny sys p true os with
  | mk returned bound =>
    cases returned with
    | error err =>
      refine .inl ⟨err, bound, rfl, ?_⟩
      rw [main, bind_of_eq made]
      rfl
    | ok sock =>
      obtain ⟨exchanges, w, served, ends, returns⟩ :
          ∃ exchanges w, Served sys p sock.fd bound.world exchanges w ∧
            Ends sys p sock.fd rounds exchanges w (serve sys p linux sock rounds bound).2.world
              (serve sys p linux sock rounds bound).1 ∧
            ∀ x ∈ exchanges, x.Returns sys linux sock :=
        serve_spec ⟨.v4 .unspecified, 0⟩ rounds bound
      have whole : serve sys p linux sock rounds bound = _ := rfl
      obtain ⟨ended, leaves⟩ := main_of_bound made whole
      rw [ended]
      refine .inr ⟨sock, bound, exchanges, w, _, rfl, served, ends, leaves, ?_⟩
      rintro x there
      obtain ⟨sender, read, reply⟩ := returns x there
      rw [reply, sameEndpoint_iff read, bindAny_inet6 (congrArg Prod.fst made)]

end Qsox.EchoServer
