import Qsox.Ownership

/-! Datagram sockets and the addresses they hand over. The flag of a socket is the
family its descriptor was opened with, over whole runs of a process; so every
destination is encoded for the socket that it is sent through. -/

namespace Qsox

open Ledger (Accounts InOrder standing)
open Resolver (SockAddr)

/-- The family that `socket` was given when it last returned the descriptor. -/
def familyOf (log : FamilyLog) (fd : SockFd) : Option Family :=
  log.foldl (fun family entry => if entry.1 = .opened fd then entry.2 else family) none

theorem familyOf_append (log : FamilyLog) (entry : Ledger.Event SockFd × Option Family)
    (fd : SockFd) :
    familyOf (log ++ [entry]) fd = if entry.1 = .opened fd then entry.2 else familyOf log fd := by
  simp only [familyOf, List.foldl_append, List.foldl_cons, List.foldl_nil]

def UdpSocket.family (sock : UdpSocket) : Family := if sock.ipv6 then .inet6 else .inet

/-- The flag of a live datagram socket is the family of its descriptor. -/
def Object.Flagged (log : FamilyLog) (o : Object) : Prop :=
  ∀ sock, o = .udp sock → o.fd ≠ invalidSockFd → familyOf log o.fd = some sock.family

def Flags (log : FamilyLog) (objects : ℕ → Option Object) : Prop :=
  ∀ id o, objects id = some o → o.Flagged log

namespace Object

variable {log : FamilyLog} {o : Object}

theorem flagged_of_invalid (invalid : o.fd = invalidSockFd) : o.Flagged log :=
  fun _ _ valid => absurd invalid valid

theorem flagged_of_stream (sock : TcpStream) : (stream sock).Flagged log := nofun

theorem Flagged.append (h : o.Flagged log) {entry : Ledger.Event SockFd × Option Family}
    (other : o.fd ≠ invalidSockFd → entry.1 ≠ .opened o.fd) : o.Flagged (log ++ [entry]) := by
  intro sock is valid
  rw [familyOf_append, if_neg (other valid)]
  exact h sock is valid

theorem Flagged.withFd_self (h : o.Flagged log) : (o.withFd o.fd).Flagged log := by
  cases o <;> exact h

end Object

namespace Flags

variable {log : FamilyLog} {objects : ℕ → Option Object}

theorem update (h : Flags log objects) {id : ℕ} {new : Option Object}
    (flagged : ∀ o, new = some o → o.Flagged log) : Flags log (Function.update objects id new) := by
  intro j o there
  by_cases same : j = id
  · subst same
    rw [Function.update_self] at there
    exact flagged o there
  · rw [Function.update_of_ne same] at there
    exact h j o there

theorem append (h : Flags log objects) {entry : Ledger.Event SockFd × Option Family}
    (opensNot : ∀ fd, entry.1 ≠ .opened fd) : Flags (log ++ [entry]) objects :=
  fun id o there => (h id o there).append fun _ => opensNot o.fd

theorem handedOver (h : Flags log objects) {other : Object} (flagged : other.Flagged log)
    (id source : ℕ) :
    Flags log (Function.update (Function.update objects id (some (other.withFd other.fd))) source
      (some (other.withFd invalidSockFd))) := by
  refine (h.update ?_).update ?_
  · rintro _ ⟨⟩
    exact flagged.withFd_self
  · rintro _ ⟨⟩
    exact Object.flagged_of_invalid (other.withFd_fd invalidSockFd)

end Flags

section
variable {σ : Type} {sys : Sys σ} {p : Platform}

theorem udpBind_family {address : SocketAddress} {os : Os (Logged σ)} {sock : UdpSocket}
    (made : (UdpSocket.bind sys.logged p address os).1 = .ok sock) :
    address.family = sock.family := by
  have value : (UdpSocket.bind sys.logged p address os).1 =
      (newBoundSocket sys.logged p address .dgram os).1.map fun fd => ⟨fd, ¬ address.isV4⟩ := rfl
  rw [value] at made
  cases returned : (newBoundSocket sys.logged p address .dgram os).1 with
  | error err =>
    rw [returned] at made
    cases made
  | ok fd =>
    rw [returned] at made
    obtain rfl := Except.ok.inj made
    obtain ⟨⟨v4⟩ | ⟨v6⟩, port⟩ := address
    · rfl
    · rfl

theorem made_of_map {α : Type} {r : Except Error α} {f : α → Object} {o : Object}
    (made : r.map f = .ok o) : ∃ a, r = .ok a ∧ f a = o := by
  cases r with
  | error err => cases made
  | ok a => exact ⟨a, rfl, Except.ok.inj made⟩

theorem made_of_returned {α : Type} {r : Option (Except Error α)} {f : α → Object} {o : Object}
    (made : (r.map fun res => res.map f) = some (.ok o)) : ∃ a, f a = o := by
  obtain ⟨res, -, made⟩ := Option.map_eq_some_iff.mp made
  obtain ⟨a, -, is⟩ := made_of_map made
  exact ⟨a, is⟩

theorem Creation.make_udp {objects : ℕ → Option Object} {creation : Creation} {os : Os (Logged σ)}
    {sock : UdpSocket} (made : (creation.make sys p objects os).1 = some (.ok (.udp sock))) :
    creation.family = some sock.family := by
  cases creation with
  | udpBind address =>
    obtain ⟨_, bound, ⟨⟩⟩ := made_of_map (Option.some.inj made)
    exact congrArg some (udpBind_family bound)
  | udpBindAny ipv6 =>
    obtain ⟨_, bound, ⟨⟩⟩ := made_of_map (Option.some.inj made)
    cases ipv6 with
    | true => exact congrArg some (udpBind_family bound)
    | false => exact congrArg some (udpBind_family bound)
  | listenerBind address =>
    obtain ⟨_, -, ⟨⟩⟩ := made_of_map (Option.some.inj made)
  | accept id =>
    cases there : objects id with
    | none =>
      simp only [make, there] at made
      cases made
    | some o =>
      cases o with
      | listener listener =>
        simp only [make, there] at made
        obtain ⟨_, ⟨⟩⟩ := made_of_returned
          (f := fun accepted : TcpStream × SocketAddress => Object.stream accepted.1) made
      | _ =>
        simp only [make, there] at made
        cases made
  | connect address timeoutMs rounds =>
    obtain ⟨_, ⟨⟩⟩ := made_of_returned (f := Object.stream) made
  | connectNonBlocking address rounds =>
    obtain ⟨_, ⟨⟩⟩ := made_of_returned (f := Object.stream) made

namespace Process

variable {m m' : Process σ} {id source : ℕ} {creation : Creation}

theorem note_descriptors (os : Os (Logged σ)) (event : Ledger.Event SockFd) :
    descriptors (note os event) = descriptors os ++ [(event, none)] := by
  simp only [descriptors, seen, note, List.filterMap_append]
  rfl

theorem held_ne_opened {o : Object} {fd : SockFd} (right : Accounts (events m.os) m.holder)
    (fresh : standing (events m.os) fd = .free) (there : m.objects id = some o)
    (valid : o.fd ≠ invalidSockFd) : Ledger.Event.opened fd ≠ .opened o.fd := by
  intro same
  obtain rfl : fd = o.fd := Ledger.Event.opened.inj same
  have owned : standing (events m.os) o.fd = .owned :=
    (right.held o.fd).mpr ⟨id, by rw [holder_some there, Object.holds_of_valid valid]⟩
  rw [fresh] at owned
  cases owned

theorem create_flags {r : Except Error Unit} (h : m.create sys p id creation = some (r, m'))
    (right : Accounts (events m.os) m.holder) (kernel : HandsOut (events m'.os))
    (flags : Flags (descriptors m.os) m.objects) : Flags (descriptors m'.os) m'.objects := by
  have fresh {fd : SockFd} {family : Option Family} {more : FamilyLog}
      (added : descriptors m'.os = descriptors m.os ++ [(.opened fd, family)] ++ more) :
      standing (events m.os) fd = .free := by
    refine kernel.fresh (events m.os) (.opened fd) (more.map Prod.fst) ?_ trivial
    rw [events_eq m'.os, added, List.map_append, List.map_append, ← events_eq]
    exact List.append_assoc _ _ _
  have others {fd : SockFd} {family : Option Family}
      (free : standing (events m.os) fd = .free) :
      Flags (descriptors m.os ++ [(.opened fd, family)]) m.objects :=
    fun j o there => (flags j o there).append (held_ne_opened right free there)
  obtain ⟨-, ⟨made, -, made_eq, added, objects⟩ | ⟨err, -, objects, leaves⟩⟩ := create_cases h
  · have free : standing (events m.os) made.fd = .free :=
      fresh (by rw [added, List.append_nil])
    rw [added, objects]
    refine (others free).update ?_
    rintro _ ⟨⟩ sock rfl -
    rw [familyOf_append, if_pos rfl]
    exact creation.make_udp made_eq
  · rw [objects]
    generalize log : descriptors m'.os = past at leaves
    cases leaves with
    | untried => exact flags
    | aborted err fd => exact (others (fresh log)).append nofun

theorem destroyed_flags {fd : SockFd} {os : Os (Logged σ)} {objects : ℕ → Option Object}
    (flags : Flags (descriptors os) objects) :
    Flags (descriptors (BaseSocket.destroy sys.logged fd os).2) objects := by
  unfold BaseSocket.destroy
  split
  · have closed : descriptors (closeSocket sys.logged fd os).2 =
        descriptors os ++ [(.closed fd, none)] := closeSocket_closes fd os rfl
    rw [closed]
    exact flags.append nofun
  · exact flags

theorem moveConstruct_flags (h : m.moveConstruct id source = some m')
    (flags : Flags (descriptors m.os) m.objects) : Flags (descriptors m'.os) m'.objects := by
  unfold moveConstruct at h
  split at h
  · rename_i other absent there
    obtain rfl := Option.some.inj h
    exact flags.handedOver (flags source other there) id source
  · cases h

theorem moveAssign_flags (h : m.moveAssign sys id source = some m')
    (flags : Flags (descriptors m.os) m.objects) : Flags (descriptors m'.os) m'.objects := by
  unfold moveAssign at h
  split at h
  · rename_i o other there source_there
    split_ifs at h with same alike
    · obtain rfl := Option.some.inj h
      exact flags
    · obtain rfl := Option.some.inj h
      rw [BaseSocket.moveAssign_eq]
      have closed : Flags (descriptors (BaseSocket.destroy sys.logged o.fd m.os).2) m.objects :=
        destroyed_flags flags
      exact closed.handedOver (closed source other source_there) id source
  · cases h

theorem releaseHandle_flags (h : m.releaseHandle id = some m')
    (flags : Flags (descriptors m.os) m.objects) : Flags (descriptors m'.os) m'.objects := by
  unfold releaseHandle at h
  split at h
  · rename_i sock there
    obtain rfl := Option.some.inj h
    have noted : Flags (descriptors (if sock.releaseHandle.1 = invalidSockFd then m.os
        else note m.os (.released sock.releaseHandle.1))) m.objects := by
      split_ifs
      · exact flags
      · rw [note_descriptors]
        exact flags.append nofun
    refine noted.update ?_
    rintro _ ⟨⟩
    exact Object.flagged_of_stream _
  · cases h

theorem destroy_flags (h : m.destroy sys id = some m')
    (flags : Flags (descriptors m.os) m.objects) : Flags (descriptors m'.os) m'.objects := by
  unfold destroy at h
  split at h
  · obtain rfl := Option.some.inj h
    exact (destroyed_flags flags).update nofun
  · cases h

theorem dispose_flags {fd : SockFd} (h : m.dispose sys fd = some m')
    (flags : Flags (descriptors m.os) m.objects) : Flags (descriptors m'.os) m'.objects := by
  unfold dispose at h
  split_ifs at h
  obtain rfl := Option.some.inj h
  have opensNot (other : SockFd) : Ledger.Event.disposed fd ≠ .opened other := by
    intro same
    cases same
  have noted : Flags (descriptors (note m.os (.disposed fd))) m.objects := by
    rw [note_descriptors]
    exact flags.append opensNot
  exact noted

theorem exec_flags {op : Op} {r : Except Error Unit} (h : m.exec sys p op = some (r, m'))
    (right : Accounts (events m.os) m.holder) (kernel : HandsOut (events m'.os))
    (flags : Flags (descriptors m.os) m.objects) : Flags (descriptors m'.os) m'.objects := by
  cases op with
  | create id creation => exact create_flags h right kernel flags
  | moveConstruct id source =>
    obtain ⟨m₁, moved, rfl⟩ := done h
    exact moveConstruct_flags moved flags
  | moveAssign id source =>
    obtain ⟨m₁, moved, rfl⟩ := done h
    exact moveAssign_flags moved flags
  | releaseHandle id =>
    obtain ⟨m₁, released, rfl⟩ := done h
    exact releaseHandle_flags released flags
  | destroy id =>
    obtain ⟨m₁, destroyed, rfl⟩ := done h
    exact destroy_flags destroyed flags
  | dispose fd =>
    obtain ⟨m₁, disposed, rfl⟩ := done h
    exact dispose_flags disposed flags

theorem run_flags {world : σ} {errno : ℤ} {ops : List Op}
    (ran : (start world errno).run sys p ops = some m) (kernel : HandsOut (events m.os)) :
    Flags (descriptors m.os) m.objects := by
  have both : Accounts (events m.os) m.holder ∧ Flags (descriptors m.os) m.objects := by
    refine Control.foldlM_invariant (P := fun _ m => HandsOut (events m.os) →
      Accounts (events m.os) m.holder ∧ Flags (descriptors m.os) m.objects) ?_ ?_ ran kernel
    · exact fun _ => ⟨Accounts.start, nofun⟩
    · intro past m op m' before step kernel
      obtain ⟨⟨r, m₁⟩, done, rfl⟩ := Option.map_eq_some_iff.mp step
      have change := exec_change done kernel.valid
      obtain ⟨right, flags⟩ := before (kernel.of_prefix change.grows)
      exact ⟨change.accounts kernel.fresh right, exec_flags done right kernel flags⟩
  exact both.2

end Process
end

def unmapped : IpAddress → Option IpAddress
  | .v4 _ => none
  | .v6 v6 => v6.toIpv4Mapped.map .v4

/-- An IPv4 destination that goes through an IPv6 socket, not on Linux. -/
def Mapped (linux : Bool) (socket : Family) (destination : SocketAddress) : Prop :=
  ¬ linux ∧ socket = .inet6 ∧ destination.isV4

instance (linux : Bool) (socket : Family) (destination : SocketAddress) :
    Decidable (Mapped linux socket destination) := inferInstanceAs (Decidable (_ ∧ _ ∧ _))

/-- What is handed over denotes the destination. -/
structure Denotes (abi : Abi) (linux : Bool) (socket : Family) (given : Destination)
    (destination : SocketAddress) : Prop where
  decoded : ∃ address,
    SockAddrAny.toSocketAddress abi given.address = some ⟨address, destination.port⟩ ∧
      (if Mapped linux socket destination then unmapped address else some address) =
        some destination.address
  family : ¬ linux → socket = .inet6 → SockAddrAny.family abi given.address = abi.afInet6
  length : ∃ f, SockAddrAny.family abi given.address = abi.code f ∧
    given.length = SockAddrAny.structSize f

def givenFor (abi : Abi) (linux : Bool) (destination : SocketAddress) (ipv6 : Bool) :
    Destination :=
  let sa := UdpSocket.constructDestAddr abi linux destination ipv6
  ⟨sa, SockAddrAny.size abi sa⟩

theorem UdpSocket.family_eq_inet6_iff {sock : UdpSocket} :
    sock.family = .inet6 ↔ sock.ipv6 = true := by
  cases flag : sock.ipv6 <;> simp [UdpSocket.family, flag]

section
variable {abi : Abi} {linux : Bool} {sock : UdpSocket} {destination : SocketAddress}

theorem givenFor_mapped (abi : Abi) {v4 : Ipv4Address}
    (h : Mapped linux sock.family destination) (address : destination.address = .v4 v4) :
    SockAddrAny.Holds abi (givenFor abi linux destination sock.ipv6).address
      ⟨.v6 (.fromIpv4Mapped v4), destination.port⟩ := by
  have mapped : ¬ linux ∧ sock.ipv6 = true := ⟨h.1, UdpSocket.family_eq_inet6_iff.mp h.2.1⟩
  simp only [givenFor, UdpSocket.constructDestAddr, address]
  rw [if_pos mapped]
  exact SockAddrAny.ofSocketAddress_holds abi _

theorem givenFor_plain (h : ¬ Mapped linux sock.family destination) :
    givenFor abi linux destination sock.ipv6 =
      ⟨SockAddrAny.ofSocketAddress abi destination,
        SockAddrAny.size abi (SockAddrAny.ofSocketAddress abi destination)⟩ := by
  obtain ⟨⟨v4⟩ | ⟨v6⟩, port⟩ := destination
  · have other : ¬ (¬ linux ∧ sock.ipv6 = true) :=
      fun both => h ⟨both.1, UdpSocket.family_eq_inet6_iff.mpr both.2, rfl⟩
    simp only [givenFor, UdpSocket.constructDestAddr]
    rw [if_neg other]
  · rfl

theorem givenFor_denotes : Denotes abi linux sock.family
    (givenFor abi linux destination sock.ipv6) destination := by
  by_cases mapped : Mapped linux sock.family destination
  · obtain ⟨v4, address⟩ : ∃ v4, destination.address = .v4 v4 := by
      obtain ⟨⟨v4⟩ | ⟨v6⟩, port⟩ := destination
      · exact ⟨v4, rfl⟩
      · exact absurd mapped.2.2 Bool.false_ne_true
    have holds := givenFor_mapped abi mapped address
    refine ⟨⟨_, SockAddrAny.toSocketAddress_eq_some_iff.mpr holds, ?_⟩, ?_, _, holds.family,
      holds.size⟩
    · rw [if_pos mapped, address, unmapped, Ipv6Address.toIpv4Mapped_fromIpv4Mapped]
      rfl
    · exact fun _ _ => holds.family
  · have holds : SockAddrAny.Holds abi (givenFor abi linux destination sock.ipv6).address
        destination := by
      rw [givenFor_plain mapped]
      exact SockAddrAny.ofSocketAddress_holds abi destination
    have size : (givenFor abi linux destination sock.ipv6).length = _ := holds.size
    refine ⟨⟨_, SockAddrAny.toSocketAddress_eq_some_iff.mpr holds, if_neg mapped⟩, ?_, _,
      holds.family, size⟩
    intro elsewhere inet6
    rw [holds.family]
    obtain ⟨⟨v4⟩ | ⟨v6⟩, port⟩ := destination
    · exact absurd ⟨elsewhere, inet6, rfl⟩ mapped
    · rfl

end

section
variable {σ : Type} {sys : Sys σ} {p : Platform}

theorem mapResult_seen {α β : Type} {pick : Entry → Option β} {note : Except ℤ α → List Entry}
    {f : σ → Except ℤ α × σ} (os : Os (Logged σ)) :
    seen pick (mapResult sys.logged p (Logged.noting note f) os).2 =
      seen pick os ++ (note (f os.world.world).1).filterMap pick := by
  cases returned : (Logged.noting note f os.world).1 with
  | ok a =>
    rw [mapResult_ok (Prod.ext returned rfl)]
    exact List.filterMap_append
  | error code =>
    rw [mapResult_error (Prod.ext returned rfl)]
    exact List.filterMap_append

theorem connect_gives (linux : Bool) (sock : UdpSocket) (address : SocketAddress)
    (os : Os (Logged σ)) :
    seen Entry.ofDestination (sock.connect sys.logged p linux address os).2 =
      seen Entry.ofDestination os ++ [givenFor sys.abi linux address sock.ipv6] :=
  mapResult_seen os

theorem sendTo_gives (linux : Bool) (sock : UdpSocket) (data : List UInt8)
    (destination : SocketAddress) (os : Os (Logged σ)) :
    seen Entry.ofDestination (sock.sendTo sys.logged p linux data destination os).2 =
      seen Entry.ofDestination os ++ [givenFor sys.abi linux destination sock.ipv6] := by
  rw [UdpSocket.sendTo, Sys.called_logged]
  exact mapResult_seen os

end

/-- After every run, each datagram socket that holds a descriptor has its family for
a flag, and what it hands over denotes the destination. -/
theorem destinations_denoted {σ : Type} (sys : Sys σ) (p : Platform) (linux : Bool) (world : σ)
    (errno : ℤ) (ops : List Op) (m : Process σ)
    (ran : (Process.start world errno).run sys p ops = some m)
    (kernel : Process.HandsOut (events m.os))
    (id : ℕ) (sock : UdpSocket) (there : m.objects id = some (.udp sock))
    (live : sock.fd ≠ invalidSockFd) :
    familyOf (descriptors m.os) sock.fd = some sock.family ∧
      ∀ destination : SocketAddress,
        (∃ given, seen Entry.ofDestination (sock.connect sys.logged p linux destination m.os).2 =
            seen Entry.ofDestination m.os ++ [given] ∧
          Denotes sys.abi linux sock.family given destination) ∧
        ∀ data, ∃ given,
          seen Entry.ofDestination (sock.sendTo sys.logged p linux data destination m.os).2 =
              seen Entry.ofDestination m.os ++ [given] ∧
            Denotes sys.abi linux sock.family given destination := by
  refine ⟨Process.run_flags ran kernel id (.udp sock) there sock rfl live, fun destination => ?_⟩
  have denotes : Denotes sys.abi linux sock.family
      (givenFor sys.abi linux destination sock.ipv6) destination := givenFor_denotes
  exact ⟨⟨_, connect_gives linux sock destination m.os, denotes⟩,
    fun data => ⟨_, sendTo_gives linux sock data destination m.os, denotes⟩⟩

namespace Process

def countingWithOptions : Sys ℤ :=
  { counting with
    abi := .darwin
    setsockopt := fun _ _ next => (.ok (), next) }

theorem moved_destinations_denoted :
    ∃ m, (start 3 0).run countingWithOptions .posix
        [.create 0 (.udpBindAny true), .create 1 (.udpBindAny false), .moveAssign 1 0] = some m ∧
      m.objects 1 = some (.udp ⟨3, true⟩) ∧
      familyOf (descriptors m.os) 3 = some .inet6 ∧
      ∃ given, Denotes .darwin false .inet6 given ⟨.v4 (.ofOctets 127 0 0 1), 7⟩ := by
  obtain ⟨m, ran, there, log⟩ : ∃ m, (start 3 0).run countingWithOptions .posix
        [.create 0 (.udpBindAny true), .create 1 (.udpBindAny false), .moveAssign 1 0] = some m ∧
      m.objects 1 = some (.udp ⟨3, true⟩) ∧
      events m.os = [.opened 3, .opened 4, .closed 4] := ⟨_, rfl, rfl, rfl⟩
  have opened : InOrder Ledger.Event.Opens ([] ++ [.opened (3 : SockFd)] ++ [.opened 4]) :=
    Ledger.inOrder_append.mpr ⟨Ledger.inOrder_append.mpr ⟨Ledger.inOrder_nil _, fun _ => rfl⟩,
      fun _ => rfl⟩
  have kernel : HandsOut (events m.os) := by
    rw [log]
    exact ⟨Ledger.inOrder_append.mpr ⟨opened, fun _ => rfl⟩, by decide⟩
  obtain ⟨family, denoted⟩ := destinations_denoted countingWithOptions .posix false 3 0 _ m ran
    kernel 1 ⟨3, true⟩ there (by decide)
  obtain ⟨given, -, denotes⟩ := (denoted ⟨.v4 (.ofOctets 127 0 0 1), 7⟩).1
  exact ⟨m, ran, there, family, given, denotes⟩

end Process

/-- The fields by which the kernel knows an address; for IPv6 the last four bytes
are the scope. -/
structure SameEndpoint (abi : Abi) (given source : SockAddr) : Prop where
  family : SockAddrAny.family abi given = SockAddrAny.family abi source
  port : SockAddrAny.field 2 2 given = SockAddrAny.field 2 2 source
  inet : SockAddrAny.family abi source = abi.afInet →
    SockAddrAny.field 4 4 given = SockAddrAny.field 4 4 source
  inet6 : SockAddrAny.family abi source = abi.afInet6 →
    SockAddrAny.field 8 16 given = SockAddrAny.field 8 16 source ∧
      SockAddrAny.field 24 4 given = SockAddrAny.field 24 4 source

/-- The reply goes back as the source came: an IPv4 source is not mapped, and an IPv6
source has no scope. -/
def Answerable (abi : Abi) (linux : Bool) (socket : Family) (source : SockAddr) : Prop :=
  (SockAddrAny.family abi source = abi.afInet → ¬ (¬ linux ∧ socket = .inet6)) ∧
    (SockAddrAny.family abi source = abi.afInet6 →
      SockAddrAny.field 24 4 source = List.replicate 4 0)

theorem sameEndpoint_iff {abi : Abi} {linux : Bool} {sock : UdpSocket} {source : SockAddr}
    {sender : SocketAddress} (decoded : SockAddrAny.toSocketAddress abi source = some sender) :
    SameEndpoint abi (givenFor abi linux sender sock.ipv6).address source ↔
      Answerable abi linux sock.family source := by
  have holds := SockAddrAny.toSocketAddress_eq_some_iff.mp decoded
  have other : abi.afInet6 ≠ abi.afInet := SockAddrAny.code_inet_ne abi
  have family := holds.family
  have port := holds.port
  have address := holds.address
  obtain ⟨⟨v4⟩ | ⟨v6⟩, number⟩ := sender
  · have inet : SockAddrAny.family abi source = abi.afInet := family
    by_cases mapped : Mapped linux sock.family ⟨.v4 v4, number⟩
    · have given := givenFor_mapped abi mapped rfl
      constructor
      · intro same
        have inet6 := given.family
        rw [same.family, inet] at inet6
        exact absurd inet6.symm other
      · intro answerable
        exact absurd ⟨mapped.1, mapped.2.1⟩ (answerable.1 inet)
    · rw [givenFor_plain mapped]
      have given := SockAddrAny.ofSocketAddress_holds abi ⟨.v4 v4, number⟩
      refine iff_of_true ⟨?_, ?_, ?_, ?_⟩ ⟨fun _ both => mapped ⟨both.1, both.2, rfl⟩, ?_⟩
      · rw [given.family, family]
      · rw [given.port, port]
      · exact fun _ => given.address.trans address.symm
      · exact fun inet6 => absurd (inet6.symm.trans inet) other
      · exact fun inet6 => absurd (inet6.symm.trans inet) other
  · have inet6 : SockAddrAny.family abi source = abi.afInet6 := family
    have plain : ¬ Mapped linux sock.family ⟨.v6 v6, number⟩ :=
      fun mapped => Bool.false_ne_true mapped.2.2
    rw [givenFor_plain plain]
    have given := SockAddrAny.ofSocketAddress_holds abi ⟨.v6 v6, number⟩
    have scope := SockAddrAny.scope_ofSocketAddress abi ⟨v6, number⟩
    constructor
    · intro same
      refine ⟨fun inet => absurd (inet6.symm.trans inet) other, fun _ => ?_⟩
      rw [← (same.inet6 inet6).2]
      exact scope
    · intro answerable
      refine ⟨?_, ?_, fun inet => absurd (inet6.symm.trans inet) other, fun _ => ⟨?_, ?_⟩⟩
      · rw [given.family, family]
      · rw [given.port, port]
      · exact given.address.trans address.symm
      · exact scope.trans (answerable.2 inet6).symm

section
variable {σ : Type} {sys : Sys σ} {p : Platform}

theorem recvFrom_reports {sock : UdpSocket} {size : ℕ} {before sender : SocketAddress}
    {bytes : { bytes : List UInt8 // bytes.length ≤ size }} {os : Os (Logged σ)}
    (received : (sock.recvFrom sys.logged p size before os).1 = some (.ok bytes, sender)) :
    ∃ source, seen Entry.ofSource (sock.recvFrom sys.logged p size before os).2 =
        seen Entry.ofSource os ++ [source] ∧
      SockAddrAny.toSocketAddress sys.abi source = some sender := by
  unfold UdpSocket.recvFrom at received ⊢
  cases answered : (sys.called p).recvfrom sock.fd size false os.world.world with
  | mk returned w =>
    cases returned with
    | error code =>
      have failed : (sys.logged.called p).recvfrom sock.fd size false os.world =
          (.error code, ⟨w, os.world.log ++ [.recvfrom (.error code)]⟩) := by
        rw [Sys.called_logged]
        simp only [Sys.logged, Logged.noting, answered]
        rfl
      rw [UdpSocket.recvFromWith_error failed] at received
      cases received
    | ok made =>
      obtain ⟨data, source⟩ := made
      have reported : (sys.logged.called p).recvfrom sock.fd size false os.world =
          (.ok (data, source), ⟨w, os.world.log ++ [.recvfrom (.ok source)]⟩) := by
        rw [Sys.called_logged]
        simp only [Sys.logged, Logged.noting, answered]
        rfl
      rw [UdpSocket.recvFromWith_ok reported] at received ⊢
      obtain ⟨decoded, is, same⟩ := Option.map_eq_some_iff.mp received
      obtain ⟨-, rfl⟩ := Prod.mk.inj same
      exact ⟨source, List.filterMap_append, is⟩

/-- A reply goes to the address that the datagram came from exactly if there was no
scope to be lost, and no address to be mapped. -/
theorem reply_iff {σ : Type} (sys : Sys σ) (p : Platform) (linux : Bool) (sock : UdpSocket)
    (size : ℕ) (before sender : SocketAddress)
    (bytes : { bytes : List UInt8 // bytes.length ≤ size }) (os os' : Os (Logged σ))
    (received : (sock.recvFrom sys.logged p size before os).1 = some (.ok bytes, sender)) :
    ∃ source, seen Entry.ofSource (sock.recvFrom sys.logged p size before os).2 =
        seen Entry.ofSource os ++ [source] ∧
      ∀ data, ∃ given,
        seen Entry.ofDestination (sock.sendTo sys.logged p linux data sender os').2 =
            seen Entry.ofDestination os' ++ [given] ∧
          (SameEndpoint sys.abi given.address source ↔
            Answerable sys.abi linux sock.family source) := by
  obtain ⟨source, reported, decoded⟩ := recvFrom_reports received
  exact ⟨source, reported, fun data =>
    ⟨_, sendTo_gives linux sock data sender os', sameEndpoint_iff decoded⟩⟩

end

namespace UdpSocket

def linkLocal : SockAddr :=
  SockAddrAny.write 24 [2, 0, 0, 0] (SockAddrAny.ofSocketAddress .linux
    ⟨.v6 ⟨#v[0xfe, 0x80, 0, 0, 0, 0, 0, 0, 0, 0, 0, 0, 0, 0, 0, 1]⟩, 7⟩)

def echoing (source : SockAddr) : Sys Unit :=
  { Sys.refusing 11 with
    recvfrom := fun _ size _ w =>
      if fits : 1 ≤ size then (.ok (⟨[65], fits⟩, source), w) else (.error 11, w)
    sendto := fun _ data _ _ w => (.ok (Fin.last data.length), w) }

theorem reply_reaches :
    ∃ source given, seen Entry.ofSource ((⟨3, false⟩ : UdpSocket).recvFrom
        (echoing (SockAddrAny.ofSocketAddress .linux ⟨.v4 (.ofOctets 127 0 0 1), 7⟩)).logged .posix
        1024 ⟨.v4 .unspecified, 0⟩ (Os.fresh () 0)).2 = [source] ∧
      seen Entry.ofDestination ((⟨3, false⟩ : UdpSocket).sendTo
        (echoing (SockAddrAny.ofSocketAddress .linux ⟨.v4 (.ofOctets 127 0 0 1), 7⟩)).logged .posix
        true [65] ⟨.v4 (.ofOctets 127 0 0 1), 7⟩ (Os.fresh () 0)).2 = [given] ∧
      (SameEndpoint .linux given.address source ↔ Answerable .linux true .inet source) := by
  obtain ⟨source, reported, replies⟩ := reply_iff
    (echoing (SockAddrAny.ofSocketAddress .linux ⟨.v4 (.ofOctets 127 0 0 1), 7⟩)) .posix true
    ⟨3, false⟩ 1024 ⟨.v4 .unspecified, 0⟩ ⟨.v4 (.ofOctets 127 0 0 1), 7⟩ ⟨[65], by decide⟩
    (Os.fresh () 0) (Os.fresh () 0) (by decide)
  obtain ⟨given, sent, same⟩ := replies [65]
  exact ⟨source, given, reported, sent, same⟩

theorem reply_loses_scope :
    ∃ sender given, ((⟨3, true⟩ : UdpSocket).recvFrom (echoing linkLocal).logged .posix 1024
        ⟨.v4 .unspecified, 0⟩ (Os.fresh () 0)).1 = some (.ok ⟨[65], by decide⟩, sender) ∧
      seen Entry.ofSource ((⟨3, true⟩ : UdpSocket).recvFrom (echoing linkLocal).logged .posix 1024
        ⟨.v4 .unspecified, 0⟩ (Os.fresh () 0)).2 = [linkLocal] ∧
      seen Entry.ofDestination ((⟨3, true⟩ : UdpSocket).sendTo (echoing linkLocal).logged .posix
        true [65] sender (Os.fresh () 0)).2 = [given] ∧
      ¬ SameEndpoint .linux given.address linkLocal := by
  refine ⟨_, _, rfl, rfl, rfl, fun same => ?_⟩
  have scope := (same.inet6 rfl).2
  exact absurd scope (by decide)

end UdpSocket
end Qsox
