import Qsox.SocketUtil

/-! `UdpSocket`. Received bytes are returned in place of their count; the sender
argument is passed and returned. -/

namespace Qsox

open Resolver (SockAddr)

structure UdpSocket where
  fd : SockFd
  ipv6 : Bool
  deriving DecidableEq, Repr

namespace UdpSocket

/-- Without Linux an IPv6 socket reaches IPv4 destinations as mapped addresses. -/
def constructDestAddr (abi : Abi) (linux : Bool) (address : SocketAddress) (ipv6 : Bool) :
    SockAddr :=
  match address.address with
  | .v4 v4 =>
    if ¬ linux ∧ ipv6 then
      SockAddrAny.ofSocketAddress abi ⟨.v6 (.fromIpv4Mapped v4), address.port⟩
    else SockAddrAny.ofSocketAddress abi address
  | .v6 _ => SockAddrAny.ofSocketAddress abi address

variable {σ : Type} (sys : Sys σ) (p : Platform) (linux : Bool)

def bind (address : SocketAddress) : StateM (Os σ) (Except Error UdpSocket) := do
  let res ← newBoundSocket sys p address .dgram
  return res.map fun fd => ⟨fd, ¬ address.isV4⟩

def bindAny (ipv6 : Bool) : StateM (Os σ) (Except Error UdpSocket) :=
  bind sys p ⟨if ipv6 then .v6 .unspecified else .v4 .unspecified, 0⟩

def connect (sock : UdpSocket) (address : SocketAddress) : StateM (Os σ) (Except Error Unit) :=
  let sa := constructDestAddr sys.abi linux address sock.ipv6
  mapResult sys p (sys.connect sock.fd sa (SockAddrAny.size sys.abi sa))

/-- `connect` to a `sockaddr` of 16 zero bytes, `AF_UNSPEC` being 0. -/
def disconnect (sock : UdpSocket) : StateM (Os σ) (Except Error Unit) :=
  mapResult sys p (sys.connect sock.fd SockAddrAny.zero 16)

def sendTo (sock : UdpSocket) (data : List UInt8) (destination : SocketAddress) :
    StateM (Os σ) (Except Error (Fin (data.length + 1))) :=
  let sa := constructDestAddr sys.abi linux destination sock.ipv6
  mapResult sys p ((sys.called p).sendto sock.fd data sa (SockAddrAny.size sys.abi sa))

def send (sock : UdpSocket) (data : List UInt8) :
    StateM (Os σ) (Except Error (Fin (data.length + 1))) :=
  mapResult sys p ((sys.called p).send sock.fd data)

def recvWith (peek : Bool) (sock : UdpSocket) (size : ℕ) :
    StateM (Os σ) (Except Error { bytes : List UInt8 // bytes.length ≤ size }) :=
  mapResult sys p ((sys.called p).recv sock.fd size peek)

def recv : UdpSocket → (size : ℕ) →
    StateM (Os σ) (Except Error { bytes : List UInt8 // bytes.length ≤ size }) :=
  recvWith sys p false

def peek : UdpSocket → (size : ℕ) →
    StateM (Os σ) (Except Error { bytes : List UInt8 // bytes.length ≤ size }) :=
  recvWith sys p true

/-- `_recvFrom`: the result and the sender argument afterwards. -/
def recvFromWith (peek : Bool) (sock : UdpSocket) (size : ℕ) (sender : SocketAddress) :
    StateM (Os σ)
      (Option (Except Error { bytes : List UInt8 // bytes.length ≤ size } × SocketAddress)) := do
  match ← mapResult sys p ((sys.called p).recvfrom sock.fd size peek) with
  | .error e => return some (.error e, sender)
  | .ok (bytes, storage) =>
    return (SockAddrAny.toSocketAddress sys.abi storage).map fun address => (.ok bytes, address)

/-- The overload for one family: the address is first read into a generic one. -/
def recvFromFamily {Address : Type} (peek : Bool) (initial : SocketAddress)
    (narrow : SocketAddress → Option Address) (sock : UdpSocket) (size : ℕ) (sender : Address) :
    StateM (Os σ)
      (Option (Except Error { bytes : List UInt8 // bytes.length ≤ size } × Address)) := do
  match ← recvFromWith sys p peek sock size initial with
  | none => return none
  | some (result, genericAddr) =>
    match narrow genericAddr with
    | none => return some (.error (.ofCode .unsupportedFamily), sender)
    | some address => return some (result, address)

def asV4 (a : SocketAddress) : Option SocketAddressV4 :=
  match a.address with
  | .v4 address => some ⟨address, a.port⟩
  | .v6 _ => none

def asV6 (a : SocketAddress) : Option SocketAddressV6 :=
  match a.address with
  | .v4 _ => none
  | .v6 address => some ⟨address, a.port⟩

def recvFrom : UdpSocket → (size : ℕ) → SocketAddress → StateM (Os σ)
    (Option (Except Error { bytes : List UInt8 // bytes.length ≤ size } × SocketAddress)) :=
  recvFromWith sys p false

def peekFrom : UdpSocket → (size : ℕ) → SocketAddress → StateM (Os σ)
    (Option (Except Error { bytes : List UInt8 // bytes.length ≤ size } × SocketAddress)) :=
  recvFromWith sys p true

def recvFromV4 : UdpSocket → (size : ℕ) → SocketAddressV4 → StateM (Os σ)
    (Option (Except Error { bytes : List UInt8 // bytes.length ≤ size } × SocketAddressV4)) :=
  recvFromFamily sys p false ⟨.v4 .unspecified, 0⟩ asV4

def peekFromV4 : UdpSocket → (size : ℕ) → SocketAddressV4 → StateM (Os σ)
    (Option (Except Error { bytes : List UInt8 // bytes.length ≤ size } × SocketAddressV4)) :=
  recvFromFamily sys p true ⟨.v4 .unspecified, 0⟩ asV4

def recvFromV6 : UdpSocket → (size : ℕ) → SocketAddressV6 → StateM (Os σ)
    (Option (Except Error { bytes : List UInt8 // bytes.length ≤ size } × SocketAddressV6)) :=
  recvFromFamily sys p false ⟨.v6 .unspecified, 0⟩ asV6

def peekFromV6 : UdpSocket → (size : ℕ) → SocketAddressV6 → StateM (Os σ)
    (Option (Except Error { bytes : List UInt8 // bytes.length ≤ size } × SocketAddressV6)) :=
  recvFromFamily sys p true ⟨.v6 .unspecified, 0⟩ asV6

section
variable {sys p} {peek : Bool} {sock : UdpSocket} {size : ℕ} {sender : SocketAddress} {os : Os σ}
  {w : σ}

theorem recvFromWith_error {code : ℤ}
    (h : (sys.called p).recvfrom sock.fd size peek os.world = (.error code, w)) :
    recvFromWith sys p peek sock size sender os =
      (some (.error (p.lastOsError code), sender), ⟨w, code, os.trace⟩) := by
  rw [recvFromWith, bind_of_eq (mapResult_error h)]
  rfl

theorem recvFromWith_ok {bytes : { bytes : List UInt8 // bytes.length ≤ size }} {storage : SockAddr}
    (h : (sys.called p).recvfrom sock.fd size peek os.world = (.ok (bytes, storage), w)) :
    recvFromWith sys p peek sock size sender os =
      ((SockAddrAny.toSocketAddress sys.abi storage).map fun address => (.ok bytes, address),
        ⟨w, sys.errnoLeft w, os.trace⟩) := by
  rw [recvFromWith, bind_of_eq (mapResult_ok h)]
  rfl

section
variable {Address : Type} {initial : SocketAddress} {narrow : SocketAddress → Option Address}
  {before : Address}

theorem recvFromFamily_error {code : ℤ} {blank : Address} (read : narrow initial = some blank)
    (h : (sys.called p).recvfrom sock.fd size peek os.world = (.error code, w)) :
    recvFromFamily sys p peek initial narrow sock size before os =
      (some (.error (p.lastOsError code), blank), ⟨w, code, os.trace⟩) := by
  rw [recvFromFamily, bind_of_eq (recvFromWith_error h)]
  simp only [read]
  rfl

variable {bytes : { bytes : List UInt8 // bytes.length ≤ size }} {storage : SockAddr}
  {address : SocketAddress}

theorem recvFromFamily_other
    (h : (sys.called p).recvfrom sock.fd size peek os.world = (.ok (bytes, storage), w))
    (decoded : SockAddrAny.toSocketAddress sys.abi storage = some address)
    (other : narrow address = none) :
    recvFromFamily sys p peek initial narrow sock size before os =
      (some (.error (.ofCode .unsupportedFamily), before), ⟨w, sys.errnoLeft w, os.trace⟩) := by
  rw [recvFromFamily, bind_of_eq (recvFromWith_ok h), decoded]
  simp only [Option.map_some, other]
  rfl

theorem recvFromFamily_ok {read : Address}
    (h : (sys.called p).recvfrom sock.fd size peek os.world = (.ok (bytes, storage), w))
    (decoded : SockAddrAny.toSocketAddress sys.abi storage = some address)
    (own : narrow address = some read) :
    recvFromFamily sys p peek initial narrow sock size before os =
      (some (.ok bytes, read), ⟨w, sys.errnoLeft w, os.trace⟩) := by
  rw [recvFromFamily, bind_of_eq (recvFromWith_ok h), decoded]
  simp only [Option.map_some, own]
  rfl

end
end
end UdpSocket
end Qsox
