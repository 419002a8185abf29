import Qsox.Sys

/-! What the three socket classes share: bound sockets, the addresses of a socket
and its timeouts. The calls are those of `Sys`. -/

namespace Qsox

open Resolver (SockAddr)
open BaseSocket

def invalidSockFd : SockFd := -1

variable {σ : Type} (sys : Sys σ) (p : Platform)

/-- A call and the test for `-1`, which `mapResult` makes too. -/
def mapResult {α : Type} (f : σ → Except ℤ α × σ) : StateM (Os σ) (Except Error α) := do
  match ← Os.call sys.kernel f with
  | none => return .error (← Os.lastOsError p)
  | some a => return .ok a

def closeSocket (fd : SockFd) : StateM (Os σ) Unit := do
  let _ ← Os.close sys.kernel fd

/-- `GEODE_UNWRAP` on the result of a step; the first error ends the program. -/
def unwrap {S α β : Type} (step : StateM S (Except Error α))
    (next : α → StateM S (Except Error β)) : StateM S (Except Error β) := do
  match ← step with
  | .error e => return .error e
  | .ok a => next a

section
variable {S α β γ : Type} {step : StateM S (Except Error α)} {next : α → StateM S (Except Error β)}
  {s s' : S}

theorem unwrap_ok {a : α} (h : step s = (.ok a, s')) : unwrap step next s = next a s' := by
  rw [unwrap, bind_of_eq h]

theorem unwrap_error {e : Error} (h : step s = (.error e, s')) :
    unwrap step next s = (.error e, s') := by
  rw [unwrap, bind_of_eq h]
  rfl

@[simp] theorem unwrap_pure (program : StateM S (Except Error α)) :
    unwrap program (fun a => pure (.ok a)) = program := by
  funext s
  cases h : program s with
  | mk returned s' =>
    cases returned with
    | error e => exact unwrap_error h
    | ok a => exact unwrap_ok h

theorem unwrap_bind (program : StateM S γ) (rest : γ → StateM S (Except Error α)) :
    unwrap (program >>= rest) next = program >>= fun c => unwrap (rest c) next := rfl

theorem unwrap_unwrap (program : StateM S (Except Error γ))
    (rest : γ → StateM S (Except Error α)) :
    unwrap (unwrap program rest) next = unwrap program fun c => unwrap (rest c) next := by
  funext s
  cases h : program s with
  | mk returned s' =>
    cases returned with
    | error e => rw [unwrap_error (unwrap_error h), unwrap_error h]
    | ok c =>
      have inner : unwrap program rest s = rest c s' := unwrap_ok h
      rw [unwrap_ok h]
      exact congrArg (fun out => (match out.1 with
        | .error e => pure (.error e)
        | .ok a => next a : StateM S (Except Error β)) out.2) inner

end

/-- `errno` is read after `close`. -/
def closeAndFail (fd : SockFd) : StateM (Os σ) (Except Error SockFd) := do
  closeSocket sys fd
  return .error (← Os.lastOsError p)

def bindNewSocket (address : SocketAddress) (sock : SockFd) :
    StateM (Os σ) (Except Error SockFd) := do
  let m := SockAddrAny.ofSocketAddress sys.abi address
  match ← Os.call sys.kernel (sys.bind sock m (SockAddrAny.size sys.abi m)) with
  | none => closeAndFail sys p sock
  | some () => return .ok sock

def newBoundSocket (address : SocketAddress) (type : SockType) :
    StateM (Os σ) (Except Error SockFd) :=
  unwrap (newSocket sys.kernel p address.family type) fun sock => do
    if address.family = .inet6 then
      match ← Os.call sys.kernel (sys.setsockopt sock (.v6only 0)) with
      | none => closeAndFail sys p sock
      | some () => bindNewSocket sys p address sock
    else bindNewSocket sys p address sock

namespace BaseSocket

/-- The address of the storage; nothing is returned where that is `unreachable()`. -/
def readAddress (call : σ → Except ℤ SockAddr × σ) :
    StateM (Os σ) (Option (Except Error SocketAddress)) := do
  match ← mapResult sys p call with
  | .error e => return some (.error e)
  | .ok storage => return (SockAddrAny.toSocketAddress sys.abi storage).map .ok

def localAddress (fd : SockFd) : StateM (Os σ) (Option (Except Error SocketAddress)) :=
  readAddress sys p (sys.getsockname fd)

def remoteAddress (fd : SockFd) : StateM (Os σ) (Option (Except Error SocketAddress)) :=
  readAddress sys p (sys.getpeername fd)

def timeoutOption (kind : TimeoutKind) (timeoutMs : UInt32) : SockOpt :=
  match p with
  | .posix => .timeval kind (timeoutMs / 1000).toNat (timeoutMs % 1000 * 1000).toNat
  | .windows => .milliseconds kind timeoutMs

def setTimeout (fd : SockFd) (kind : TimeoutKind) (timeoutMs : UInt32) :
    StateM (Os σ) (Except Error Unit) :=
  if timeoutMs = 0 then pure (.error (.ofCode .invalidArgument))
  else mapResult sys p (sys.setsockopt fd (timeoutOption p kind timeoutMs))

def setReadTimeout (fd : SockFd) (timeoutMs : UInt32) : StateM (Os σ) (Except Error Unit) :=
  setTimeout sys p fd .receive timeoutMs

def setWriteTimeout (fd : SockFd) (timeoutMs : UInt32) : StateM (Os σ) (Except Error Unit) :=
  setTimeout sys p fd .send timeoutMs

def moveConstruct (other : SockFd) : SockFd × SockFd := (other, invalidSockFd)

def destroy (fd : SockFd) : StateM (Os σ) Unit :=
  if fd ≠ invalidSockFd then closeSocket sys fd else pure ()

/-- `operator=` for two different objects: their descriptors afterwards. -/
def moveAssign (fd other : SockFd) : StateM (Os σ) (SockFd × SockFd) := do
  if fd ≠ invalidSockFd then closeSocket sys fd
  return (other, invalidSockFd)

theorem moveAssign_eq (fd other : SockFd) (os : Os σ) :
    moveAssign sys fd other os = ((other, invalidSockFd), (destroy sys fd os).2) := by
  unfold moveAssign destroy
  split_ifs
  · rfl
  · rfl

end BaseSocket

section
variable {sys p} {α : Type} {f : σ → Except ℤ α × σ} {os : Os σ} {w : σ}

theorem mapResult_ok {a : α} (h : f os.world = (.ok a, w)) :
    mapResult sys p f os = (.ok a, ⟨w, sys.errnoLeft w, os.trace⟩) := by
  rw [mapResult, bind_of_eq (Os.call_ok h)]
  rfl

theorem mapResult_error {code : ℤ} (h : f os.world = (.error code, w)) :
    mapResult sys p f os = (.error (p.lastOsError code), ⟨w, code, os.trace⟩) := by
  rw [mapResult, bind_of_eq (Os.call_error h)]
  rfl

end

theorem mapResult_keeps {α γ : Type} (view : σ → γ) {f : σ → Except ℤ α × σ}
    (same : ∀ w, view (f w).2 = view w) :
    Keeps (fun os : Os σ => view os.world) (mapResult sys p f) := by
  refine Keeps.bind (fun os => ?_) fun returned => ?_
  · rw [Os.call]
    cases answered : (f os.world).1 with
    | ok a => exact same os.world
    | error code => exact same os.world
  · cases returned with
    | none => exact fun os => rfl
    | some a => exact Keeps.pure _

end Qsox
