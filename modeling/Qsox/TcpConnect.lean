import Qsox.BaseSocket
import Qsox.Hoare

/-! `TcpStream::connect` in both builds. A kernel is taken to keep to what is
documented about connection attempts; then a stream is only returned once its
connection is there, but for one path of the Windows build. -/

namespace Qsox.TcpConnect

open BaseSocket

section
variable {σ : Type} (k : Kernel σ)

namespace Posix

def connectRound (fd : SockFd) (address : SocketAddress) (nonBlocking : Bool) :
    StateM (Os σ) (Option (Except Error Unit)) := do
  match ← Os.connect k fd address with
  | some () => return some (.ok ())
  | none =>
    let errno ← Os.getErrno
    if nonBlocking ∧ errno = Qsox.Posix.einprogress then return some (.ok ())
    else if errno = Qsox.Posix.eintr then return none
    else if errno = Qsox.Posix.eisconn then return some (.ok ())
    else return some (.error (← Os.lastOsError .posix))

def doConnect (fd : SockFd) (address : SocketAddress) (nonBlocking : Bool) (rounds : ℕ) :
    StateM (Os σ) (Option (Except Error Unit)) := do
  if nonBlocking then
    match ← setNonBlocking k .posix fd true with
    | .error e => return some (.error e)
    | .ok () => whileTrue (connectRound k fd address nonBlocking) rounds
  else whileTrue (connectRound k fd address nonBlocking) rounds

/-- `duration_cast<milliseconds>` of the time since `start`. -/
def elapsedMs (start reading : ℤ) : ℤ := (reading - start).tdiv 1000000

def pollRound (fd : SockFd) (timeoutMs : Int32) (start : ℤ) :
    StateM (Os σ) (Option (Except Error Unit)) := do
  let elapsed := elapsedMs start (← Os.now k)
  if timeoutMs.toInt ≤ elapsed then return some (.error (.ofCode .timedOut))
  else
    match ← Os.poll k fd ⟨false, true⟩ (timeoutMs - Int32.ofInt elapsed) with
    | none =>
      if (← Os.getErrno) ≠ Qsox.Posix.eintr then
        return some (.error (← Os.lastOsError .posix))
      else return none
    | some none => return none
    | some (some revents) =>
      if revents.pollhup ∨ revents.pollerr then
        return some (.error (← getSocketError k .posix fd))
      else return some (.ok ())

def doConnectTimeout (fd : SockFd) (address : SocketAddress) (timeoutMs : Int32) (rounds : ℕ) :
    StateM (Os σ) (Option (Except Error Unit)) := do
  if timeoutMs ≤ 0 then doConnect k fd address false rounds
  else
    match ← setNonBlocking k .posix fd true with
    | .error e => return some (.error e)
    | .ok () =>
      let cres ← Os.connect k fd address
      match ← setNonBlocking k .posix fd false with
      | .error e => return some (.error e)
      | .ok () =>
        match cres with
        | some () => return some (.ok ())
        | none =>
          -- the value of `errno` has gone through the `ioctl` in between
          if (← Os.getErrno) = Qsox.Posix.einprogress then
            let start ← Os.now k
            whileTrue (pollRound k fd timeoutMs start) rounds
          else return some (.error (← Os.lastOsError .posix))

section
variable {k} {fd : SockFd} {address : SocketAddress} {timeoutMs : Int32} {rounds : ℕ} {os : Os σ}
  {w₁ w₂ w₃ : σ} {code : ℤ}

theorem doConnectTimeout_unset (positive : 0 < timeoutMs)
    (set : k.ioctl fd true os.world = (.error code, w₁)) :
    doConnectTimeout k fd address timeoutMs rounds os =
      (some (.error (Platform.posix.lastOsError code)), ⟨w₁, code, os.trace⟩) := by
  rw [doConnectTimeout, if_neg (Int32.not_le.mpr positive), bind_of_eq (setNonBlocking_error set)]
  rfl

variable (positive : 0 < timeoutMs) (set : k.ioctl fd true os.world = (.ok (), w₁))
include positive set

theorem doConnectTimeout_unreset {returned : Except ℤ Unit}
    (answered : k.connect fd address w₁ = (returned, w₂))
    (reset : k.ioctl fd false w₂ = (.error code, w₃)) :
    doConnectTimeout k fd address timeoutMs rounds os =
      (some (.error (Platform.posix.lastOsError code)),
        ⟨w₃, code, os.trace ++ [.connect returned]⟩) := by
  rw [doConnectTimeout, if_neg (Int32.not_le.mpr positive), bind_of_eq (setNonBlocking_ok set)]
  cases returned with
  | ok a =>
    simp only []
    rw [bind_of_eq (Os.connect_ok answered), bind_of_eq (setNonBlocking_error reset)]
    rfl
  | error refused =>
    simp only []
    rw [bind_of_eq (Os.connect_error answered), bind_of_eq (setNonBlocking_error reset)]
    rfl

theorem doConnectTimeout_connected (answered : k.connect fd address w₁ = (.ok (), w₂))
    (reset : k.ioctl fd false w₂ = (.ok (), w₃)) :
    doConnectTimeout k fd address timeoutMs rounds os =
      (some (.ok ()), ⟨w₃, k.errnoLeft w₃, os.trace ++ [.connect (.ok ())]⟩) := by
  rw [doConnectTimeout, if_neg (Int32.not_le.mpr positive), bind_of_eq (setNonBlocking_ok set)]
  simp only []
  rw [bind_of_eq (Os.connect_ok answered), bind_of_eq (setNonBlocking_ok reset)]
  rfl

theorem doConnectTimeout_refused (answered : k.connect fd address w₁ = (.error code, w₂))
    (reset : k.ioctl fd false w₂ = (.ok (), w₃))
    (other : k.errnoLeft w₃ ≠ Qsox.Posix.einprogress) :
    doConnectTimeout k fd address timeoutMs rounds os =
      (some (.error (Platform.posix.lastOsError (k.errnoLeft w₃))),
        ⟨w₃, k.errnoLeft w₃, os.trace ++ [.connect (.error code)]⟩) := by
  rw [doConnectTimeout, if_neg (Int32.not_le.mpr positive), bind_of_eq (setNonBlocking_ok set)]
  simp only []
  rw [bind_of_eq (Os.connect_error answered), bind_of_eq (setNonBlocking_ok reset)]
  exact congrFun (if_neg other) _

theorem doConnectTimeout_waits (answered : k.connect fd address w₁ = (.error code, w₂))
    (reset : k.ioctl fd false w₂ = (.ok (), w₃))
    (pending : k.errnoLeft w₃ = Qsox.Posix.einprogress) :
    doConnectTimeout k fd address timeoutMs rounds os =
      (Os.now k >>= fun start => whileTrue (pollRound k fd timeoutMs start) rounds)
        ⟨w₃, k.errnoLeft w₃, os.trace ++ [.connect (.error code)]⟩ := by
  rw [doConnectTimeout, if_neg (Int32.not_le.mpr positive), bind_of_eq (setNonBlocking_ok set)]
  simp only []
  rw [bind_of_eq (Os.connect_error answered), bind_of_eq (setNonBlocking_ok reset)]
  exact congrFun (if_pos pending) _

end

section
variable {k} {fd : SockFd} {timeoutMs : Int32} {start reading waited : ℤ} {os : Os σ} {w w' : σ}
  (look : k.now os.world = (reading, w)) (early : elapsedMs start reading < timeoutMs.toInt)
include look early

theorem pollRound_found {revents : Revents}
    (answer : k.poll fd ⟨false, true⟩ (timeoutMs - Int32.ofInt (elapsedMs start reading)) w =
      ((.ok (some revents), waited), w'))
    (up : revents.pollhup = false) (good : revents.pollerr = false) :
    pollRound k fd timeoutMs start os = (some (.ok ()),
      ⟨w', k.errnoLeft w', os.trace ++ [.now reading] ++
        [.poll (timeoutMs - Int32.ofInt (elapsedMs start reading)) (.ok (some revents))
          waited]⟩) := by
  rw [pollRound, bind_of_eq (Os.now_eq look), if_neg (not_le.mpr early),
    bind_of_eq (Os.poll_ok answer)]
  simp only [up, good, Bool.false_eq_true, or_self, if_false]
  rfl

theorem pollRound_again {returned : Except ℤ (Option Revents)}
    (answer : k.poll fd ⟨false, true⟩ (timeoutMs - Int32.ofInt (elapsedMs start reading)) w =
      ((returned, waited), w'))
    (nothing : returned = .ok none ∨ returned = .error Qsox.Posix.eintr) :
    ∃ os', pollRound k fd timeoutMs start os = (none, os') ∧ os'.world = w' ∧
      os'.trace = os.trace ++ [.now reading] ++
        [.poll (timeoutMs - Int32.ofInt (elapsedMs start reading)) returned waited] := by
  rw [pollRound, bind_of_eq (Os.now_eq look), if_neg (not_le.mpr early)]
  rcases nothing with rfl | rfl
  · rw [bind_of_eq (Os.poll_ok answer)]
    exact ⟨_, rfl, rfl, rfl⟩
  · rw [bind_of_eq (Os.poll_error answer)]
    exact ⟨_, rfl, rfl, rfl⟩

end

end Posix

namespace Windows

def connectOnce (fd : SockFd) (address : SocketAddress) (nonBlocking : Bool) :
    StateM (Os σ) (Except Error Unit) := do
  match ← Os.connect k fd address with
  | some () => return .ok ()
  | none =>
    let err ← Os.lastOsError .windows
    if nonBlocking ∧ (err.code = .wouldBlock ∨ err.code = .inProgress) then return .ok ()
    else return .error err

def doConnect (fd : SockFd) (address : SocketAddress) (nonBlocking : Bool) :
    StateM (Os σ) (Except Error Unit) := do
  if nonBlocking then
    match ← setNonBlocking k .windows fd true with
    | .error e => return .error e
    | .ok () => connectOnce k fd address nonBlocking
  else connectOnce k fd address nonBlocking

def selectWritable (fd : SockFd) (timeoutMs : Int32) : StateM (Os σ) (Except Error Unit) := do
  match ← Os.select k fd ⟨timeoutMs / 1000, timeoutMs % 1000 * 1000⟩ with
  | none => return .error (← Os.lastOsError .windows)
  | some none => return .error (.ofCode .timedOut)
  | some (some sets) =>
    if sets.write then return .ok ()
    else
      let err ← getSocketError k .windows fd
      if err.code ≠ .success then return .error err else return .ok ()

def doConnectTimeout (fd : SockFd) (address : SocketAddress) (timeoutMs : Int32) :
    StateM (Os σ) (Except Error Unit) := do
  if timeoutMs ≤ 0 then doConnect k fd address false
  else
    let result ← doConnect k fd address true
    match ← setNonBlocking k .windows fd false with
    | .error e => return .error e
    | .ok () =>
      match result with
      | .error err =>
        if err.code = .wouldBlock then selectWritable k fd timeoutMs else return .error err
      | .ok () => return .ok ()

end Windows

def establish (p : Platform) (fd : SockFd) (address : SocketAddress) (nonBlocking : Bool)
    (timeoutMs : Int32) (rounds : ℕ) : StateM (Os σ) (Option (Except Error Unit)) :=
  match p with
  | .posix =>
    if ¬ nonBlocking ∧ 0 < timeoutMs then Posix.doConnectTimeout k fd address timeoutMs rounds
    else Posix.doConnect k fd address nonBlocking rounds
  | .windows =>
    if ¬ nonBlocking ∧ 0 < timeoutMs then some <$> Windows.doConnectTimeout k fd address timeoutMs
    else some <$> Windows.doConnect k fd address nonBlocking

/-- The stream is the descriptor it holds; an early return destroys it. -/
def connectInternal (p : Platform) (address : SocketAddress) (nonBlocking : Bool)
    (timeoutMs : Int32) (rounds : ℕ) : StateM (Os σ) (Option (Except Error SockFd)) := do
  match ← newSocket k p address.family .stream with
  | .error e => return some (.error e)
  | .ok fd =>
    match ← establish k p fd address nonBlocking timeoutMs rounds with
    | none => return none
    | some (.ok ()) => return some (.ok fd)
    | some (.error e) =>
      let _ ← Os.close k fd
      return some (.error e)

def connect (p : Platform) (address : SocketAddress) (timeoutMs : Int32) (rounds : ℕ) :
    StateM (Os σ) (Option (Except Error SockFd)) :=
  connectInternal k p address false timeoutMs rounds

def connectNonBlocking (p : Platform) (address : SocketAddress) (rounds : ℕ) :
    StateM (Os σ) (Option (Except Error SockFd)) :=
  connectInternal k p address true 0 rounds

end

end Qsox.TcpConnect
