import Qsox.TcpConnected
import Qsox.TcpStream

/-! What becomes of the code of a failed call before `errno` is looked at. In the runs to
compare with, every call hands over the code it has failed with, and nothing is
read later. -/

namespace Qsox

open BaseSocket

section
variable {σ α : Type}

def Os.withCode (program : StateM (Os σ) (Option α)) : StateM (Os σ) (Except ℤ α) := fun os =>
  let out := program os
  (out.2.answer out.1, out.2)

/-- The same value and the same calls; only `errno` may differ. -/
structure SameRun (real reference : α × Os σ) : Prop where
  returned : real.1 = reference.1
  world : real.2.world = reference.2.world
  trace : real.2.trace = reference.2.trace

theorem SameRun.refl (run : α × Os σ) : SameRun run run := ⟨rfl, rfl, rfl⟩

theorem SameRun.of_eq {real reference : α × Os σ} (same : real = reference) :
    SameRun real reference := same ▸ SameRun.refl real

end

namespace ByCode

section
variable {σ α : Type} (k : Kernel σ) (p : Platform)

def mapResult (program : StateM (Os σ) (Option α)) : StateM (Os σ) (Except Error α) := do
  match ← Os.withCode program with
  | .error code => return .error (p.lastOsError code)
  | .ok a => return .ok a

def newSocket (family : Family) (type : SockType) : StateM (Os σ) (Except Error SockFd) :=
  match startupSockets k p with
  | .error e => pure (.error e)
  | .ok () => mapResult p (Os.socket k family type)

def setNonBlocking (fd : SockFd) (nonBlocking : Bool) : StateM (Os σ) (Except Error Unit) :=
  mapResult p (Os.ioctl k fd nonBlocking)

def getSocketError (fd : SockFd) : StateM (Os σ) Error := do
  match ← Os.withCode (Os.soError k fd) with
  | .error code => return p.lastOsError code
  | .ok err => return if err = 0 then .ofCode .success else .fromOs err

def connectRound (fd : SockFd) (address : SocketAddress) (nonBlocking : Bool) :
    StateM (Os σ) (Option (Except Error Unit)) := do
  match ← Os.withCode (Os.connect k fd address) with
  | .ok () => return some (.ok ())
  | .error code =>
    if nonBlocking ∧ code = Qsox.Posix.einprogress then return some (.ok ())
    else if code = Qsox.Posix.eintr then return none
    else if code = Qsox.Posix.eisconn then return some (.ok ())
    else return some (.error (Platform.posix.lastOsError code))

def pollRound (fd : SockFd) (timeoutMs : Int32) (start : ℤ) :
    StateM (Os σ) (Option (Except Error Unit)) := do
  let elapsed := TcpConnect.Posix.elapsedMs start (← Os.now k)
  if timeoutMs.toInt ≤ elapsed then return some (.error (.ofCode .timedOut))
  else
    match ← Os.withCode (Os.poll k fd ⟨false, true⟩ (timeoutMs - Int32.ofInt elapsed)) with
    | .error code =>
      if code ≠ Qsox.Posix.eintr then return some (.error (Platform.posix.lastOsError code))
      else return none
    | .ok none => return none
    | .ok (some revents) =>
      if revents.pollhup ∨ revents.pollerr then
        return some (.error (← getSocketError k .posix fd))
      else return some (.ok ())

def doConnectTimeout (fd : SockFd) (address : SocketAddress) (timeoutMs : Int32) (rounds : ℕ) :
    StateM (Os σ) (Option (Except Error Unit)) := do
  if timeoutMs ≤ 0 then whileTrue (connectRound k fd address false) rounds
  else
    match ← setNonBlocking k .posix fd true with
    | .error e => return some (.error e)
    | .ok () =>
      let cres ← Os.withCode (Os.connect k fd address)
      match ← setNonBlocking k .posix fd false with
      | .error e => return some (.error e)
      | .ok () =>
        match cres with
        | .ok () => return some (.ok ())
        | .error code =>
          if code = Qsox.Posix.einprogress then
            let start ← Os.now k
            whileTrue (pollRound k fd timeoutMs start) rounds
          else return some (.error (Platform.posix.lastOsError code))

end

section
variable {σ : Type} (sys : Sys σ) (p : Platform)

def closeAndFail (fd : SockFd) (code : ℤ) : StateM (Os σ) (Except Error SockFd) := do
  closeSocket sys fd
  return .error (p.lastOsError code)

def bindNewSocket (address : SocketAddress) (sock : SockFd) :
    StateM (Os σ) (Except Error SockFd) := do
  let m := SockAddrAny.ofSocketAddress sys.abi address
  match ← Os.withCode (Os.call sys.kernel (sys.bind sock m (SockAddrAny.size sys.abi m))) with
  | .error code => closeAndFail sys p sock code
  | .ok () => return .ok sock

def newBoundSocket (address : SocketAddress) (type : SockType) :
    StateM (Os σ) (Except Error SockFd) :=
  unwrap (newSocket sys.kernel p address.family type) fun sock => do
    if address.family = .inet6 then
      match ← Os.withCode (Os.call sys.kernel (sys.setsockopt sock (.v6only 0))) with
      | .error code => closeAndFail sys p sock code
      | .ok () => bindNewSocket sys p address sock
    else bindNewSocket sys p address sock

def listenerBind (address : SocketAddress) : StateM (Os σ) (Except Error TcpListener) :=
  unwrap (newBoundSocket sys p address .stream) fun sock => do
    match ← Os.withCode (Os.call sys.kernel (sys.listen sock 1024)) with
    | .error code =>
      let res ← closeAndFail sys p sock code
      return res.map TcpListener.mk
    | .ok () => return .ok ⟨sock⟩

end

section
variable {σ α β : Type} {k : Kernel σ} {p : Platform}

theorem read_at_once {program : StateM (Os σ) (Option α)} {next : Option α → StateM (Os σ) β}
    {byCode : Except ℤ α → StateM (Os σ) β}
    (same : ∀ returned os, next returned os = byCode (os.answer returned) os) :
    (program >>= next) = (Os.withCode program >>= byCode) :=
  funext fun os => same (program os).1 (program os).2

theorem newSocket_eq (family : Family) (type : SockType) :
    BaseSocket.newSocket k p family type = newSocket k p family type := by
  unfold BaseSocket.newSocket newSocket mapResult
  cases startupSockets k p with
  | error e => rfl
  | ok a =>
    refine read_at_once fun returned os => ?_
    cases returned with
    | none => rfl
    | some sock => rfl

theorem setNonBlocking_eq (fd : SockFd) (nonBlocking : Bool) :
    BaseSocket.setNonBlocking k p fd nonBlocking = setNonBlocking k p fd nonBlocking := by
  refine read_at_once fun returned os => ?_
  cases returned with
  | none => rfl
  | some a => rfl

theorem getSocketError_eq (fd : SockFd) :
    BaseSocket.getSocketError k p fd = getSocketError k p fd := by
  refine read_at_once fun returned os => ?_
  cases returned with
  | none => rfl
  | some err => rfl

theorem connectRound_eq (fd : SockFd) (address : SocketAddress) (nonBlocking : Bool) :
    TcpConnect.Posix.connectRound k fd address nonBlocking =
      connectRound k fd address nonBlocking := by
  refine read_at_once fun returned os => ?_
  cases returned with
  | some a => rfl
  | none =>
    change (if _ then _ else if _ then _ else if _ then _ else _ : StateM (Os σ) _) os =
      (if _ then _ else if _ then _ else if _ then _ else _ : StateM (Os σ) _) os
    split_ifs
    · rfl
    · rfl
    · rfl
    · rfl

theorem pollRound_eq (fd : SockFd) (timeoutMs : Int32) (start : ℤ) :
    TcpConnect.Posix.pollRound k fd timeoutMs start = pollRound k fd timeoutMs start := by
  unfold TcpConnect.Posix.pollRound pollRound
  refine bind_congr fun reading => if_congr Iff.rfl rfl ?_
  refine read_at_once fun returned os => ?_
  cases returned with
  | none =>
    change (if _ then _ else _ : StateM (Os σ) _) os = (if _ then _ else _ : StateM (Os σ) _) os
    split_ifs
    · rfl
    · rfl
  | some found =>
    rw [getSocketError_eq]
    cases found with
    | none => rfl
    | some revents => rfl

theorem doConnect_eq (fd : SockFd) (address : SocketAddress) (rounds : ℕ) :
    TcpConnect.Posix.doConnect k fd address false rounds =
      whileTrue (connectRound k fd address false) rounds := by
  rw [← connectRound_eq]
  rfl

end
end ByCode

section
variable {σ : Type} (sys : Sys σ) (p : Platform)

/-- Whether `close` succeeds or fails, it leaves the same error behind. -/
def CloseKeeps (fd : SockFd) (code : ℤ) (w : σ) : Prop :=
  match sys.close fd w with
  | (.ok (), w') => p.lastOsError (sys.errnoLeft w') = p.lastOsError code
  | (.error refused, _) => p.lastOsError refused = p.lastOsError code

def CallKeeps (fd : SockFd) (answer : Except ℤ Unit × σ) (rest : σ → Prop) : Prop :=
  match answer with
  | (.error code, w) => CloseKeeps sys p fd code w
  | (.ok (), w) => rest w

def BindKeeps (address : SocketAddress) (rest : SockFd → σ → Prop) (fd : SockFd) (w : σ) : Prop :=
  let m := SockAddrAny.ofSocketAddress sys.abi address
  CallKeeps sys p fd (sys.bind fd m (SockAddrAny.size sys.abi m) w) (rest fd)

def NewBoundKeeps (address : SocketAddress) (type : SockType) (rest : SockFd → σ → Prop) (w : σ) :
    Prop :=
  startupSockets sys.kernel p = .ok () → ∀ fd w', sys.socket address.family type w = (.ok fd, w') →
    if address.family = .inet6 then
      CallKeeps sys p fd (sys.setsockopt fd (.v6only 0) w') (BindKeeps sys p address rest fd)
    else BindKeeps sys p address rest fd w'

def ListenerKeeps (address : SocketAddress) (w : σ) : Prop :=
  NewBoundKeeps sys p address .stream
    (fun fd w' => CallKeeps sys p fd (sys.listen fd 1024 w') fun _ => True) w

/-- The `ioctl` that ends the non-blocking mode leaves the error of `connect` behind,
and whether it was `EINPROGRESS`. -/
def ConnectKeeps (k : Kernel σ) (fd : SockFd) (address : SocketAddress) (w : σ) : Prop :=
  ∀ w₁ code w₂ w₃, k.ioctl fd true w = (.ok (), w₁) →
    k.connect fd address w₁ = (.error code, w₂) → k.ioctl fd false w₂ = (.ok (), w₃) →
      (k.errnoLeft w₃ = Posix.einprogress ↔ code = Posix.einprogress) ∧
        Platform.posix.lastOsError (k.errnoLeft w₃) = Platform.posix.lastOsError code

end

section
variable {σ α β : Type} {sys : Sys σ} {p : Platform} {fd : SockFd} {os : Os σ}

theorem sameRun_error_iff {e e' : Error} :
    SameRun (.error e, os) ((.error e' : Except Error α), os) ↔ e = e' := by
  constructor
  · intro h
    exact Except.error.inj h.returned
  · rintro rfl
    exact SameRun.refl _

theorem closeKeeps_iff {code : ℤ} :
    CloseKeeps sys p fd code os.world ↔
      p.lastOsError (Os.close sys.kernel fd os).2.errno = p.lastOsError code := by
  unfold CloseKeeps
  cases closed : sys.close fd os.world with
  | mk returned w =>
    cases returned with
    | ok a =>
      have called : Os.close sys.kernel fd os = _ := Os.call_ok closed
      rw [called]
      rfl
    | error refused =>
      have called : Os.close sys.kernel fd os = _ := Os.call_error closed
      rw [called]

theorem call_sameRun_iff {f : σ → Except ℤ Unit × σ}
    {next : Option Unit → StateM (Os σ) (Except Error α)}
    {byCode : Except ℤ Unit → StateM (Os σ) (Except Error α)} {rest : σ → Prop}
    (failed : ∀ s, next none s =
      (.error (p.lastOsError (Os.close sys.kernel fd s).2.errno), (Os.close sys.kernel fd s).2))
    (failedBy : ∀ code s, byCode (.error code) s =
      (.error (p.lastOsError code), (Os.close sys.kernel fd s).2))
    (going : ∀ w, SameRun (next (some ()) ⟨w, sys.errnoLeft w, os.trace⟩)
      (byCode (.ok ()) ⟨w, sys.errnoLeft w, os.trace⟩) ↔ rest w) :
    SameRun ((Os.call sys.kernel f >>= next) os)
        ((Os.withCode (Os.call sys.kernel f) >>= byCode) os) ↔
      CallKeeps sys p fd (f os.world) rest := by
  cases answered : f os.world with
  | mk returned w =>
    cases returned with
    | ok a =>
      have coded : Os.withCode (Os.call sys.kernel f) os =
          (.ok (), ⟨w, sys.errnoLeft w, os.trace⟩) := by
        rw [Os.withCode, Os.call_ok answered]
        rfl
      rw [bind_of_eq (Os.call_ok answered), bind_of_eq coded]
      exact going w
    | error code =>
      have coded : Os.withCode (Os.call sys.kernel f) os = (.error code, ⟨w, code, os.trace⟩) := by
        rw [Os.withCode, Os.call_error answered]
        rfl
      rw [bind_of_eq (Os.call_error answered), bind_of_eq coded, failed, failedBy,
        sameRun_error_iff]
      exact closeKeeps_iff.symm

section
variable {address : SocketAddress} {next byCode : SockFd → StateM (Os σ) (Except Error α)}
  {rest : SockFd → σ → Prop}
  (going : ∀ fd w, SameRun (next fd ⟨w, sys.errnoLeft w, os.trace⟩)
    (byCode fd ⟨w, sys.errnoLeft w, os.trace⟩) ↔ rest fd w)
include going

theorem bindNewSocket_sameRun_iff (fd : SockFd) (w : σ) :
    SameRun (unwrap (bindNewSocket sys p address fd) next ⟨w, sys.errnoLeft w, os.trace⟩)
        (unwrap (ByCode.bindNewSocket sys p address fd) byCode ⟨w, sys.errnoLeft w, os.trace⟩) ↔
      BindKeeps sys p address rest fd w := by
  simp only [bindNewSocket, ByCode.bindNewSocket, unwrap_bind]
  exact call_sameRun_iff (fun s => rfl) (fun code s => rfl) (going fd)

theorem newBoundSocket_sameRun_iff {type : SockType} :
    SameRun (unwrap (newBoundSocket sys p address type) next os)
        (unwrap (ByCode.newBoundSocket sys p address type) byCode os) ↔
      NewBoundKeeps sys p address type rest os.world := by
  rw [newBoundSocket, ByCode.newBoundSocket, ← ByCode.newSocket_eq, unwrap_unwrap, unwrap_unwrap,
    NewBoundKeeps]
  cases started : startupSockets sys.kernel p with
  | error e =>
    rw [unwrap_error (newSocket_unstarted started), unwrap_error (newSocket_unstarted started)]
    exact iff_of_true (SameRun.refl _) nofun
  | ok a =>
    cases made : sys.socket address.family type os.world with
    | mk returned w =>
      cases returned with
      | error code =>
        rw [unwrap_error (newSocket_error started made),
          unwrap_error (newSocket_error started made)]
        exact iff_of_true (SameRun.refl _) nofun
      | ok fd =>
        rw [unwrap_ok (newSocket_ok started made), unwrap_ok (newSocket_ok started made)]
        trans if address.family = .inet6 then
            CallKeeps sys p fd (sys.setsockopt fd (.v6only 0) w) (BindKeeps sys p address rest fd)
          else BindKeeps sys p address rest fd w
        · split_ifs
          · simp only [unwrap_bind]
            exact call_sameRun_iff (fun s => rfl) (fun code s => rfl)
              (bindNewSocket_sameRun_iff going fd)
          · exact bindNewSocket_sameRun_iff going fd w
        · constructor
          · intro keeps _ fd' w' same
            cases same
            exact keeps
          · intro keeps
            exact keeps rfl fd w rfl

end

theorem listenerBind_sameRun_iff {address : SocketAddress} :
    SameRun (TcpListener.bind sys p address os) (ByCode.listenerBind sys p address os) ↔
      ListenerKeeps sys p address os.world := by
  refine newBoundSocket_sameRun_iff fun fd w => ?_
  exact call_sameRun_iff (fun s => rfl) (fun code s => rfl)
    fun w' => iff_of_true (SameRun.refl _) trivial

end

section
variable {σ : Type} {k : Kernel σ} {fd : SockFd} {timeoutMs : Int32} {n : ℕ}

def Longer (n : ℕ) (os : Os σ) : Prop := n < os.trace.length

theorem Longer.record {os : Os σ} (h : Longer n os) (event : Event) {w : σ} {errno : ℤ} :
    Longer n ⟨w, errno, os.trace ++ [event]⟩ := by
  unfold Longer at h ⊢
  rw [List.length_append]
  exact Nat.lt_add_right _ h

theorem getSocketError_longer :
    Ensures (Longer n) (getSocketError k .posix fd) fun _ => Longer n := by
  refine Ensures.bind (fun _ => Longer n) ?_ ?_
  · exact Os.call_ensures (fun os a w hos _ => hos) fun os code w hos _ => hos
  · intro returned
    cases returned with
    | none => exact fun os hos => hos
    | some err => exact Ensures.pure fun os hos => hos

theorem pollRound_longer (start : ℤ) :
    Ensures (Longer n) (TcpConnect.Posix.pollRound k fd timeoutMs start) fun _ => Longer n := by
  refine Ensures.bind (fun _ => Longer n) ?_ ?_
  · exact Os.now_ensures fun os reading w hos _ => hos.record _
  · intro reading
    refine Ensures.ite (fun _ => Ensures.pure fun os hos => hos) fun _ => ?_
    refine Ensures.bind (fun _ => Longer n) ?_ ?_
    · exact Os.poll_ensures (fun os found waited w hos _ => hos.record _)
        fun os code waited w hos _ => hos.record _
    · intro returned
      cases returned with
      | none =>
        refine Ensures.bind (fun _ => Longer n) (fun os hos => hos) fun errno => ?_
        exact Ensures.ite (fun _ => fun os hos => hos) fun _ => Ensures.pure fun os hos => hos
      | some found =>
        cases found with
        | none => exact Ensures.pure fun os hos => hos
        | some revents =>
          refine Ensures.ite (fun _ => ?_) fun _ => Ensures.pure fun os hos => hos
          exact Ensures.bind _ getSocketError_longer fun err => Ensures.pure fun os hos => hos

theorem wait_longer (rounds : ℕ) :
    Ensures (fun os => os.trace.length = n)
      (Os.now k >>= fun start =>
        whileTrue (TcpConnect.Posix.pollRound k fd timeoutMs start) rounds)
      fun _ => Longer n := by
  refine Ensures.bind (fun _ => Longer n) ?_ fun start => ?_
  · refine Os.now_ensures fun os reading w hos _ => ?_
    unfold Longer
    rw [List.length_append, hos]
    exact Nat.lt_succ_self n
  · have round : Ensures (Longer n) (TcpConnect.Posix.pollRound k fd timeoutMs start)
        (Going (Longer n) fun _ => Longer n) := by
      refine (pollRound_longer start).weaken fun out os hos => ?_
      cases out with
      | none => exact hos
      | some r => exact hos
    refine (Ensures.whileTrue round rounds).weaken fun out os hos => ?_
    cases out with
    | none => exact hos
    | some r => exact hos

end

section
variable {σ : Type} {k : Kernel σ} {fd : SockFd} {address : SocketAddress} {timeoutMs : Int32}
  {rounds : ℕ} {os : Os σ} {w₁ w₂ w₃ : σ} {code : ℤ}

theorem ByCode.connect_eq {returned : Except ℤ Unit}
    (h : k.connect fd address os.world = (returned, w₁)) :
    Os.withCode (Os.connect k fd address) os =
      (returned, ((os.record (.connect returned)).after k returned w₁).2) := by
  cases returned with
  | ok a => rw [Os.withCode, Os.connect_ok h]; rfl
  | error code => rw [Os.withCode, Os.connect_error h]; rfl

theorem ByCode.doConnectTimeout_refused (positive : 0 < timeoutMs)
    (set : k.ioctl fd true os.world = (.ok (), w₁))
    (answered : k.connect fd address w₁ = (.error code, w₂))
    (reset : k.ioctl fd false w₂ = (.ok (), w₃)) :
    ByCode.doConnectTimeout k fd address timeoutMs rounds os =
      if code = Posix.einprogress then
        (Os.now k >>= fun start =>
          whileTrue (TcpConnect.Posix.pollRound k fd timeoutMs start) rounds)
          ⟨w₃, k.errnoLeft w₃, os.trace ++ [.connect (.error code)]⟩
      else (some (.error (Platform.posix.lastOsError code)),
        ⟨w₃, k.errnoLeft w₃, os.trace ++ [.connect (.error code)]⟩) := by
  simp only [ByCode.doConnectTimeout, ← ByCode.setNonBlocking_eq, ← ByCode.pollRound_eq]
  rw [if_neg (Int32.not_le.mpr positive), bind_of_eq (setNonBlocking_ok set)]
  simp only []
  rw [bind_of_eq (ByCode.connect_eq answered)]
  simp only []
  rw [bind_of_eq (setNonBlocking_ok reset)]
  simp only []
  split_ifs
  · rfl
  · rfl

theorem connectKeeps_iff_of_refused (set : k.ioctl fd true os.world = (.ok (), w₁))
    (answered : k.connect fd address w₁ = (.error code, w₂))
    (reset : k.ioctl fd false w₂ = (.ok (), w₃)) :
    ConnectKeeps k fd address os.world ↔
      (k.errnoLeft w₃ = Posix.einprogress ↔ code = Posix.einprogress) ∧
        Platform.posix.lastOsError (k.errnoLeft w₃) = Platform.posix.lastOsError code := by
  constructor
  · intro keeps
    exact keeps w₁ code w₂ w₃ set answered reset
  · intro keeps w₁' code' w₂' w₃' set' answered' reset'
    obtain ⟨-, rfl⟩ := Prod.mk.inj (set.symm.trans set')
    obtain ⟨same, rfl⟩ := Prod.mk.inj (answered.symm.trans answered')
    obtain ⟨-, rfl⟩ := Prod.mk.inj (reset.symm.trans reset')
    obtain rfl := Except.error.inj same
    exact keeps

theorem ByCode.doConnectTimeout_eq
    (unrefused : ∀ w₁ code w₂ w₃, 0 < timeoutMs → k.ioctl fd true os.world = (.ok (), w₁) →
      k.connect fd address w₁ = (.error code, w₂) → k.ioctl fd false w₂ ≠ (.ok (), w₃)) :
    TcpConnect.Posix.doConnectTimeout k fd address timeoutMs rounds os =
      ByCode.doConnectTimeout k fd address timeoutMs rounds os := by
  unfold TcpConnect.Posix.doConnectTimeout ByCode.doConnectTimeout
  rw [ByCode.doConnect_eq]
  split_ifs with passed
  · rfl
  · simp only [← ByCode.setNonBlocking_eq]
    cases set : k.ioctl fd true os.world with
    | mk returned w₁ =>
      cases returned with
      | error code =>
        rw [bind_of_eq (setNonBlocking_error set), bind_of_eq (setNonBlocking_error set)]
      | ok a =>
        rw [bind_of_eq (setNonBlocking_ok set), bind_of_eq (setNonBlocking_ok set)]
        simp only []
        cases answered : k.connect fd address w₁ with
        | mk returned w₂ =>
          cases returned with
          | ok a =>
            rw [bind_of_eq (Os.connect_ok answered), bind_of_eq (ByCode.connect_eq answered)]
            rfl
          | error code =>
            rw [bind_of_eq (Os.connect_error answered), bind_of_eq (ByCode.connect_eq answered)]
            cases reset : k.ioctl fd false w₂ with
            | mk returned w₃ =>
              cases returned with
              | ok a =>
                exact absurd reset (unrefused w₁ code w₂ w₃ (Int32.not_le.mp passed) set answered)
              | error code' =>
                simp only []
                rw [bind_of_eq (setNonBlocking_error reset),
                  bind_of_eq (setNonBlocking_error reset)]
                rfl

theorem doConnectTimeout_sameRun_iff :
    SameRun (TcpConnect.Posix.doConnectTimeout k fd address timeoutMs rounds os)
        (ByCode.doConnectTimeout k fd address timeoutMs rounds os) ↔
      (0 < timeoutMs → ConnectKeeps k fd address os.world) := by
  by_cases refused : ∃ w₁ code w₂ w₃, 0 < timeoutMs ∧ k.ioctl fd true os.world = (.ok (), w₁) ∧
    k.connect fd address w₁ = (.error code, w₂) ∧ k.ioctl fd false w₂ = (.ok (), w₃)
  · obtain ⟨w₁, code, w₂, w₃, positive, set, answered, reset⟩ := refused
    rw [ByCode.doConnectTimeout_refused positive set answered reset, forall_prop_of_true positive,
      connectKeeps_iff_of_refused set answered reset]
    have waited : (os.trace ++ [Event.connect (.error code)]).length <
        ((Os.now k >>= fun start =>
          whileTrue (TcpConnect.Posix.pollRound k fd timeoutMs start) rounds)
          ⟨w₃, k.errnoLeft w₃, os.trace ++ [.connect (.error code)]⟩).2.trace.length :=
      wait_longer rounds _ rfl
    by_cases left : k.errnoLeft w₃ = Posix.einprogress
    · rw [TcpConnect.Posix.doConnectTimeout_waits positive set answered reset left]
      split_ifs with pending
      · exact iff_of_true (SameRun.refl _) ⟨iff_of_true left pending, by rw [left, pending]⟩
      · -- the program waits for an attempt that has failed
        refine iff_of_false (fun same => ?_) fun keeps => pending (keeps.1.mp left)
        rw [same.trace] at waited
        exact Nat.lt_irrefl _ waited
    · rw [TcpConnect.Posix.doConnectTimeout_refused positive set answered reset left]
      split_ifs with pending
      · refine iff_of_false (fun same => ?_) fun keeps => left (keeps.1.mpr pending)
        rw [← same.trace] at waited
        exact Nat.lt_irrefl _ waited
      · rw [and_iff_right (iff_of_false left pending)]
        constructor
        · intro same
          exact Except.error.inj (Option.some.inj same.returned)
        · intro same
          exact ⟨congrArg (fun e => some (Except.error e)) same, rfl, rfl⟩
  · push Not at refused
    refine iff_of_true (SameRun.of_eq (ByCode.doConnectTimeout_eq ?_)) ?_
    · intro w₁ code w₂ w₃ positive set answered
      exact refused w₁ code w₂ w₃ positive set answered
    · intro positive w₁ code w₂ w₃ set answered reset
      exact absurd reset (refused w₁ code w₂ w₃ positive set answered)

end

/-- What has failed is reported, and decides about the wait, exactly if the calls made
before `errno` is looked at leave the error behind. -/
theorem errors_faithful_iff {σ : Type} (sys : Sys σ) (p : Platform) (os : Os σ) :
    (∀ address type, SameRun (newBoundSocket sys p address type os)
        (ByCode.newBoundSocket sys p address type os) ↔
      NewBoundKeeps sys p address type (fun _ _ => True) os.world) ∧
    (∀ address, SameRun (TcpListener.bind sys p address os) (ByCode.listenerBind sys p address os) ↔
      ListenerKeeps sys p address os.world) ∧
    ∀ fd address timeoutMs rounds,
      SameRun (TcpConnect.Posix.doConnectTimeout sys.kernel fd address timeoutMs rounds os)
          (ByCode.doConnectTimeout sys.kernel fd address timeoutMs rounds os) ↔
        (0 < timeoutMs → ConnectKeeps sys.kernel fd address os.world) := by
  refine ⟨fun address type => ?_, fun address => listenerBind_sameRun_iff,
    fun fd address timeoutMs rounds => doConnectTimeout_sameRun_iff⟩
  rw [← unwrap_pure (newBoundSocket sys p address type),
    ← unwrap_pure (ByCode.newBoundSocket sys p address type)]
  exact newBoundSocket_sameRun_iff fun fd w => iff_of_true (SameRun.refl _) trivial

/-- A port in use and a peer that refuses; the calls that succeed leave `left` in `errno`. -/
def leaving (bound : Except ℤ Unit) (left : ℤ) : Sys Unit where
  __ := Sys.refusing Posix.eaddrinuse
  socket _ _ w := (.ok 3, w)
  close _ w := (.ok (), w)
  ioctl _ _ w := (.ok (), w)
  setsockopt _ _ w := (.ok (), w)
  bind _ _ _ w := (bound, w)
  connect _ _ _ w := (.error Posix.econnrefused, w)
  errnoLeft _ := left

/-- `AddressInUse` becomes an error `0` of the system, and a refused attempt is waited for. -/
theorem errno_of_success_reported :
    (newBoundSocket (leaving (.error Posix.eaddrinuse) 0) .posix TcpConnect.localhost .stream
        ⟨(), 0, []⟩).1 = .error (.fromOs 0) ∧
      (TcpListener.bind (leaving (.ok ()) 0) .posix TcpConnect.localhost ⟨(), 0, []⟩).1 =
        .error (.fromOs 0) ∧
      (TcpConnect.Posix.doConnectTimeout (leaving (.ok ()) Posix.einprogress).kernel 3
        TcpConnect.localhost 1000 1 ⟨(), 0, []⟩).2.trace =
          [.connect (.error Posix.econnrefused), .now 0, .now 0,
            .poll 1000 (.error Posix.eaddrinuse) 0] ∧
      ¬ SameRun
        (newBoundSocket (leaving (.error Posix.eaddrinuse) 0) .posix TcpConnect.localhost .stream
          ⟨(), 0, []⟩)
        (ByCode.newBoundSocket (leaving (.error Posix.eaddrinuse) 0) .posix TcpConnect.localhost
          .stream ⟨(), 0, []⟩) ∧
      ¬ SameRun
        (TcpConnect.Posix.doConnectTimeout (leaving (.ok ()) Posix.einprogress).kernel 3
          TcpConnect.localhost 1000 1 ⟨(), 0, []⟩)
        (ByCode.doConnectTimeout (leaving (.ok ()) Posix.einprogress).kernel 3
          TcpConnect.localhost 1000 1 ⟨(), 0, []⟩) := by
  refine ⟨rfl, rfl, rfl, fun same => ?_, fun same => ?_⟩
  · have code : ErrorCode.other = .addressInUse :=
      congrArg Error.code (Except.error.inj same.returned)
    cases code
  · have calls : 4 = 1 := congrArg List.length same.trace
    cases calls

end Qsox
