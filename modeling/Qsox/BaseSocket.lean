import Qsox.Kernel

/-! What every socket has: creation, the blocking mode and the pending error. -/

namespace Qsox.BaseSocket

variable {σ : Type} (k : Kernel σ) (p : Platform)

/-- `startupSockets`: only Windows has something to start. -/
def startupSockets : Except Error Unit :=
  match p with
  | .posix => .ok ()
  | .windows => if k.startup.code ≠ .success then .error k.startup else .ok ()

def newSocket (family : Family) (type : SockType) : StateM (Os σ) (Except Error SockFd) := do
  match startupSockets k p with
  | .error e => return .error e
  | .ok () =>
    match ← Os.socket k family type with
    | none => return .error (← Os.lastOsError p)
    | some sock => return .ok sock

def setNonBlocking (fd : SockFd) (nonBlocking : Bool) : StateM (Os σ) (Except Error Unit) := do
  match ← Os.ioctl k fd nonBlocking with
  | none => return .error (← Os.lastOsError p)
  | some () => return .ok ()

def getSocketError (fd : SockFd) : StateM (Os σ) Error := do
  match ← Os.soError k fd with
  | none => Os.lastOsError p
  | some err => return if err = 0 then .ofCode .success else .fromOs err

section
variable {k p} {family : Family} {type : SockType} {fd : SockFd} {nonBlocking : Bool} {os : Os σ}
  {w : σ}

theorem newSocket_unstarted {e : Error} (unstarted : startupSockets k p = .error e) :
    newSocket k p family type os = (.error e, os) := by
  rw [newSocket, unstarted]
  rfl

theorem newSocket_ok (started : startupSockets k p = .ok ())
    (h : k.socket family type os.world = (.ok fd, w)) :
    newSocket k p family type os = (.ok fd, ⟨w, k.errnoLeft w, os.trace⟩) := by
  have answered : Os.socket k family type os = _ := Os.call_ok h
  rw [newSocket, started]
  simp only []
  rw [bind_of_eq answered]
  rfl

theorem newSocket_error {code : ℤ} (started : startupSockets k p = .ok ())
    (h : k.socket family type os.world = (.error code, w)) :
    newSocket k p family type os = (.error (p.lastOsError code), ⟨w, code, os.trace⟩) := by
  have answered : Os.socket k family type os = _ := Os.call_error h
  rw [newSocket, started]
  simp only []
  rw [bind_of_eq answered]
  rfl

theorem setNonBlocking_ok (h : k.ioctl fd nonBlocking os.world = (.ok (), w)) :
    setNonBlocking k p fd nonBlocking os = (.ok (), ⟨w, k.errnoLeft w, os.trace⟩) := by
  have answered : Os.ioctl k fd nonBlocking os = _ := Os.call_ok h
  rw [setNonBlocking, bind_of_eq answered]
  rfl

theorem setNonBlocking_error {code : ℤ} (h : k.ioctl fd nonBlocking os.world = (.error code, w)) :
    setNonBlocking k p fd nonBlocking os = (.error (p.lastOsError code), ⟨w, code, os.trace⟩) := by
  have answered : Os.ioctl k fd nonBlocking os = _ := Os.call_error h
  rw [setNonBlocking, bind_of_eq answered]
  rfl

end

variable {k p} {P : Os σ → Prop}

theorem setNonBlocking_ensures {fd : SockFd} {nonBlocking : Bool}
    {Q : Except Error Unit → Os σ → Prop}
    (ok : ∀ os w, P os → k.ioctl fd nonBlocking os.world = (.ok (), w) →
      Q (.ok ()) ⟨w, k.errnoLeft w, os.trace⟩)
    (failed : ∀ os code w, P os → k.ioctl fd nonBlocking os.world = (.error code, w) →
      Q (.error (p.lastOsError code)) ⟨w, code, os.trace⟩) :
    Ensures P (setNonBlocking k p fd nonBlocking) Q := by
  refine Ensures.bind (fun returned os =>
    match returned with
    | some () => Q (.ok ()) os
    | none => Q (.error (p.lastOsError os.errno)) os) ?_ ?_
  · refine Os.call_ensures ?_ ?_
    · intro os a w hos h
      exact ok os w hos h
    · intro os code w hos h
      exact failed os code w hos h
  · intro returned
    cases returned with
    | some a => exact fun os hos => hos
    | none => exact fun os hos => hos

theorem newSocket_ensures {family : Family} {type : SockType}
    {Q : Except Error SockFd → Os σ → Prop}
    (ok : ∀ os fd w, P os → startupSockets k p = .ok () →
      k.socket family type os.world = (.ok fd, w) → Q (.ok fd) ⟨w, k.errnoLeft w, os.trace⟩)
    (unstarted : ∀ os e, P os → startupSockets k p = .error e → Q (.error e) os)
    (failed : ∀ os code w, P os → k.socket family type os.world = (.error code, w) →
      Q (.error (p.lastOsError code)) ⟨w, code, os.trace⟩) :
    Ensures P (newSocket k p family type) Q := by
  rw [newSocket]
  cases started : startupSockets k p with
  | error e => exact Ensures.pure fun os hos => unstarted os e hos started
  | ok a =>
    refine Ensures.bind (fun returned os =>
      match returned with
      | some fd => Q (.ok fd) os
      | none => Q (.error (p.lastOsError os.errno)) os) ?_ ?_
    · refine Os.call_ensures ?_ ?_
      · intro os fd w hos h
        exact ok os fd w hos started h
      · intro os code w hos h
        exact failed os code w hos h
    · intro returned
      cases returned with
      | some fd => exact fun os hos => hos
      | none => exact fun os hos => hos

end Qsox.BaseSocket
