import Qsox.Error
import Qsox.Hoare
import Qsox.SocketAddress

/-! The system calls the socket code makes, over an arbitrary world. A call
either succeeds or fails with an error code; `errno` holds the code of a failed
call and whatever a successful one leaves there. -/

namespace Qsox

abbrev SockFd := ℤ

inductive Family
  | inet
  | inet6
  deriving DecidableEq, Repr

inductive SockType
  | stream
  | dgram
  deriving DecidableEq, Repr

def SocketAddress.family (a : SocketAddress) : Family :=
  match a.address with
  | .v4 _ => .inet
  | .v6 _ => .inet6

structure PollEvents where
  pollin : Bool
  pollout : Bool
  deriving DecidableEq, Repr

structure Revents where
  pollin : Bool
  pollout : Bool
  pollhup : Bool
  pollerr : Bool
  deriving DecidableEq, Repr

structure FdSets where
  write : Bool
  except : Bool
  deriving DecidableEq, Repr

structure Timeval where
  sec : Int32
  usec : Int32
  deriving DecidableEq, Repr

theorem toInt_seconds (timeoutMs : Int32) : (timeoutMs / 1000).toInt = timeoutMs.toInt.tdiv 1000 :=
  Int32.toInt_div_of_ne_right _ _ (by decide)

theorem toInt_fraction (timeoutMs : Int32) {k : Int32} (pos : 0 ≤ k.toInt)
    (small : k.toInt ≤ 1000000) :
    (timeoutMs % 1000 * k).toInt = timeoutMs.toInt.tmod 1000 * k.toInt := by
  have thousand : (1000 : Int32).toInt = 1000 := by decide
  have above : timeoutMs.toInt.tmod 1000 < 1000 := Int.tmod_lt_of_pos _ (by decide)
  have below : -1000 < timeoutMs.toInt.tmod 1000 := Int.lt_tmod_of_pos _ (by decide)
  have upper : timeoutMs.toInt.tmod 1000 * k.toInt ≤ 1000 * k.toInt :=
    mul_le_mul_of_nonneg_right above.le pos
  have lower : -1000 * k.toInt ≤ timeoutMs.toInt.tmod 1000 * k.toInt :=
    mul_le_mul_of_nonneg_right below.le pos
  rw [Int32.toInt_mul, Int32.toInt_mod, thousand]
  exact Int.bmod_eq_of_le (by omega) (by omega)

/-- One descriptor at a time is waited for, so a count is `0` or `1`: `none`, or
what was found. With its answer `poll` tells the milliseconds it waited, which
the program does not see. The clock counts nanoseconds. -/
structure Kernel (σ : Type) where
  startup : Error
  socket : Family → SockType → σ → Except ℤ SockFd × σ
  close : SockFd → σ → Except ℤ Unit × σ
  ioctl : SockFd → Bool → σ → Except ℤ Unit × σ
  connect : SockFd → SocketAddress → σ → Except ℤ Unit × σ
  poll : SockFd → PollEvents → Int32 → σ → (Except ℤ (Option Revents) × ℤ) × σ
  select : SockFd → Timeval → σ → Except ℤ (Option FdSets) × σ
  soError : SockFd → σ → Except ℤ ℤ × σ
  now : σ → ℤ × σ
  errnoLeft : σ → ℤ

inductive Event
  | now (reading : ℤ)
  | connect (returned : Except ℤ Unit)
  | poll (timeout : Int32) (returned : Except ℤ (Option Revents)) (waited : ℤ)

structure Os (σ : Type) where
  world : σ
  errno : ℤ
  trace : List Event

namespace Os

variable {σ α : Type} (k : Kernel σ)

/-- The state after a call, with the value it returned; `none` is `-1`. -/
def after (os : Os σ) (returned : Except ℤ α) (world : σ) : Option α × Os σ :=
  match returned with
  | .ok a => (some a, { os with world := world, errno := k.errnoLeft world })
  | .error code => (none, { os with world := world, errno := code })

def answer (returned : Option α) (os : Os σ) : Except ℤ α :=
  match returned with
  | some a => .ok a
  | none => .error os.errno

theorem answer_after (os : Os σ) (returned : Except ℤ α) (world : σ) :
    (after k os returned world).2.answer (after k os returned world).1 = returned := by
  cases returned with
  | ok a => rfl
  | error code => rfl

theorem world_after (os : Os σ) (returned : Except ℤ α) (world : σ) :
    (after k os returned world).2.world = world := by
  cases returned with
  | ok a => rfl
  | error code => rfl

def record (event : Event) (os : Os σ) : Os σ := { os with trace := os.trace ++ [event] }

def call (f : σ → Except ℤ α × σ) : StateM (Os σ) (Option α) := fun os =>
  after k os (f os.world).1 (f os.world).2

def socket (family : Family) (type : SockType) : StateM (Os σ) (Option SockFd) :=
  call k (k.socket family type)

def close (fd : SockFd) : StateM (Os σ) (Option Unit) := call k (k.close fd)

def ioctl (fd : SockFd) (nonBlocking : Bool) : StateM (Os σ) (Option Unit) :=
  call k (k.ioctl fd nonBlocking)

def connect (fd : SockFd) (address : SocketAddress) : StateM (Os σ) (Option Unit) := fun os =>
  let answer := k.connect fd address os.world
  (os.record (.connect answer.1)).after k answer.1 answer.2

def poll (fd : SockFd) (events : PollEvents) (timeout : Int32) :
    StateM (Os σ) (Option (Option Revents)) := fun os =>
  let answer := k.poll fd events timeout os.world
  (os.record (.poll timeout answer.1.1 answer.1.2)).after k answer.1.1 answer.2

def select (fd : SockFd) (timeout : Timeval) : StateM (Os σ) (Option (Option FdSets)) :=
  call k (k.select fd timeout)

def soError (fd : SockFd) : StateM (Os σ) (Option ℤ) := call k (k.soError fd)

def now : StateM (Os σ) ℤ := fun os =>
  let answer := k.now os.world
  (answer.1, { os.record (.now answer.1) with world := answer.2 })

def getErrno : StateM (Os σ) ℤ := fun os => (os.errno, os)

def lastOsError (p : Platform) : StateM (Os σ) Error := fun os => (p.lastOsError os.errno, os)

section
variable {k} {f : σ → Except ℤ α × σ} {fd : SockFd} {address : SocketAddress} {os : Os σ} {w : σ}

theorem call_ok {a : α} (h : f os.world = (.ok a, w)) :
    call k f os = (some a, ⟨w, k.errnoLeft w, os.trace⟩) := by
  simp only [call, h, after]

theorem call_error {code : ℤ} (h : f os.world = (.error code, w)) :
    call k f os = (none, ⟨w, code, os.trace⟩) := by
  simp only [call, h, after]

theorem connect_ok (h : k.connect fd address os.world = (.ok (), w)) :
    connect k fd address os =
      (some (), ⟨w, k.errnoLeft w, os.trace ++ [.connect (.ok ())]⟩) := by
  simp only [connect, h, after, record]

theorem connect_error {code : ℤ} (h : k.connect fd address os.world = (.error code, w)) :
    connect k fd address os = (none, ⟨w, code, os.trace ++ [.connect (.error code)]⟩) := by
  simp only [connect, h, after, record]

theorem poll_ok {events : PollEvents} {timeout : Int32} {found : Option Revents} {waited : ℤ}
    (h : k.poll fd events timeout os.world = ((.ok found, waited), w)) :
    poll k fd events timeout os =
      (some found, ⟨w, k.errnoLeft w, os.trace ++ [.poll timeout (.ok found) waited]⟩) := by
  simp only [poll, h, after, record]

theorem poll_error {events : PollEvents} {timeout : Int32} {code waited : ℤ}
    (h : k.poll fd events timeout os.world = ((.error code, waited), w)) :
    poll k fd events timeout os =
      (none, ⟨w, code, os.trace ++ [.poll timeout (.error code) waited]⟩) := by
  simp only [poll, h, after, record]

theorem now_eq {reading : ℤ} (h : k.now os.world = (reading, w)) :
    now k os = (reading, ⟨w, os.errno, os.trace ++ [.now reading]⟩) := by
  simp only [now, h, record]

end

variable {k} {P : Os σ → Prop}

theorem call_ensures {f : σ → Except ℤ α × σ} {Q : Option α → Os σ → Prop}
    (ok : ∀ os a w, P os → f os.world = (.ok a, w) → Q (some a) ⟨w, k.errnoLeft w, os.trace⟩)
    (failed : ∀ os code w, P os → f os.world = (.error code, w) → Q none ⟨w, code, os.trace⟩) :
    Ensures P (call k f) Q := by
  intro os hos
  rw [call]
  cases h : f os.world with
  | mk returned w =>
    cases returned with
    | ok a => exact ok os a w hos h
    | error code => exact failed os code w hos h

theorem connect_ensures {fd : SockFd} {address : SocketAddress} {Q : Option Unit → Os σ → Prop}
    (ok : ∀ os w, P os → k.connect fd address os.world = (.ok (), w) →
      Q (some ()) ⟨w, k.errnoLeft w, os.trace ++ [.connect (.ok ())]⟩)
    (failed : ∀ os code w, P os → k.connect fd address os.world = (.error code, w) →
      Q none ⟨w, code, os.trace ++ [.connect (.error code)]⟩) :
    Ensures P (connect k fd address) Q := by
  intro os hos
  simp only [connect]
  cases h : k.connect fd address os.world with
  | mk returned w =>
    cases returned with
    | ok a => exact ok os w hos h
    | error code => exact failed os code w hos h

theorem poll_ensures {fd : SockFd} {events : PollEvents} {timeout : Int32}
    {Q : Option (Option Revents) → Os σ → Prop}
    (ok : ∀ os found waited w, P os →
      k.poll fd events timeout os.world = ((.ok found, waited), w) →
      Q (some found) ⟨w, k.errnoLeft w, os.trace ++ [.poll timeout (.ok found) waited]⟩)
    (failed : ∀ os code waited w, P os →
      k.poll fd events timeout os.world = ((.error code, waited), w) →
      Q none ⟨w, code, os.trace ++ [.poll timeout (.error code) waited]⟩) :
    Ensures P (poll k fd events timeout) Q := by
  intro os hos
  simp only [poll]
  cases h : k.poll fd events timeout os.world with
  | mk answer w =>
    obtain ⟨returned, waited⟩ := answer
    cases returned with
    | ok found => exact ok os found waited w hos h
    | error code => exact failed os code waited w hos h

theorem now_ensures {Q : ℤ → Os σ → Prop}
    (read : ∀ os reading w, P os → k.now os.world = (reading, w) →
      Q reading ⟨w, os.errno, os.trace ++ [.now reading]⟩) : Ensures P (now k) Q := by
  intro os hos
  simp only [now]
  cases h : k.now os.world with
  | mk reading w => exact read os reading w hos h

theorem getErrno_ensures : Ensures P getErrno fun errno os => P os ∧ os.errno = errno :=
  fun _ hos => ⟨hos, rfl⟩

theorem lastOsError_ensures {p : Platform} :
    Ensures P (lastOsError p) fun err os => P os ∧ p.lastOsError os.errno = err :=
  fun _ hos => ⟨hos, rfl⟩

end Os
end Qsox
