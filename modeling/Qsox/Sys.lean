import Qsox.BaseSocket
import Qsox.SockAddrAny

/-! All system calls of the socket classes, with addresses as the bytes that are
handed over. The calls that `connect` makes are a part of them. -/

namespace Qsox

open Resolver (SockAddr)

structure PollRevents extends Revents where
  pollnval : Bool
  deriving DecidableEq, Repr

structure SelectSets extends FdSets where
  read : Bool
  deriving DecidableEq, Repr

inductive TimeoutKind
  | receive
  | send
  deriving DecidableEq, Repr

/-- The options that are set; a timeout is a `timeval` or, on Windows, a `DWORD`. -/
inductive SockOpt
  | v6only (on : Int32)
  | noDelay (flag : Int32)
  | linger (onoff seconds : Int32)
  | timeval (kind : TimeoutKind) (sec usec : ℤ)
  | milliseconds (kind : TimeoutKind) (value : UInt32)
  deriving DecidableEq, Repr

/-- As in `Kernel`, one descriptor at a time is waited for. -/
structure Sys (σ : Type) where
  abi : Abi
  startup : Error
  socket : Family → SockType → σ → Except ℤ SockFd × σ
  close : SockFd → σ → Except ℤ Unit × σ
  ioctl : SockFd → Bool → σ → Except ℤ Unit × σ
  setsockopt : SockFd → SockOpt → σ → Except ℤ Unit × σ
  bind : SockFd → SockAddr → ℕ → σ → Except ℤ Unit × σ
  listen : SockFd → ℕ → σ → Except ℤ Unit × σ
  accept : SockFd → σ → Except ℤ (SockFd × SockAddr) × σ
  connect : SockFd → SockAddr → ℕ → σ → Except ℤ Unit × σ
  getsockname : SockFd → σ → Except ℤ SockAddr × σ
  getpeername : SockFd → σ → Except ℤ SockAddr × σ
  send : SockFd → (data : List UInt8) → σ → Except ℤ (Fin (data.length + 1)) × σ
  sendto : SockFd → (data : List UInt8) → SockAddr → ℕ → σ → Except ℤ (Fin (data.length + 1)) × σ
  recv : SockFd → (size : ℕ) → Bool → σ → Except ℤ { bytes : List UInt8 // bytes.length ≤ size } × σ
  recvfrom : SockFd → (size : ℕ) → Bool → σ →
    Except ℤ ({ bytes : List UInt8 // bytes.length ≤ size } × SockAddr) × σ
  soError : SockFd → σ → Except ℤ ℤ × σ
  shutdown : SockFd → ℤ → σ → Except ℤ Unit × σ
  poll : SockFd → PollEvents → Int32 → σ → (Except ℤ (Option PollRevents) × ℤ) × σ
  select : SockFd → SelectSets → Timeval → σ → Except ℤ (Option SelectSets) × σ
  now : σ → ℤ × σ
  errnoLeft : σ → ℤ

namespace Sys

variable {σ : Type}

/-- The calls that `connect` makes. It looks at neither `POLLNVAL` nor the read set. -/
def kernel (sys : Sys σ) : Kernel σ where
  startup := sys.startup
  socket := sys.socket
  close := sys.close
  ioctl := sys.ioctl
  connect fd address :=
    let m := SockAddrAny.ofSocketAddress sys.abi address
    sys.connect fd m (SockAddrAny.size sys.abi m)
  poll fd events timeout w :=
    let answer := sys.poll fd events timeout w
    ((answer.1.1.map fun found => found.map PollRevents.toRevents, answer.1.2), answer.2)
  select fd timeout w :=
    let answer := sys.select fd ⟨⟨true, true⟩, false⟩ timeout w
    (answer.1.map fun found => found.map SelectSets.toFdSets, answer.2)
  soError := sys.soError
  now := sys.now
  errnoLeft := sys.errnoLeft

end Sys

/-- The length that the system gets: on Windows `len` is an `int`, of which these are
the bits. -/
def Platform.len (p : Platform) (size : ℕ) : ℕ :=
  match p with
  | .posix => size
  | .windows => size % 2 ^ 32

@[simp] theorem Platform.len_posix (size : ℕ) : Platform.posix.len size = size := rfl

@[simp] theorem Platform.len_zero (p : Platform) : p.len 0 = 0 := by
  cases p <;> rfl

theorem Platform.len_le (p : Platform) (size : ℕ) : p.len size ≤ size := by
  cases p with
  | posix => exact le_rfl
  | windows => exact Nat.mod_le size _

theorem Platform.handed_le (p : Platform) (data : List UInt8) :
    (data.take (p.len data.length)).length + 1 ≤ data.length + 1 :=
  Nat.succ_le_succ (List.length_take_le' _ data)

namespace Sys

variable {σ : Type}

/-- What a call with a shorter length answers, to one who has given the whole. -/
def answering {α β : Type} (f : α → β) (call : σ → Except ℤ α × σ) : σ → Except ℤ β × σ :=
  fun w => ((call w).1.map f, (call w).2)

/-- The system as the build calls it, with lengths that go through the type of `len`. -/
def called (sys : Sys σ) (p : Platform) : Sys σ :=
  match p with
  | .posix => sys
  | .windows =>
    { sys with
      send := fun fd data =>
        answering (Fin.castLE (Platform.windows.handed_le data))
          (sys.send fd (data.take (Platform.windows.len data.length)))
      sendto := fun fd data m len =>
        answering (Fin.castLE (Platform.windows.handed_le data))
          (sys.sendto fd (data.take (Platform.windows.len data.length)) m len)
      recv := fun fd size peek =>
        answering (fun bytes => ⟨bytes.1, bytes.2.trans (Platform.windows.len_le size)⟩)
          (sys.recv fd (Platform.windows.len size) peek)
      recvfrom := fun fd size peek =>
        answering (fun received =>
            (⟨received.1.1, received.1.2.trans (Platform.windows.len_le size)⟩, received.2))
          (sys.recvfrom fd (Platform.windows.len size) peek) }

@[simp] theorem called_posix (sys : Sys σ) : sys.called .posix = sys := rfl

section
variable {sys : Sys σ} {p : Platform} {fd : SockFd} {data : List UInt8} {size : ℕ} {peek : Bool}

theorem answering_id {α : Type} {f : α → α} (same : ∀ a, f a = a) (call : σ → Except ℤ α × σ) :
    answering f call = call := by
  obtain rfl : f = id := funext same
  funext w
  rw [answering, Except.map_id]
  rfl

theorem answering_castLE (call : (data : List UInt8) → σ → Except ℤ (Fin (data.length + 1)) × σ)
    {data given : List UInt8} (le : given.length + 1 ≤ data.length + 1) (same : given = data) :
    answering (Fin.castLE le) (call given) = call data := by
  subst same
  exact answering_id (fun _ => rfl) _

@[simp] theorem length_take_len (p : Platform) (data : List UInt8) :
    (data.take (p.len data.length)).length = p.len data.length := by
  rw [List.length_take, Nat.min_eq_left (p.len_le _)]

theorem called_send : (sys.called p).send fd data =
    answering (Fin.castLE (p.handed_le data)) (sys.send fd (data.take (p.len data.length))) := by
  cases p with
  | posix => exact (answering_castLE (sys.send fd) _ List.take_length).symm
  | windows => rfl

theorem called_recv : (sys.called p).recv fd size peek =
    answering (fun bytes => ⟨bytes.1, bytes.2.trans (p.len_le size)⟩)
      (sys.recv fd (p.len size) peek) := by
  cases p with
  | posix => exact (answering_id (fun _ => rfl) _).symm
  | windows => rfl

theorem called_recvfrom : (sys.called p).recvfrom fd size peek =
    answering (fun received => (⟨received.1.1, received.1.2.trans (p.len_le size)⟩, received.2))
      (sys.recvfrom fd (p.len size) peek) := by
  cases p with
  | posix => exact (answering_id (fun _ => rfl) _).symm
  | windows => rfl

theorem answering_ok_iff {α β : Type} {f : α → β} {call : σ → Except ℤ α × σ} {w w' : σ} {b : β} :
    answering f call w = (.ok b, w') ↔ ∃ a, call w = (.ok a, w') ∧ f a = b := by
  rw [answering]
  cases call w with
  | mk returned next =>
    cases returned with
    | error code => simp [Except.map]
    | ok a => simp [Except.map, and_comm]

theorem answering_error_iff {α β : Type} {f : α → β} {call : σ → Except ℤ α × σ} {w w' : σ}
    {code : ℤ} : answering f call w = (.error code, w') ↔ call w = (.error code, w') := by
  rw [answering]
  cases call w with
  | mk returned next => cases returned <;> simp [Except.map]

end

def refusing (code : ℤ) : Sys σ where
  abi := .linux
  startup := .ofCode .success
  socket _ _ w := (.error code, w)
  close _ w := (.error code, w)
  ioctl _ _ w := (.error code, w)
  setsockopt _ _ w := (.error code, w)
  bind _ _ _ w := (.error code, w)
  listen _ _ w := (.error code, w)
  accept _ w := (.error code, w)
  connect _ _ _ w := (.error code, w)
  getsockname _ w := (.error code, w)
  getpeername _ w := (.error code, w)
  send _ _ w := (.error code, w)
  sendto _ _ _ _ w := (.error code, w)
  recv _ _ _ w := (.error code, w)
  recvfrom _ _ _ w := (.error code, w)
  soError _ w := (.error code, w)
  shutdown _ _ w := (.error code, w)
  poll _ _ _ w := ((.error code, 0), w)
  select _ _ _ w := (.error code, w)
  now w := (0, w)
  errnoLeft _ := 0

end Sys
end Qsox
